import VulnOpsHub.Intelligence.Kev
import VulnOpsHub.Intelligence.Upserts
import Mathlib.Data.Set.Function

set_option autoImplicit false

/-! # What the tables remember of the KEV catalogue

A refresh replaces the catalogue in memory, so the adapter answers by the latest one. The persisted
assertions are only added to: a CVE that was withdrawn stays persisted, and an adapter without a
catalogue still finds it. -/

namespace VulnOpsHub

namespace Intel

variable {Content : Type}

/-! ## The catalogue in memory -/

namespace KevFeed

theorem mem_setEntry {catalog : List (String × KevEntry Content)} {cveId : String}
    {entry : KevEntry Content} {c : String} :
    c ∈ (setEntry catalog cveId entry).map Prod.fst ↔ c ∈ catalog.map Prod.fst ∨ c = cveId := by
  unfold setEntry
  split
  · rename_i hmem
    have hkeys : (catalog.map fun item => if item.1 = cveId then (cveId, entry) else item).map
        Prod.fst = catalog.map Prod.fst := by
      rw [List.map_map]
      refine List.map_congr_left fun item _ => ?_
      by_cases hitem : item.1 = cveId
      · simp [hitem]
      · simp [hitem]
    rw [hkeys]
    refine ⟨Or.inl, ?_⟩
    rintro (h | rfl)
    · exact h
    · exact hmem
  · simp

/-- The keys of the catalogue are the ids of the entries. -/
theorem mem_catalogOf {vulnerabilities : List (KevEntry Content)} {c : String} :
    c ∈ (catalogOf vulnerabilities).map Prod.fst ↔ c ∈ vulnerabilities.filterMap (·.cveId) := by
  induction vulnerabilities using List.reverseRecOn with
  | nil => simp [catalogOf]
  | append_singleton rest entry ih =>
      unfold catalogOf at ih ⊢
      rw [List.foldl_append, List.foldl_cons, List.foldl_nil, List.filterMap_append, List.mem_append]
      cases hid : entry.cveId with
      | none => simpa [hid] using ih
      | some cveId =>
          rw [Option.elim_some, mem_setEntry, ih]
          simp [hid]

/-- A record of the catalogue. -/
theorem exists_of_mem_records {now : Datetime} {feed : KevFeed Content}
    {rec : AdvisoryRecord Content} (h : rec ∈ feed.records now) :
    ∃ c ∈ (feed.catalog.getD []).map Prod.fst, ∃ entry, recordOf now c entry = rec := by
  obtain ⟨c, hc, hget⟩ := List.mem_filterMap.1 h
  obtain ⟨item, -, hrec⟩ := Option.map_eq_some_iff.1 hget
  exact ⟨c, hc, item.2, hrec⟩

/-- Each id of the catalogue has its record. -/
theorem mem_records {now : Datetime} {feed : KevFeed Content} {c : String} :
    (∃ rec ∈ feed.records now, rec.vulnerabilityId = c) ↔
      c ∈ (feed.catalog.getD []).map Prod.fst := by
  constructor
  · rintro ⟨rec, hrec, rfl⟩
    obtain ⟨c, hc, entry, rfl⟩ := exists_of_mem_records hrec
    exact hc
  · intro hc
    obtain ⟨item, hitem, rfl⟩ := List.mem_map.1 hc
    have hfound : ((feed.catalog.getD []).find? fun other => other.1 = item.1).isSome = true :=
      List.find?_isSome.2 ⟨item, hitem, by simp⟩
    obtain ⟨found, hfind⟩ := Option.isSome_iff_exists.1 hfound
    exact ⟨recordOf now item.1 found.2, List.mem_filterMap.2 ⟨item.1, hc,
      Option.map_eq_some_iff.2 ⟨found, hfind, rfl⟩⟩, rfl⟩

end KevFeed

/-! ## The persisted catalogue -/

theorem isKevPersisted_iff {db : IntelDb Content} {c : String} : isKevPersisted db c = true ↔
    ∃ row ∈ db.assertions.rows,
      row.vulnerabilityId = c ∧ row.source = "kev" ∧ row.kev = some true := by
  unfold isKevPersisted
  simp

/-- The id is persisted once the session commits. -/
def Marked (s : IntelSession Content) (c : String) : Prop :=
  isKevPersisted s.flushed c = true ∨ ∃ row ∈ s.pending.filterMap IntelWrite.assertion?,
    row.vulnerabilityId = c ∧ row.source = "kev" ∧ row.kev = some true

section Persisted

variable [Sha256]

/-- The id of the assertion that the feed makes of a CVE. -/
def kevId (c : String) : String := stableId "adv" [c, "kev"]

/-- The ids of these assertions belong to them. -/
def OwnIds (db : IntelDb Content) (ids : List String) : Prop :=
  ∀ key ∈ db.assertions.rows.map (·.columns), ∀ c ∈ ids, key.1 = kevId c → key.2 = (c, "kev")

/-- A record of the feed. -/
structure KevRecord (rec : AdvisoryRecord Content) : Prop where
  source : rec.source = "kev"
  kev : rec.kev = some true
  aliases : rec.aliases = []
  affectedRanges : rec.affectedRanges = []

theorem KevRecord.upsertChildren {rec : AdvisoryRecord Content} (h : KevRecord rec)
    (s : IntelSession Content) : upsertChildren s rec = upsertAdvisoryAssertion s rec := by
  unfold Intel.upsertChildren
  rw [h.aliases, h.affectedRanges]
  rfl

variable {db : IntelDb Content} {s : IntelSession Content} {rec : AdvisoryRecord Content}
  {ids : List String} {c : String}

/-- The assertion that is found for a record of the feed is the one of its CVE. -/
theorem columns_of_found (h : KevRecord rec) (hown : OwnIds db ids)
    (hid : rec.vulnerabilityId ∈ ids) {row : AdvisoryAssertion Content}
    (hfound : assertionFound db rec = some row) :
    row ∈ db.assertions.rows ∧ row.vulnerabilityId = rec.vulnerabilityId ∧ row.source = "kev" := by
  unfold assertionFound at hfound
  rcases Option.or_eq_some_iff.1 hfound with hfound | ⟨-, hfound⟩
  · have hmem := Table.mem_of_find? hfound
    have hkey : row.id = kevId rec.vulnerabilityId := by
      have hkey := Table.key_of_find? hfound
      unfold kevId
      rw [← h.source]
      exact hkey
    exact ⟨hmem, Prod.mk.inj (hown _ (List.mem_map_of_mem hmem) _ hid hkey)⟩
  · have hcolumns := List.find?_some hfound
    simp only [decide_eq_true_eq] at hcolumns
    exact ⟨List.mem_of_find?_eq_some hfound, hcolumns.1, hcolumns.2.trans h.source⟩

/-- **One entry of the feed** marks its CVE and no other. -/
theorem marked_upsertAdvisoryAssertion (h : KevRecord rec) (hown : OwnIds s.flushed ids)
    (hid : rec.vulnerabilityId ∈ ids) :
    Marked (upsertAdvisoryAssertion s rec) c ↔ Marked s c ∨ rec.vulnerabilityId = c := by
  unfold upsertAdvisoryAssertion
  cases hfound : assertionFound s.flushed rec with
  | none =>
      have hpending : (s.add (.insertAssertion (newAssertion rec))).pending.filterMap
          IntelWrite.assertion? = s.pending.filterMap IntelWrite.assertion? ++ [newAssertion rec] := by
        simp [Unflushed.add, IntelWrite.assertion?]
      unfold Marked
      rw [hpending]
      constructor
      · rintro (hflushed | ⟨row, hrow, hv, hs, hk⟩)
        · exact Or.inl (Or.inl hflushed)
        · rcases List.mem_append.1 hrow with hold | hnew
          · exact Or.inl (Or.inr ⟨row, hold, hv, hs, hk⟩)
          · rw [List.mem_singleton.1 hnew] at hv
            exact Or.inr hv
      · rintro ((hflushed | ⟨row, hrow, hmarked⟩) | rfl)
        · exact Or.inl hflushed
        · exact Or.inr ⟨row, List.mem_append_left _ hrow, hmarked⟩
        · exact Or.inr ⟨newAssertion rec, List.mem_append_right _ (List.mem_singleton.2 rfl), rfl,
            h.source, h.kev⟩
  | some row =>
      obtain ⟨hrow, hv, hs⟩ := columns_of_found h hown hid hfound
      have hkev : ((refreshAssertion rec).apply row).kev = some true := by
        show rec.kev.or row.kev = some true
        rw [h.kev]
        rfl
      unfold Marked
      rw [isKevPersisted_iff, isKevPersisted_iff]
      constructor
      · rintro (⟨row', hrow', hv', hs', hk'⟩ | hpending)
        · obtain ⟨old, hold, hchanged⟩ := List.mem_map.1 hrow'
          by_cases hsame : old.id = row.id
          · have heq : old = row :=
              List.inj_on_of_nodup_map s.flushed.assertions.nodup hold hrow hsame
            rw [← hchanged, if_pos (show Keyed.key old = row.id from hsame), heq] at hv'
            exact Or.inr (hv.symm.trans hv')
          · rw [if_neg (show ¬ Keyed.key old = row.id from hsame)] at hchanged
            exact Or.inl (Or.inl ⟨old, hold, hchanged ▸ hv', hchanged ▸ hs', hchanged ▸ hk'⟩)
        · exact Or.inl (Or.inr hpending)
      · rintro ((⟨old, hold, hv', hs', hk'⟩ | hpending) | rfl)
        · refine Or.inl ⟨_, List.mem_map_of_mem hold, ?_⟩
          by_cases hsame : Keyed.key old = row.id
          · rw [if_pos hsame]
            refine ⟨hv', hs', ?_⟩
            show rec.kev.or old.kev = some true
            rw [h.kev]
            rfl
          · rw [if_neg hsame]
            exact ⟨hv', hs', hk'⟩
        · exact Or.inr hpending
        · refine Or.inl ⟨_, List.mem_map_of_mem hrow, ?_⟩
          rw [if_pos (show Keyed.key row = row.id from rfl)]
          exact ⟨hv, hs, hkev⟩

/-- A loop over records of the feed. -/
theorem marked_foldl (records : List (AdvisoryRecord Content))
    (hrecords : ∀ rec ∈ records, KevRecord rec ∧ rec.vulnerabilityId ∈ ids)
    (hown : OwnIds s.flushed ids) :
    Marked (records.foldl upsertChildren s) c ↔
      Marked s c ∨ ∃ rec ∈ records, rec.vulnerabilityId = c := by
  induction records generalizing s with
  | nil => simp
  | cons rec records ih =>
      obtain ⟨hkev, hid⟩ := hrecords rec List.mem_cons_self
      have hown' : OwnIds (upsertChildren s rec).flushed ids := by
        unfold OwnIds
        rw [(upsertChildren_adds s rec).keys.assertions]
        exact hown
      rw [List.foldl_cons, ih (fun rec' hrec' => hrecords rec' (List.mem_cons_of_mem _ hrec')) hown',
        hkev.upsertChildren, marked_upsertAdvisoryAssertion hkev hown hid]
      simp [or_assoc]

omit [Sha256] in
theorem parents_assertions (now : Datetime) (records : List (AdvisoryRecord Content))
    (s : IntelSession Content) :
    (records.foldl (upsertVulnerability now) s).flushed.assertions = s.flushed.assertions := by
  induction records generalizing s with
  | nil => rfl
  | cons rec records ih =>
      rw [List.foldl_cons, ih]
      unfold upsertVulnerability
      split <;> rfl

/-- **A batch of the feed** marks the ids of its records. -/
theorem marked_upsertAdvisoryRecords {now : Datetime} {records : List (AdvisoryRecord Content)}
    {n : ℕ} (h : upsertAdvisoryRecords now records (.start db) = some (s, n))
    (hrecords : ∀ rec ∈ validRecords records, KevRecord rec ∧ rec.vulnerabilityId ∈ ids)
    (hown : OwnIds db ids) : Marked s c ↔
      isKevPersisted db c = true ∨ ∃ rec ∈ validRecords records, rec.vulnerabilityId = c := by
  rw [upsertAdvisoryRecords_start, Option.map_eq_some_iff] at h
  obtain ⟨s₂, hflush, hs⟩ := h
  obtain ⟨rfl, -⟩ := Prod.mk.inj hs
  obtain ⟨db₂, hfold, rfl⟩ := Unflushed.flush_eq_some.1 hflush
  have hparents : Adds (.start db) _ ((validRecords records).flatMap (vulnerabilityWrites now db)) :=
    parents_adds now (validRecords records) (.start db)
  rw [hparents.pending] at hfold
  have hrows : db₂.assertions = db.assertions := by
    have hinserted := (foldlM_apply_eq_some.1 hfold).2.assertions
    have hnone := (@parentWrites_filterMap _ db now (validRecords records)).2.2.2.1
    rw [show (Unflushed.start db : IntelSession Content).pending = [] from rfl, List.nil_append,
      hnone, List.append_nil, parents_assertions] at hinserted
    exact Table.ext hinserted
  rw [marked_foldl (validRecords records) hrecords (by
    unfold OwnIds
    rw [hrows]
    exact hown)]
  refine or_congr_left ?_
  unfold Marked isKevPersisted
  simp [hrows]

/-! ## The commit -/

omit [Sha256] in
/-- A report of health leaves the assertions alone. -/
theorem upsertSourceHealth_assertions (now : Datetime) (health : SourceHealth) (uuid : String)
    (s : IntelSession Content) :
    (upsertSourceHealth now health uuid s).flushed.assertions = s.flushed.assertions ∧
      (upsertSourceHealth now health uuid s).pending.filterMap IntelWrite.assertion?
        = s.pending.filterMap IntelWrite.assertion? := by
  unfold upsertSourceHealth
  cases s.flushed.statuses.byNatural (health.source, "global") with
  | none => exact ⟨rfl, by simp [Unflushed.add, IntelWrite.assertion?]⟩
  | some row => exact ⟨rfl, rfl⟩

omit [Sha256] in
/-- The assertions after a commit. -/
theorem commit_assertions {s' : IntelSession Content} (h : s.commit IntelWrite.apply = some s') :
    s'.committed.assertions.rows
      = s.flushed.assertions.rows ++ s.pending.filterMap IntelWrite.assertion? := by
  obtain ⟨db', hfold, rfl⟩ := Unflushed.commit_eq_some.1 h
  exact (foldlM_apply_eq_some.1 hfold).2.assertions

omit [Sha256] in
theorem isKevPersisted_commit {s' : IntelSession Content}
    (h : s.commit IntelWrite.apply = some s') :
    isKevPersisted s'.committed c = true ↔ Marked s c := by
  unfold Marked
  rw [isKevPersisted_iff, isKevPersisted_iff, commit_assertions h]
  simp only [List.mem_append, or_and_right, exists_or]

omit [Sha256] in
/-- What a failed refresh writes leaves the assertions alone. -/
theorem recordFailure_assertions (now : Datetime) (feed : KevFeed Content) (uuid : String)
    (db : IntelDb Content) : (recordFailure now feed uuid db).assertions = db.assertions := by
  unfold recordFailure
  cases hcommit : (upsertSourceHealth now feed.status uuid (.start db)).commit IntelWrite.apply with
  | none => rfl
  | some s =>
      obtain ⟨hflushed, hpending⟩ := upsertSourceHealth_assertions now feed.status uuid (.start db)
      refine Table.ext ?_
      rw [commit_assertions hcommit, hflushed, hpending]
      exact List.append_nil _

/-! ## Refreshes -/

/-- Its id is neither empty nor `unknown`. -/
def Persistable (c : String) : Prop := c ≠ "" ∧ c ≠ "unknown"

omit [Sha256] in
/-- What a successful fetch leaves. -/
theorem fetchCatalog_true {now : Datetime} {reply : KevReply Content} {feed feed' : KevFeed Content}
    (h : KevFeed.fetchCatalog now reply feed = (true, feed')) :
    ∃ catalog, feed'.catalog = some catalog ∧ ∀ c, c ∈ catalog.map Prod.fst ↔ c ∈ reply.ids := by
  unfold KevFeed.fetchCatalog at h
  cases reply with
  | failed text => exact absurd (congrArg Prod.fst h) (by simp)
  | invalid => exact absurd (congrArg Prod.fst h) (by simp)
  | entries vulnerabilities =>
      obtain ⟨-, rfl⟩ := Prod.mk.inj h
      exact ⟨_, rfl, fun c => KevFeed.mem_catalogOf⟩

/-- **A refresh that succeeds** persists its catalogue beside what was persisted. -/
theorem refreshAndCommit_some {call : RefreshCall Content} {st : KevState Content}
    {feed : KevFeed Content} {db' : IntelDb Content}
    (h : refreshAndCommit call st = (feed, some db')) (hown : OwnIds st.db ids)
    (hids : ∀ c ∈ call.reply.ids, c ∈ ids) (hinj : Set.InjOn kevId {c | c ∈ ids}) :
    (∃ catalog, feed.catalog = some catalog ∧ ∀ c, c ∈ catalog.map Prod.fst ↔ c ∈ call.reply.ids) ∧
      OwnIds db' ids ∧ ∀ c, isKevPersisted db' c = true ↔
        isKevPersisted st.db c = true ∨ (c ∈ call.reply.ids ∧ Persistable c) := by
  unfold refreshAndCommit refreshKevCatalog at h
  rcases hfetch : KevFeed.fetchCatalog call.now call.reply st.feed with ⟨ok, feed'⟩
  rw [hfetch] at h
  cases ok with
  | false => exact absurd (congrArg Prod.snd h) (by simp)
  | true =>
      obtain ⟨rfl, hdb⟩ := Prod.mk.inj h
      obtain ⟨catalog, hcatalog, hkeys⟩ := fetchCatalog_true hfetch
      simp only [Option.map_eq_some_iff, Option.bind_eq_some_iff] at hdb
      obtain ⟨s', ⟨s, ⟨r, hupsert, rfl⟩, hcommit⟩, rfl⟩ := hdb
      obtain ⟨s, n⟩ := r
      have hids' : ∀ c, (∃ rec ∈ feed'.records call.now, rec.vulnerabilityId = c) ↔
          c ∈ call.reply.ids := by
        intro c
        rw [KevFeed.mem_records, hcatalog, Option.getD_some, hkeys]
      have hrecords : ∀ rec ∈ validRecords (feed'.records call.now),
          KevRecord rec ∧ rec.vulnerabilityId ∈ ids := by
        intro rec hrec
        have hmem := (List.mem_filter.1 hrec).1
        obtain ⟨c, -, entry, rfl⟩ := KevFeed.exists_of_mem_records hmem
        exact ⟨⟨rfl, rfl, rfl, rfl⟩, hids _ ((hids' _).1 ⟨_, hmem, rfl⟩)⟩
      obtain ⟨hflushed, hpending⟩ :=
        upsertSourceHealth_assertions call.now feed'.status call.uuid s
      refine ⟨⟨catalog, hcatalog, hkeys⟩, ?_, fun c => ?_⟩
      · have hsession := (upsertAdvisoryRecords_flushed hupsert).2
        have hnew := (@batchWrites_filterMap _ _ st.db (feed'.records call.now)).2.2.2.1
        intro key hkey c hc hid
        rw [commit_assertions hcommit, hflushed, hpending, hsession.pending, hnew, List.map_append,
          hsession.children.assertions] at hkey
        rcases List.mem_append.1 hkey with hold | hadded
        · exact hown key hold c hc hid
        · obtain ⟨row, hrow, rfl⟩ := List.mem_map.1 hadded
          obtain ⟨rec, hrec, rfl⟩ := List.mem_map.1 hrow
          obtain ⟨hkev, hmem⟩ := hrecords rec (List.mem_filter.1 hrec).1
          have heq : kevId rec.vulnerabilityId = kevId c := by
            rw [← hid]
            show _ = stableId "adv" [rec.vulnerabilityId, rec.source]
            rw [hkev.source]
            rfl
          exact Prod.ext (hinj hmem hc heq) hkev.source
      · have hmarked : Marked (upsertSourceHealth call.now feed'.status call.uuid s) c ↔
            Marked s c := by
          unfold Marked isKevPersisted
          rw [hflushed, hpending]
        rw [isKevPersisted_commit hcommit, hmarked,
          marked_upsertAdvisoryRecords hupsert hrecords hown]
        refine or_congr_right ?_
        rw [← hids' c]
        constructor
        · rintro ⟨rec, hrec, rfl⟩
          obtain ⟨hmem, hvalid⟩ := List.mem_filter.1 hrec
          exact ⟨⟨rec, hmem, rfl⟩, by simpa [Persistable] using hvalid⟩
        · rintro ⟨⟨rec, hmem, rfl⟩, hvalid⟩
          exact ⟨rec, List.mem_filter.2 ⟨hmem, by simpa [Persistable] using hvalid⟩, rfl⟩

/-! ## Runs -/

/-- What a step leaves persisted, in memory and of the ids. -/
structure Stepped (ids : List String) (step : KevStep Content) (st : KevState Content)
    (r : KevState Content × Bool) : Prop where
  persisted : ∀ c, isKevPersisted r.1.db c = true ↔
    isKevPersisted st.db c = true ∨ (r.2 = true ∧ c ∈ step.ids ∧ Persistable c)
  own : OwnIds r.1.db ids
  memory : r.2 = true →
    ∃ catalog, r.1.feed.catalog = some catalog ∧ ∀ c, c ∈ catalog.map Prod.fst ↔ c ∈ step.ids

theorem stepped (step : KevStep Content) (st : KevState Content) (hown : OwnIds st.db ids)
    (hids : ∀ c ∈ step.ids, c ∈ ids) (hinj : Set.InjOn kevId {c | c ∈ ids}) :
    Stepped ids step st (step.apply st) := by
  -- a step that does not succeed leaves the assertions alone
  have hfailed : ∀ (feed : KevFeed Content) (db : IntelDb Content),
      db.assertions = st.db.assertions → Stepped ids step st (⟨feed, db⟩, false) := by
    intro feed db hsame
    refine ⟨fun c => ?_, ?_, fun h => Bool.noConfusion h⟩
    · unfold isKevPersisted
      simp [hsame]
    · unfold OwnIds
      rw [hsame]
      exact hown
  have hsucceeded : ∀ (call : RefreshCall Content) (feed : KevFeed Content) (db : IntelDb Content),
      step.ids = call.reply.ids → refreshAndCommit call st = (feed, some db) →
        Stepped ids step st (⟨feed, db⟩, true) := by
    intro call feed db hcall hrefresh
    obtain ⟨hmemory, hown', hpersisted⟩ :=
      refreshAndCommit_some hrefresh hown (hcall ▸ hids) hinj
    rw [← hcall] at hmemory hpersisted
    exact ⟨fun c => by simpa using hpersisted c, hown', fun _ => hmemory⟩
  cases step with
  | refresh call =>
      rcases hrefresh : refreshAndCommit call st with ⟨feed, db⟩
      simp only [KevStep.apply, hrefresh]
      cases db with
      | none => exact hfailed feed st.db rfl
      | some db => exact hsucceeded call feed db rfl hrefresh
  | orchestratedRefresh call failureUuid =>
      rcases hrefresh : refreshAndCommit call st with ⟨feed, db⟩
      simp only [KevStep.apply, hrefresh]
      cases db with
      | none => exact hfailed feed _ (recordFailure_assertions _ _ _ _)
      | some db => exact hsucceeded call feed db rfl hrefresh
  | restart => exact hfailed .start st.db rfl

theorem runKev_concat (steps : List (KevStep Content)) (step : KevStep Content)
    (st : KevState Content) : runKev (steps ++ [step]) st =
      ((step.apply (runKev steps st).1).1,
        if (step.apply (runKev steps st).1).2 then (runKev steps st).2 ++ step.ids
        else (runKev steps st).2) := by
  unfold runKev
  rw [List.foldl_append]
  rfl

/-- **A run** persists what its successful refreshes have read, beside what was persisted. -/
theorem runKev_persisted (steps : List (KevStep Content)) (st : KevState Content)
    (hown : OwnIds st.db ids) (hids : ∀ step ∈ steps, ∀ c ∈ step.ids, c ∈ ids)
    (hinj : Set.InjOn kevId {c | c ∈ ids}) :
    OwnIds (runKev steps st).1.db ids ∧ ∀ c, isKevPersisted (runKev steps st).1.db c = true ↔
      isKevPersisted st.db c = true ∨ (c ∈ (runKev steps st).2 ∧ Persistable c) := by
  induction steps using List.reverseRecOn with
  | nil => exact ⟨hown, fun c => by simp [runKev]⟩
  | append_singleton steps step ih =>
      obtain ⟨hown', hpersisted⟩ := ih fun step' hstep' =>
        hids step' (List.mem_append_left _ hstep')
      have hstepped := stepped step (runKev steps st).1 hown'
        (hids step (List.mem_append_right _ (List.mem_singleton.2 rfl))) hinj
      rw [runKev_concat]
      refine ⟨hstepped.own, fun c => ?_⟩
      rw [hstepped.persisted c, hpersisted c]
      cases (step.apply (runKev steps st).1).2 <;> simp [or_and_right, or_assoc]

/-- **The persisted catalogue only grows.** After a refresh that succeeds, at the end of any run, the
    ids of all refreshes so far are persisted, the adapter answers by the latest catalogue, and an
    adapter that is started anew agrees with it but for the ids that were withdrawn and the two that
    are never persisted. -/
theorem kevPersisted_grows (steps : List (KevStep Content)) (step : KevStep Content)
    (st : KevState Content) (hown : OwnIds st.db ((steps ++ [step]).flatMap KevStep.ids))
    (hinj : Set.InjOn kevId {c | c ∈ (steps ++ [step]).flatMap KevStep.ids})
    (hsucceeded : (step.apply (runKev steps st).1).2 = true) :
    let after := (step.apply (runKev steps st).1).1
    let restarted := (KevStep.restart.apply after).1
    (∀ c, isKevPersisted after.db c = true ↔ isKevPersisted st.db c = true ∨
      (c ∈ (runKev steps st).2 ++ step.ids ∧ Persistable c)) ∧
    (∀ c, after.feed.adapter.isKev (isKevPersisted after.db) c = true ↔ c ∈ step.ids) ∧
    ∀ c, restarted.feed.adapter.isKev (isKevPersisted restarted.db) c
        = after.feed.adapter.isKev (isKevPersisted after.db) c ↔
      if c ∈ step.ids then isKevPersisted st.db c = true ∨ Persistable c
      else isKevPersisted st.db c = false ∧ (c ∈ (runKev steps st).2 → ¬ Persistable c) := by
  have hids : ∀ step' ∈ steps ++ [step], ∀ c ∈ step'.ids,
      c ∈ (steps ++ [step]).flatMap KevStep.ids :=
    fun step' hstep' c hc => List.mem_flatMap.2 ⟨step', hstep', hc⟩
  obtain ⟨-, hpersisted⟩ := runKev_persisted (steps ++ [step]) st hown hids hinj
  obtain ⟨hown', -⟩ := runKev_persisted steps st hown
    (fun step' hstep' => hids step' (List.mem_append_left _ hstep')) hinj
  obtain ⟨catalog, hcatalog, hkeys⟩ := (stepped step (runKev steps st).1 hown'
    (hids step (List.mem_append_right _ (List.mem_singleton.2 rfl))) hinj).memory hsucceeded
  rw [runKev_concat, if_pos hsucceeded] at hpersisted
  have hmemory : ∀ c, (step.apply (runKev steps st).1).1.feed.adapter.isKev
      (isKevPersisted (step.apply (runKev steps st).1).1.db) c = true ↔ c ∈ step.ids := by
    intro c
    simp only [KEVAdapter.isKev, KevFeed.adapter, hcatalog, Option.map_some, decide_eq_true_eq]
    exact hkeys c
  refine ⟨hpersisted, hmemory, fun c => ?_⟩
  show isKevPersisted (step.apply (runKev steps st).1).1.db c = _ ↔ _
  rw [Bool.eq_iff_iff, hmemory, hpersisted c, List.mem_append]
  by_cases hc : c ∈ step.ids
  · simp [hc]
  · simp only [hc, or_false, if_false, iff_false, not_or, not_and, Bool.not_eq_true]

end Persisted

/-! ## A withdrawn CVE -/

/-- The digests of the texts that are hashed below. -/
@[reducible]
def kevDigests : Sha256 where
  hexdigest bytes :=
    (List.lookup bytes
      [("CVE-2026-12345|kev".toUTF8, "cf5fdc490d6a2f6470bdc7fd75472d4a6da62899c6ef6b08aa83f2addbbefb52"),
        ("CVE-2026-54321|kev".toUTF8, "cb36358ed4f4d1caa946383302781c6852ea97bd55f1799296230abf9fefaae4")]).getD ""

def kevEntry (cveId : String) : KevEntry Unit := ⟨some cveId, some "2026-10-01", none, ()⟩

/-- A refresh that reads these ids. -/
def sampleRefresh (n : ℕ) (ids : List String) : KevStep Unit :=
  .refresh ⟨.utc n, .entries (ids.map kevEntry), "0123456789ab"⟩

def sampleKevState : KevState Unit := ⟨.start, .empty⟩

/-- The feed has a CVE that is gone at the next refresh. -/
def withdrawal : List (KevStep Unit) :=
  [sampleRefresh 0 ["CVE-2026-12345", "CVE-2026-54321"], sampleRefresh 1 ["CVE-2026-54321"]]

/-- **A withdrawn CVE stays persisted**: both refreshes succeed, the adapter denies the CVE, and an
    adapter that is started anew affirms it. -/
theorem withdrawn_still_persisted :
    let after := (@runKev Unit kevDigests withdrawal sampleKevState).1
    let restarted := (@KevStep.apply Unit kevDigests .restart after).1
    (@runKev Unit kevDigests withdrawal sampleKevState).2
        = ["CVE-2026-12345", "CVE-2026-54321", "CVE-2026-54321"] ∧
      ¬ (∀ c, isKevPersisted after.db c = true ↔ c ∈ (sampleRefresh 1 ["CVE-2026-54321"]).ids) ∧
      after.feed.adapter.isKev (isKevPersisted after.db) "CVE-2026-12345" = false ∧
      restarted.feed.adapter.isKev (isKevPersisted restarted.db) "CVE-2026-12345" = true := by
  refine ⟨by decide +kernel, fun h => ?_, by decide +kernel, by decide +kernel⟩
  have hwithdrawn := (h "CVE-2026-12345").1 (by decide +kernel)
  exact absurd hwithdrawn (by decide +kernel)

/-- The ids that both refreshes have read are persisted. -/
theorem kevPersisted_grows_sample :
    let first := @runKev Unit kevDigests [sampleRefresh 0 ["CVE-2026-12345", "CVE-2026-54321"]]
      sampleKevState
    let after := (@KevStep.apply Unit kevDigests (sampleRefresh 1 ["CVE-2026-54321"]) first.1).1
    ∀ c, isKevPersisted after.db c = true ↔ isKevPersisted sampleKevState.db c = true ∨
      (c ∈ first.2 ++ ["CVE-2026-54321"] ∧ Persistable c) := by
  have hinj : ∀ c ∈ withdrawal.flatMap KevStep.ids, ∀ c' ∈ withdrawal.flatMap KevStep.ids,
      @kevId kevDigests c = @kevId kevDigests c' → c = c' := by decide +kernel
  exact (@kevPersisted_grows Unit kevDigests
    [sampleRefresh 0 ["CVE-2026-12345", "CVE-2026-54321"]] (sampleRefresh 1 ["CVE-2026-54321"])
    sampleKevState
    (fun key hkey => absurd hkey (by simp [sampleKevState, IntelDb.empty, Table.empty]))
    (fun c hc c' hc' heq => hinj c hc c' hc' heq) (by decide +kernel)).1

end Intel

end VulnOpsHub
