import VulnOpsHub.Integrations.Isolation
import VulnOpsHub.Sbom.Ledger

set_option autoImplicit false

/-! # Runs of calls that ingest bills of materials

In a run whose calls are admissible, `ingest` is the register of `Ledger.lean`. So a document is stored
once for each organization, and an organization notices nothing of the others. -/

namespace VulnOpsHub

namespace Sbom

/-- A call with its result. -/
structure Submission where
  settings : StorageSettings
  call : SbomCall
  result : Except PyError SubmissionResult

def Submission.request (x : Submission) : StorageSettings × SbomCall := (x.settings, x.call)

/-- Lists that are told apart by the keys of their items. -/
theorem filter_flatMap_key {α β κ : Type} [DecidableEq κ] {l : List α} {key : α → κ}
    {f : α → List β} {g : β → κ} (hg : ∀ a ∈ l, ∀ b ∈ f a, g b = key a)
    (hnodup : (l.map key).Nodup) {a : α} (ha : a ∈ l) :
    (l.flatMap f).filter (fun b => g b = key a) = f a := by
  induction l with
  | nil => cases ha
  | cons x l ih =>
      rw [List.map_cons, List.nodup_cons] at hnodup
      rw [List.flatMap_cons, List.filter_append]
      have hrest : ∀ y ∈ l, ∀ b ∈ f y, g b = key y :=
        fun y hy => hg y (List.mem_cons_of_mem _ hy)
      rcases List.mem_cons.1 ha with rfl | ha
      · have hself : (f a).filter (fun b => g b = key a) = f a :=
          List.filter_eq_self.2 fun b hb => by simpa using hg a List.mem_cons_self b hb
        have hnone : (l.flatMap f).filter (fun b => g b = key a) = [] := by
          refine List.filter_eq_nil_iff.2 fun b hb => ?_
          obtain ⟨y, hy, hb⟩ := List.mem_flatMap.1 hb
          have hne : key y ≠ key a := fun h => hnodup.1 (h ▸ List.mem_map_of_mem hy)
          simpa [hrest y hy b hb] using hne
        rw [hself, hnone, List.append_nil]
      · have hne : key x ≠ key a := fun h => hnodup.1 (h ▸ List.mem_map_of_mem ha)
        have hnone : (f x).filter (fun b => g b = key a) = [] :=
          List.filter_eq_nil_iff.2 fun b hb => by
            simpa [hg x List.mem_cons_self b hb] using hne
        rw [hnone, List.nil_append, ih hrest hnodup.2 ha]

/-- Of old rows and added ones a filter leaves the added ones. -/
theorem map_filter_added {α β δ : Type} {old : List α} {w : List β} {f : β → α} {q : α → Bool}
    {g : α → δ} {v : β → δ} (hold : ∀ r ∈ old, q r = false)
    (hadded : ∀ p ∈ w, q (f p) = true ∧ g (f p) = v p) :
    ((old ++ w.map f).filter q).map g = w.map v := by
  have hnone : old.filter q = [] := List.filter_eq_nil_iff.2 fun r hr => by simp [hold r hr]
  have hall : (w.map f).filter q = w.map f := by
    refine List.filter_eq_self.2 fun r hr => ?_
    obtain ⟨p, hp, rfl⟩ := List.mem_map.1 hr
    exact (hadded p hp).1
  rw [List.filter_append, hnone, hall, List.nil_append, List.map_map]
  exact List.map_congr_left fun p hp => (hadded p hp).2

section Runs

variable [Python] [Driver] [Sha256]

/-- Calls one after the other, each of them admissible. -/
inductive SbomRun : SbomStore → List Submission → SbomStore → Prop
  | done (s : SbomStore) : SbomRun s [] s
  | call {s t : SbomStore} {log : List Submission} (settings : StorageSettings) (c : SbomCall)
      (hadmissible : Admissible settings c s) (rest : SbomRun (ingest settings c s).2 log t) :
      SbomRun s (⟨settings, c, (ingest settings c s).1⟩ :: log) t

/-- What the calls that returned filed their documents under. -/
def acceptedKeys (log : List Submission) : List (String × String) :=
  (log.filter fun x => x.result.toBool).map fun x => x.call.key

/-! ## One call -/

variable {settings : StorageSettings} {c : SbomCall} {parsed : ParsedSbom} {s₀ s t : SbomStore}
  {w : List ((String × String) × SbomRows)} {log : List Submission}

omit [Python] [Driver] in
theorem Holds.start (hpristine : Pristine s₀) : Holds s₀ [] s₀ :=
  ⟨Stored.refl s₀, hpristine.files, by simp⟩

omit [Python] [Driver] in
theorem Holds.documents (hpristine : Pristine s₀) (h : Holds s₀ w s) :
    s.documents.rows = w.map fun p => p.2.document := by
  rw [h.stored.documents, hpristine.documents, List.map_map]
  rfl

omit [Python] [Driver] in
/-- The rows that the entries add to what was there. -/
theorem Holds.rows (h : Holds s₀ w s) :
    s.snapshots.rows = s₀.snapshots.rows ++ w.map (fun p => p.2.evidence.snapshot) ∧
      s.auditEvents.rows = s₀.auditEvents.rows ++ w.map (fun p => p.2.evidence.audit) ∧
      s.outboxEvents.rows = s₀.outboxEvents.rows ++ w.map (fun p => p.2.evidence.outbox) := by
  have hevidence := h.stored.evidence
  refine ⟨hevidence.snapshots.trans ?_, hevidence.auditEvents.trans ?_,
    hevidence.outboxEvents.trans ?_⟩
  · rw [List.map_map, List.map_map]
    rfl
  · rw [List.map_map, List.map_map]
    rfl
  · rw [List.map_map, List.map_map]
    rfl

omit [Python] [Driver] in
/-- The lookup of `ingest` is the lookup of the register. -/
theorem Holds.byNatural (hpristine : Pristine s₀) (h : Holds s₀ w s) (k : String × String) :
    s.documents.byNatural k = (w.lookup k).map SbomRows.document := by
  unfold UniqueTable.byNatural
  rw [h.documents hpristine]
  have hfiled := h.filed
  clear h
  induction w with
  | nil => rfl
  | cons p w ih =>
      obtain ⟨key, rows⟩ := p
      have hrest := ih fun q hq => hfiled q (List.mem_cons_of_mem _ hq)
      have hp : NaturalKey.natural rows.document = key := (hfiled _ List.mem_cons_self).document
      by_cases hk : k = key
      · simp [hp, hk]
      · have hne : (k == key) = false := by simpa using hk
        simp [List.lookup_cons, hp, hne, Ne.symm hk, hrest]

/-- Without a document of the organization nothing has the key of its snapshot. -/
theorem Holds.snapshotKey (hpristine : Pristine s₀) (h : Holds s₀ w s)
    (hnone : w.lookup c.key = none) (hadmitted : Admitted settings c parsed s) :
    s.snapshots.byNatural (c.snapshotKey parsed) = none := by
  rw [UniqueTable.byNatural_eq_none]
  intro row hrow hkey
  have horg := hadmitted.unshadowed row hrow hkey
  have hsource : row.source = "sbom" := congrArg SnapshotKey.source hkey
  have hdigest : row.contentSha256 = c.digest := congrArg SnapshotKey.contentSha256 hkey
  rw [h.stored.evidence.snapshots] at hrow
  rcases List.mem_append.1 hrow with hold | hfiled
  · exact hpristine.snapshots row hold hsource
  · simp only [List.map_map, List.mem_map] at hfiled
    obtain ⟨p, hp, rfl⟩ := hfiled
    have hpkey : p.1 = c.key := by
      rw [← (h.filed p hp).snapshot.2]
      exact Prod.ext hdigest horg
    have hne := List.lookup_eq_none_iff.1 hnone p hp
    simp [hpkey] at hne

/-- **One call.** `ingest` answers as the register does, and the store holds what it files. -/
theorem Holds.ingest (hpristine : Pristine s₀) (h : Holds s₀ w s)
    (hadmissible : Admissible settings c s) :
    (Sbom.ingest settings c s).1
        = ((sbomRegister s₀.aliases.rows).submit (settings, c) w).1.map c.answer ∧
      Holds s₀ ((sbomRegister s₀.aliases.rows).submit (settings, c) w).2
        (Sbom.ingest settings c s).2 ∧
      (∀ parsed, parse c.raw = .ok parsed → (Sbom.ingest settings c s).1.toBool = true) := by
  have hbyNatural := h.byNatural hpristine c.key
  have hfiles := ingest_files_sound settings c h.files
  cases hlookup : w.lookup c.key with
  | some rows =>
      rw [hlookup] at hbyNatural
      have hingest : Sbom.ingest settings c s = (.ok (c.found rows.document), s) := by
        rcases ingest_cases settings c s with ⟨existing, hfound, hcall⟩ | ⟨hnone, -⟩
        · rw [hcall, Option.some.inj (hfound.symm.trans hbyNatural)]
        · cases hnone.symm.trans hbyNatural
      rw [Register.submit_of_some (R := sbomRegister s₀.aliases.rows) (c := (settings, c)) hlookup,
        hingest]
      exact ⟨rfl, h, fun _ _ => rfl⟩
  | none =>
      rw [hlookup] at hbyNatural
      cases hparse : parse c.raw with
      | error e =>
          have hmake : (sbomRegister s₀.aliases.rows).make (settings, c) = .error e := by
            simp only [sbomRegister, newRows, hparse]
            rfl
          have hingest : Sbom.ingest settings c s = (.error e, s) := by
            have hnone : s.documents.byNatural (c.digest, c.organizationId) = none := hbyNatural
            simp only [Sbom.ingest, hnone, readSbom, hparse]
            rfl
          rw [Register.submit_of_error (R := sbomRegister s₀.aliases.rows) (c := (settings, c)) hlookup
            hmake, hingest]
          exact ⟨rfl, h, fun _ h => by cases h⟩
      | ok parsed =>
          have hadmitted := hadmissible hbyNatural parsed hparse
          have hok := ingest_ok hbyNatural hparse hadmitted h.files
            (h.snapshotKey hpristine hlookup hadmitted)
          rcases ingest_cases settings c s with ⟨existing, hfound, -⟩ | ⟨-, ⟨e, he, -⟩ |
            ⟨rows, hrows, -, hstored⟩⟩
          · cases hfound.symm.trans hbyNatural
          · cases he.symm.trans hok
          · rw [h.stored.aliases] at hrows
            rw [Register.submit_of_ok (R := sbomRegister s₀.aliases.rows) (c := (settings, c)) hlookup
              hrows, hok]
            refine ⟨rfl, ⟨?_, hfiles, ?_⟩, fun _ _ => rfl⟩
            · rw [List.map_append]
              exact h.stored.trans hstored
            · intro p hp
              rcases List.mem_append.1 hp with hp | hp
              · exact h.filed p hp
              · rw [List.mem_singleton.1 hp]
                exact (newRows_filedUnder hrows).1

/-! ## Whole runs -/

/-- The log of a run of the register, as a log of calls. -/
def answered (log : List ((StorageSettings × SbomCall) × Except PyError (Filed SbomRows))) :
    List Submission :=
  log.map fun x => ⟨x.1.1, x.1.2, x.2.map x.1.2.answer⟩

/-- **A run of calls is a run of the register.** -/
theorem SbomRun.holds (hpristine : Pristine s₀) (hrun : SbomRun s log t) (h : Holds s₀ w s) :
    log = answered ((sbomRegister s₀.aliases.rows).run (log.map Submission.request) w).1 ∧
      Holds s₀ ((sbomRegister s₀.aliases.rows).run (log.map Submission.request) w).2 t ∧
      ∀ x ∈ log, ∀ parsed, parse x.call.raw = .ok parsed → x.result.toBool = true := by
  induction hrun generalizing w with
  | done s => exact ⟨rfl, h, by simp⟩
  | @call s t log settings c hadmissible rest ih =>
      obtain ⟨hresult, hholds, haccepted⟩ := h.ingest hpristine hadmissible
      obtain ⟨hlog, hend, hall⟩ := ih hholds
      refine ⟨?_, hend, ?_⟩
      · exact congrArg₂ List.cons (congrArg (Submission.mk settings c) hresult) hlog
      · intro x hx
        rcases List.mem_cons.1 hx with rfl | hx
        · exact haccepted
        · exact hall x hx

theorem SbomRun.split {pre post : List Submission} {x : Submission}
    (hrun : SbomRun s (pre ++ x :: post) t) :
    ∃ u, SbomRun s pre u ∧ Admissible x.settings x.call u ∧
      x.result = (ingest x.settings x.call u).1 ∧
      SbomRun (ingest x.settings x.call u).2 post t := by
  induction pre generalizing s with
  | nil =>
      cases hrun with
      | call settings c hadmissible rest => exact ⟨s, .done s, hadmissible, rfl, rest⟩
  | cons y pre ih =>
      cases hrun with
      | call settings c hadmissible rest =>
          obtain ⟨u, hpre, hrest⟩ := ih rest
          exact ⟨u, .call settings c hadmissible hpre, hrest⟩

theorem keysOf_answered (hpristine : Pristine s₀) (hrun : SbomRun s₀ log s) :
    (sbomRegister s₀.aliases.rows).keysOf
        ((sbomRegister s₀.aliases.rows).run (log.map Submission.request) []).1
      = acceptedKeys log := by
  have hlog := (hrun.holds hpristine (Holds.start hpristine)).1
  conv_rhs => rw [hlog]
  unfold Register.keysOf acceptedKeys answered
  rw [List.filter_map, List.map_map]
  refine congrArg₂ List.map rfl (List.filter_congr fun x _ => ?_)
  cases h : x.2 <;> simp [h, Except.map, Except.toBool]

/-! ## What a run has stored -/

omit [Python] [Driver] in
/-- Of each entry the store has the occurrences, in their order. -/
theorem Holds.occurrences (hpristine : Pristine s₀) (h : Holds s₀ w s)
    {p : (String × String) × SbomRows} (hp : p ∈ w) :
    (s.occurrences.rows.filter (·.sbomId = p.2.document.id)).map ComponentOccurrence.unlinked
      = p.2.occurrences := by
  have hids : (w.map fun p => p.2.document.id).Nodup := by
    have hnodup := s.documents.nodup
    rw [h.documents hpristine, List.map_map] at hnodup
    exact hnodup
  have hrows : s.occurrences.rows.map ComponentOccurrence.unlinked
      = w.flatMap fun p => p.2.occurrences := by
    rw [h.stored.occurrences, hpristine.occurrences, List.map_nil, List.nil_append,
      List.flatMap_map]
  have hfilter := congrArg
    (List.filter fun o : ComponentOccurrence => o.sbomId = p.2.document.id) hrows
  rw [List.filter_map] at hfilter
  rw [← filter_flatMap_key (g := fun o : ComponentOccurrence => o.sbomId)
    (fun q hq => (h.filed q hq).occurrences) hids hp]
  exact hfilter

/-- Each accepted document is stored once for its organization, and its components with it. -/
structure IngestedOnce (log : List Submission) (s : SbomStore) : Prop where
  accepted : ∀ x ∈ log, ∀ parsed, parse x.call.raw = .ok parsed → x.result.toBool = true
  documents : ∀ k, (s.documents.rows.map NaturalKey.natural).count k
    = if k ∈ acceptedKeys log then 1 else 0
  snapshots : (s.snapshots.rows.filter (·.source = "sbom")).map
    (fun r => (r.contentSha256, r.organizationId)) = s.documents.rows.map NaturalKey.natural
  outboxEvents : (s.outboxEvents.rows.filter (·.aggregateType = "sbom")).map
    OutboxEvent.aggregateId = s.documents.rows.map SbomDocument.id
  auditEvents : (s.auditEvents.rows.filter (·.subjectType = "sbom")).map AuditEvent.subjectId
    = s.documents.rows.map SbomDocument.id
  occurrences : ∀ pre x post, log = pre ++ x :: post → x.call.key ∉ acceptedKeys pre →
    ∀ r, x.result = .ok r → ∃ parsed, parse x.call.raw = .ok parsed ∧
      (s.occurrences.rows.filter (·.sbomId = r.sbomId)).map (·.fields.parsed) = parsed.components
  linked : Linked s

/-- The first accepted call of a key has its components stored. -/
theorem SbomRun.occurrences (hpristine : Pristine s₀) {pre post : List Submission} {x : Submission}
    (hrun : SbomRun s₀ (pre ++ x :: post) s) (hfirst : x.call.key ∉ acceptedKeys pre)
    {r : SubmissionResult} (hresult : x.result = .ok r) :
    ∃ parsed, parse x.call.raw = .ok parsed ∧
      (s.occurrences.rows.filter (·.sbomId = r.sbomId)).map (·.fields.parsed)
        = parsed.components := by
  obtain ⟨u, hpre, hadmissible, hcall, hpost⟩ := hrun.split
  have hu := (hpre.holds hpristine (Holds.start hpristine)).2.1
  have hnone : ((sbomRegister s₀.aliases.rows).run (pre.map Submission.request) []).2.lookup x.call.key
      = none := by
    refine List.lookup_eq_none_iff.2 fun p hp => ?_
    have hkey := Register.mem_keys_run.1 (List.mem_map_of_mem (f := Prod.fst) hp)
    rw [keysOf_answered hpristine hpre] at hkey
    simp only [List.map_nil, List.not_mem_nil, false_or] at hkey
    simpa using fun h : x.call.key = p.1 => hfirst (h ▸ hkey)
  have hbyNatural := hu.byNatural hpristine x.call.key
  rw [hnone] at hbyNatural
  rcases ingest_cases x.settings x.call u with ⟨existing, hfound, -⟩ | ⟨-, ⟨e, he, -⟩ |
    ⟨rows, hrows, hok, -⟩⟩
  · cases hfound.symm.trans hbyNatural
  · cases (hresult.symm.trans hcall).trans he
  · obtain rfl := Except.ok.inj ((hresult.symm.trans hcall).trans hok)
    obtain ⟨parsed, assetId, uri, hparse, -, hoccurrences⟩ := newRows_eq_ok hrows
    have hadmitted := hadmissible hbyNatural parsed hparse
    have hparsed := occurrenceRows_parsed hoccurrences hadmitted.storable.components
    rw [hu.stored.aliases] at hrows
    have hafter := hu.ingest hpristine hadmissible
    rw [Register.submit_of_ok (R := sbomRegister s₀.aliases.rows) (c := (x.settings, x.call)) hnone
      hrows]
      at hafter
    have hend := (hpost.holds hpristine hafter.2.1).2.1
    have hlookup : List.lookup x.call.key (((sbomRegister s₀.aliases.rows).run
        (pre.map Submission.request) []).2 ++ [(x.call.key, rows)]) = some rows := by
      simp [List.lookup_append, hnone]
    have hentry := Register.mem_of_lookup (Register.lookup_run
      (R := sbomRegister s₀.aliases.rows) (post.map Submission.request) hlookup)
    have hstored := hend.occurrences hpristine hentry
    refine ⟨parsed, hparse, ?_⟩
    rw [← hparsed, ← hstored, List.map_map, (newRows_filedUnder hrows).2]
    rfl

theorem SbomRun.linked (hrun : SbomRun s log t) (hlinked : Linked s) : Linked t := by
  induction hrun with
  | done s => exact hlinked
  | call settings c hadmissible rest ih => exact ih (ingest_linked hadmissible hlinked)

theorem SbomRun.ingestedOnce (hpristine : Pristine s₀) (hrun : SbomRun s₀ log s) :
    IngestedOnce log s := by
  obtain ⟨-, hholds, haccepted⟩ := hrun.holds hpristine (Holds.start hpristine)
  have hdocuments := hholds.documents hpristine
  have hkeys : s.documents.rows.map NaturalKey.natural
      = ((sbomRegister s₀.aliases.rows).run (log.map Submission.request) []).2.map Prod.fst := by
    rw [hdocuments, List.map_map]
    exact List.map_congr_left fun p hp => (hholds.filed p hp).document
  have hids : s.documents.rows.map SbomDocument.id
      = ((sbomRegister s₀.aliases.rows).run (log.map Submission.request) []).2.map
        fun p => p.2.document.id := by
    rw [hdocuments, List.map_map]
    rfl
  obtain ⟨hsnapshots, haudits, houtbox⟩ := hholds.rows
  refine ⟨haccepted, fun k => ?_, ?_, ?_, ?_, ?_, ?_⟩
  · have hmem : k ∈ s.documents.rows.map NaturalKey.natural ↔ k ∈ acceptedKeys log := by
      rw [hkeys, Register.mem_keys_run, keysOf_answered hpristine hrun]
      simp
    by_cases hk : k ∈ acceptedKeys log
    · rw [if_pos hk]
      exact List.count_eq_one_of_mem s.documents.natural_nodup (hmem.2 hk)
    · rw [if_neg hk]
      exact List.count_eq_zero_of_not_mem fun h => hk (hmem.1 h)
  · rw [hsnapshots, hkeys]
    exact map_filter_added (fun r hr => by simpa using hpristine.snapshots r hr)
      fun p hp => ⟨by simpa using (hholds.filed p hp).snapshot.1, (hholds.filed p hp).snapshot.2⟩
  · rw [houtbox, hids]
    exact map_filter_added (fun r hr => by simpa using hpristine.outboxEvents r hr)
      fun p hp => ⟨by simpa using (hholds.filed p hp).outbox.1, (hholds.filed p hp).outbox.2.1⟩
  · rw [haudits, hids]
    exact map_filter_added (fun r hr => by simpa using hpristine.auditEvents r hr)
      fun p hp => ⟨by simpa using (hholds.filed p hp).audit.1, (hholds.filed p hp).audit.2.1⟩
  · rintro pre x post rfl hfirst r hresult
    exact hrun.occurrences hpristine hfirst hresult
  · refine hrun.linked fun o ho => ?_
    rw [hpristine.occurrences] at ho
    cases ho

/-- A call whose document has been accepted before finds it and changes nothing. -/
def Repeats (log : List Submission) (s : SbomStore) : Prop :=
  ∀ x ∈ log, ∀ r, x.result = .ok r → ∀ settings c, c.key = x.call.key →
    ∃ again, ingest settings c s = (.ok again, s) ∧ again.sbomId = r.sbomId

theorem SbomRun.repeats (hpristine : Pristine s₀) (hrun : SbomRun s₀ log s) : Repeats log s := by
  obtain ⟨hlog, hholds, -⟩ := hrun.holds hpristine (Holds.start hpristine)
  intro x hx r hresult settings c hkey
  rw [hlog] at hx
  obtain ⟨⟨⟨storage, call⟩, filed⟩, hmem, rfl⟩ := List.mem_map.1 hx
  cases filed with
  | error e => cases hresult
  | ok filed =>
      have hlookup := Register.lookup_of_mem_run hmem
      have hbyNatural : s.documents.byNatural c.key = some filed.entry.document := by
        rw [hholds.byNatural hpristine, hkey]
        exact congrArg (Option.map SbomRows.document) hlookup
      refine ⟨c.found filed.entry.document, ?_, ?_⟩
      · rcases ingest_cases settings c s with ⟨existing, hfound, hcall⟩ | ⟨hnone, -⟩
        · rw [hcall, Option.some.inj (hfound.symm.trans hbyNatural)]
        · cases hnone.symm.trans hbyNatural
      · obtain rfl := Except.ok.inj hresult
        cases hnew : filed.new with
        | false => simp only [SbomCall.answer, hnew]; rfl
        | true =>
            have hid := (newRows_filedUnder (Register.make_of_mem_run hmem hnew)).2
            simp only [SbomCall.answer, hnew]
            exact hid

/-! ## Other organizations -/

def submissionsOf (organizationId : String) (log : List Submission) : List Submission :=
  log.filter fun x => x.call.organizationId = organizationId

/-- The occurrences of the documents of an organization, but for the components they share. -/
def occurrencesOf (organizationId : String) (s : SbomStore) : List ComponentOccurrence :=
  (s.documents.rows.filter (·.organizationId = organizationId)).flatMap fun d =>
    (s.occurrences.rows.filter (·.sbomId = d.id)).map ComponentOccurrence.unlinked

/-- Two stores have the same rows of an organization. -/
structure SameStored (organizationId : String) (s s' : SbomStore) : Prop where
  documents : s.documents.rows.filter (·.organizationId = organizationId)
    = s'.documents.rows.filter (·.organizationId = organizationId)
  snapshots : s.snapshots.rows.filter (·.organizationId = organizationId)
    = s'.snapshots.rows.filter (·.organizationId = organizationId)
  auditEvents : s.auditEvents.rows.filter (·.organizationId = organizationId)
    = s'.auditEvents.rows.filter (·.organizationId = organizationId)
  outboxEvents : s.outboxEvents.rows.filter (OutboxEvent.isOf organizationId)
    = s'.outboxEvents.rows.filter (OutboxEvent.isOf organizationId)
  occurrences : occurrencesOf organizationId s = occurrencesOf organizationId s'

/-- The entries of an organization. -/
abbrev entriesFor (organizationId : String) (w : List ((String × String) × SbomRows)) :
    List ((String × String) × SbomRows) :=
  Register.entriesOf (fun k => k.2 = organizationId) w

omit [Python] [Driver] [Sha256] in
theorem filter_map_entriesFor {α : Type} {organizationId : String} (f : SbomRows → α) (q : α → Bool)
    (hq : ∀ p ∈ w, q (f p.2) = decide (p.1.2 = organizationId)) :
    (w.map fun p => f p.2).filter q = (entriesFor organizationId w).map fun p => f p.2 := by
  rw [List.filter_map]
  exact congrArg _ (List.filter_congr hq)

omit [Python] [Driver] in
/-- The documents of an organization are those of its entries. -/
theorem Holds.documentsFor (hpristine : Pristine s₀) (h : Holds s₀ w s) (organizationId : String) :
    s.documents.rows.filter (·.organizationId = organizationId)
      = (entriesFor organizationId w).map fun p => p.2.document := by
  rw [h.documents hpristine]
  refine filter_map_entriesFor SbomRows.document _ fun p hp => ?_
  rw [← (h.filed p hp).document]
  rfl

omit [Python] [Driver] in
theorem Holds.occurrencesFor (hpristine : Pristine s₀) (h : Holds s₀ w s)
    (organizationId : String) :
    occurrencesOf organizationId s
      = (entriesFor organizationId w).flatMap fun p => p.2.occurrences := by
  rw [occurrencesOf, h.documentsFor hpristine, List.flatMap_map]
  refine List.flatMap_congr fun p hp => ?_
  exact h.occurrences hpristine (List.mem_filter.1 hp).1

omit [Python] [Driver] in
/-- Stores that hold the same entries of an organization have the same rows of it. -/
theorem Holds.sameStored {w' : List ((String × String) × SbomRows)} {s' : SbomStore}
    (hpristine : Pristine s₀) (h : Holds s₀ w s) (h' : Holds s₀ w' s') {organizationId : String}
    (hentries : entriesFor organizationId w = entriesFor organizationId w') :
    SameStored organizationId s s' := by
  have hrows : ∀ {w s}, Holds s₀ w s →
      s.snapshots.rows.filter (·.organizationId = organizationId)
          = s₀.snapshots.rows.filter (·.organizationId = organizationId)
            ++ (entriesFor organizationId w).map (fun p => p.2.evidence.snapshot) ∧
        s.auditEvents.rows.filter (·.organizationId = organizationId)
          = s₀.auditEvents.rows.filter (·.organizationId = organizationId)
            ++ (entriesFor organizationId w).map (fun p => p.2.evidence.audit) ∧
        s.outboxEvents.rows.filter (OutboxEvent.isOf organizationId)
          = s₀.outboxEvents.rows.filter (OutboxEvent.isOf organizationId)
            ++ (entriesFor organizationId w).map (fun p => p.2.evidence.outbox) := by
    intro w s h
    obtain ⟨hsnapshots, haudits, houtbox⟩ := h.rows
    refine ⟨?_, ?_, ?_⟩
    · rw [hsnapshots, List.filter_append]
      refine congrArg _ (filter_map_entriesFor (fun rows => rows.evidence.snapshot) _ fun p hp => ?_)
      rw [← (h.filed p hp).snapshot.2]
    · rw [haudits, List.filter_append]
      refine congrArg _ (filter_map_entriesFor (fun rows => rows.evidence.audit) _ fun p hp => ?_)
      rw [(h.filed p hp).audit.2.2]
    · rw [houtbox, List.filter_append]
      refine congrArg _ (filter_map_entriesFor (fun rows => rows.evidence.outbox) _ fun p hp => ?_)
      exact (h.filed p hp).outbox.2.2 organizationId
  obtain ⟨hsnapshots, haudits, houtbox⟩ := hrows h
  obtain ⟨hsnapshots', haudits', houtbox'⟩ := hrows h'
  refine ⟨?_, ?_, ?_, ?_, ?_⟩
  · rw [h.documentsFor hpristine, h'.documentsFor hpristine, hentries]
  · rw [hsnapshots, hsnapshots', hentries]
  · rw [haudits, haudits', hentries]
  · rw [houtbox, houtbox', hentries]
  · rw [h.occurrencesFor hpristine, h'.occurrencesFor hpristine, hentries]

/-- Whatever the other organizations submit, an organization gets the same answers and has the same
    rows. -/
def Unaffected (s₀ : SbomStore) (log : List Submission) (s : SbomStore) : Prop :=
  ∀ organizationId log' s', SbomRun s₀ log' s' →
    (submissionsOf organizationId log).map Submission.request
      = (submissionsOf organizationId log').map Submission.request →
    submissionsOf organizationId log = submissionsOf organizationId log' ∧
      SameStored organizationId s s'

/-- The part of a run that is of one organization, from the register. -/
theorem SbomRun.submissionsOf_eq (hpristine : Pristine s₀) (hrun : SbomRun s₀ log s)
    (organizationId : String) :
    Register.run (sbomRegister s₀.aliases.rows)
        ((submissionsOf organizationId log).map Submission.request) []
      = (((sbomRegister s₀.aliases.rows).run (log.map Submission.request) []).1.filter
          (fun x => x.1.2.organizationId = organizationId),
        entriesFor organizationId
          ((sbomRegister s₀.aliases.rows).run (log.map Submission.request) []).2) ∧
      submissionsOf organizationId log
        = answered (Register.run (sbomRegister s₀.aliases.rows)
            ((submissionsOf organizationId log).map Submission.request) []).1 := by
  have hgroup := Register.run_entriesOf (R := sbomRegister s₀.aliases.rows) (w := [])
    (fun k => k.2 = organizationId) (log.map Submission.request)
  rw [List.filter_map] at hgroup
  refine ⟨hgroup, ?_⟩
  have hlog := (hrun.holds hpristine (Holds.start hpristine)).1
  have hown : submissionsOf organizationId log
      = answered (((sbomRegister s₀.aliases.rows).run (log.map Submission.request) []).1.filter
          fun x => x.1.2.organizationId = organizationId) := by
    conv_lhs => rw [hlog]
    unfold submissionsOf answered
    rw [List.filter_map]
    rfl
  exact hown.trans (congrArg answered (congrArg Prod.fst hgroup).symm)

theorem SbomRun.unaffected (hpristine : Pristine s₀) (hrun : SbomRun s₀ log s) :
    Unaffected s₀ log s := by
  intro organizationId log' s' hrun' hsame
  obtain ⟨hentries, hlog⟩ := hrun.submissionsOf_eq hpristine organizationId
  obtain ⟨hentries', hlog'⟩ := hrun'.submissionsOf_eq hpristine organizationId
  rw [hsame] at hentries hlog
  refine ⟨hlog.trans hlog'.symm, ?_⟩
  exact (hrun.holds hpristine (Holds.start hpristine)).2.1.sameStored hpristine
    (hrun'.holds hpristine (Holds.start hpristine)).2.1
    (congrArg Prod.snd (hentries.symm.trans hentries'))

/-- **Ingesting bills of materials.** In a run whose calls are admissible, every document that the
    parser accepts is stored once for its organization, later calls find it, calls that raise write
    no row, and no organization notices the others. -/
theorem sboms_ingested (hpristine : Pristine s₀) (hrun : SbomRun s₀ log s) :
    IngestedOnce log s ∧ Repeats log s ∧
      (∀ settings c e, (ingest settings c s).1 = .error e →
        SameRows s (ingest settings c s).2) ∧
      Unaffected s₀ log s :=
  ⟨hrun.ingestedOnce hpristine, hrun.repeats hpristine, fun _ _ _ h => ingest_rejected h,
    hrun.unaffected hpristine⟩

end Runs

/-! ## One document, two organizations -/

def SbomStore.empty : SbomStore where
  toEvidenceStore := EvidenceStore.empty
  documents := UniqueTable.empty
  components := Table.empty
  occurrences := Table.empty
  objects := fun _ => none

/-- A component that documents share. -/
def sampleOpenssl : Json :=
  .obj [("name", .str "openssl"), ("version", .str "3.0.1"), ("purl", .str "pkg:npm/openssl@3.0.1")]

def sampleSbomRaw : Json :=
  .obj [("bomFormat", .str "CycloneDX"), ("serialNumber", .str "urn:uuid:1"),
    ("components", .arr [sampleOpenssl])]

/-- The purl of its second component is empty. -/
def sampleOtherRaw : Json :=
  .obj [("bomFormat", .str "CycloneDX"), ("serialNumber", .str "urn:uuid:2"),
    ("components", .arr [sampleOpenssl, .obj [("name", .str "zlib"), ("purl", .str "")]])]

/-- The digests of the two documents. -/
@[reducible]
def sbomDigests : Sha256 :=
  knownDigests
    [("\x7b\"bomFormat\":\"CycloneDX\",\"components\":[\x7b\"name\":\"openssl\",\"p" ++
      "url\":\"pkg:npm/openssl@3.0.1\",\"version\":\"3.0.1\"\x7d],\"serialNumber\":" ++
      "\"urn:uuid:1\"\x7d",
        "4b7ba453e9968f1bfb2444259908cff37d0fdb28bb13a6237d7685b5851bb488"),
      ("\x7b\"bomFormat\":\"CycloneDX\",\"components\":[\x7b\"name\":\"openssl\",\"p" ++
        "url\":\"pkg:npm/openssl@3.0.1\",\"version\":\"3.0.1\"\x7d,\x7b\"name\":\"zli" ++
        "b\",\"purl\":\"\"\x7d],\"serialNumber\":\"urn:uuid:2\"\x7d",
        "2cb32e9ff30a7222c418477b35774515ade5cb05c7a02cf49a907788d9b43b9a")]

/-- Local files only. -/
def sampleStorage : StorageSettings := ⟨"evidence", .disabled, true, none⟩

/-- Call `k` submits a document. -/
def sampleSbomCall (k : ℕ) (raw : Json) (organizationId : String) : SbomCall :=
  ⟨sampleEnv k, raw, organizationId, none, none⟩

def sampleIngest (k : ℕ) (raw : Json) (organizationId : String) (s : SbomStore) :
    Except PyError SubmissionResult × SbomStore :=
  @ingest asciiPython sqliteDriver sbomDigests sampleStorage (sampleSbomCall k raw organizationId) s

/-- The same call of an organization goes through, or is refused because another organization has
    submitted the document. -/
theorem sboms_not_isolated : (@parse asciiPython sampleSbomRaw).toBool = true ∧
    (sampleIngest 1 sampleSbomRaw "acme" .empty).1.toBool = true ∧
    (sampleIngest 2 sampleSbomRaw "globex" .empty).1.toBool = true ∧
    (sampleIngest 2 sampleSbomRaw "globex"
      (sampleIngest 1 sampleSbomRaw "acme" .empty).2).1.toBool = false := by
  decide +kernel

def sampleComponent : ParsedComponent where
  rawName := .str "openssl"
  rawVersion := .str "3.0.1"
  purl := .str "pkg:npm/openssl@3.0.1"
  ecosystem := some "npm"
  normalizedName := .str "openssl"
  cpe := .null
  versionScheme := some "npm"

def sampleNameless : ParsedComponent where
  rawName := .str "zlib"
  rawVersion := .null
  purl := .str ""
  ecosystem := none
  normalizedName := .str "zlib"
  cpe := .null
  versionScheme := none

def sampleParsed : ParsedSbom := ⟨"cyclonedx", "", .str "urn:uuid:1", [sampleComponent], sampleSbomRaw⟩

theorem sampleParsed_eq : @parse asciiPython sampleSbomRaw = .ok sampleParsed := rfl

def sampleOtherParsed : ParsedSbom :=
  ⟨"cyclonedx", "", .str "urn:uuid:2", [sampleComponent, sampleNameless], sampleOtherRaw⟩

theorem sampleOtherParsed_eq : @parse asciiPython sampleOtherRaw = .ok sampleOtherParsed := rfl

theorem SbomStore.empty_pristine : @Pristine sbomDigests .empty := by
  let _ := sbomDigests
  refine ⟨rfl, rfl, fun r hr => ?_, fun r hr => ?_, fun r hr => ?_, fun _ _ _ _ _ h => ?_⟩
  · cases hr
  · cases hr
  · cases hr
  · cases h

/-- The first call of all is admissible. -/
theorem sampleSbomCall_admissible : @Admissible asciiPython sqliteDriver sbomDigests sampleStorage
    (sampleSbomCall 1 sampleSbomRaw "acme") .empty := by
  let _ := asciiPython
  let _ := sqliteDriver
  let _ := sbomDigests
  intro _ parsed hparse
  obtain rfl := Except.ok.inj (sampleParsed_eq.symm.trans hparse)
  have hlength : sampleParsed.components.length = 1 := rfl
  refine ⟨⟨by decide +kernel, ⟨by decide, fun _ => rfl⟩, ⟨none, rfl⟩, fun _ => ⟨_, rfl⟩, ?_⟩,
    ⟨List.not_mem_nil, List.not_mem_nil, rfl, rfl, fun _ _ _ => rfl, fun _ _ _ => rfl, ?_⟩, ?_⟩
  · intro pc hpc
    rw [List.mem_singleton.1 hpc]
    exact ⟨⟨_, rfl, rfl⟩, fun _ => ⟨_, rfl⟩⟩
  · intro j k hjk hk
    omega
  · intro row hrow
    cases hrow

/-- After the first call. -/
def sampleSubmitted : SbomStore := (sampleIngest 1 sampleSbomRaw "acme" .empty).2

/-- The document is submitted again. -/
theorem sampleAgain_admissible : @Admissible asciiPython sqliteDriver sbomDigests sampleStorage
    (sampleSbomCall 2 sampleSbomRaw "acme") sampleSubmitted := by
  intro hnone
  have hfound : (sampleSubmitted.documents.byNatural
      (@SbomCall.key asciiPython sbomDigests (sampleSbomCall 2 sampleSbomRaw "acme"))).isSome
        = true := by decide +kernel
  rw [hnone] at hfound
  cases hfound

def sampleResubmitted : SbomStore := (sampleIngest 2 sampleSbomRaw "acme" sampleSubmitted).2

/-- The third call draws no id again, and no snapshot has the number of its document. -/
theorem sampleResubmitted_fresh :
    (sampleSbomCall 3 sampleOtherRaw "globex").sbomId
        ∉ sampleResubmitted.documents.rows.map Keyed.key ∧
      (sampleSbomCall 3 sampleOtherRaw "globex").snapshotId
        ∉ sampleResubmitted.snapshots.rows.map Keyed.key ∧
      (sampleEnv 3).rowId "aud_" 12 4 ∉ sampleResubmitted.auditEvents.rows.map Keyed.key ∧
      (sampleEnv 3).rowId "evt_" 12 3 ∉ sampleResubmitted.outboxEvents.rows.map Keyed.key ∧
      (∀ j < 2, sampleResubmitted.components.find?
          ((sampleSbomCall 3 sampleOtherRaw "globex").componentId j) = none ∧
        sampleResubmitted.occurrences.find?
          ((sampleSbomCall 3 sampleOtherRaw "globex").occurrenceId j) = none) ∧
      ∀ id ∈ sampleResubmitted.snapshots.rows.map SourceSnapshot.sourceRecordId,
        id = "urn:uuid:1" := by
  decide +kernel

/-- Another organization submits a document with the same component. -/
theorem sampleOther_admissible : @Admissible asciiPython sqliteDriver sbomDigests sampleStorage
    (sampleSbomCall 3 sampleOtherRaw "globex") sampleResubmitted := by
  let _ := asciiPython
  let _ := sqliteDriver
  let _ := sbomDigests
  intro _ parsed hparse
  obtain rfl := Except.ok.inj (sampleOtherParsed_eq.symm.trans hparse)
  obtain ⟨hsbom, hsnapshot, haudit, houtbox, hrows, hserial⟩ := sampleResubmitted_fresh
  have hdistinct : ∀ k < 2, ∀ j < k,
      (sampleSbomCall 3 sampleOtherRaw "globex").componentId j
        ≠ (sampleSbomCall 3 sampleOtherRaw "globex").componentId k ∧
      (sampleSbomCall 3 sampleOtherRaw "globex").occurrenceId j
        ≠ (sampleSbomCall 3 sampleOtherRaw "globex").occurrenceId k := by decide +kernel
  refine ⟨⟨by decide +kernel, ⟨by decide, fun _ => rfl⟩, ⟨none, rfl⟩, fun _ => ⟨_, rfl⟩, ?_⟩,
    ⟨hsbom, hsnapshot, Table.find?_eq_none.2 haudit, Table.find?_eq_none.2 houtbox,
      fun j _ hj => (hrows j hj).1, fun j _ hj => (hrows j hj).2,
      fun j k hjk hk => hdistinct k hk j hjk⟩, ?_⟩
  · intro pc hpc
    rcases List.mem_cons.1 hpc with rfl | hpc
    · exact ⟨⟨_, rfl, rfl⟩, fun _ => ⟨_, rfl⟩⟩
    · rw [List.mem_singleton.1 hpc]
      exact ⟨⟨_, rfl, rfl⟩, fun htruthy => by cases htruthy⟩
  · intro row hrow hkey
    have hfirst := hserial _ (List.mem_map_of_mem hrow)
    have hother : row.sourceRecordId = "urn:uuid:2" := congrArg SnapshotKey.sourceRecordId hkey
    rw [hfirst] at hother
    exact absurd hother (by decide)

/-- One organization submits a document twice, and another one a document with a component of the
    first. -/
theorem sboms_ingested_shared : ∃ log s,
    log.map (fun x => x.call.organizationId) = ["acme", "acme", "globex"] ∧
    (s.documents.rows.length = 2 ∧
      s.components.rows.map Component.purl = [some "pkg:npm/openssl@3.0.1", none]) ∧
    @IngestedOnce asciiPython sbomDigests log s ∧
    @Repeats asciiPython sqliteDriver sbomDigests log s ∧
    @Unaffected asciiPython sqliteDriver sbomDigests .empty log s := by
  have hrun := @SbomRun.call asciiPython sqliteDriver sbomDigests .empty _ _ sampleStorage
    (sampleSbomCall 1 sampleSbomRaw "acme") sampleSbomCall_admissible
    (@SbomRun.call asciiPython sqliteDriver sbomDigests sampleSubmitted _ _ sampleStorage
      (sampleSbomCall 2 sampleSbomRaw "acme") sampleAgain_admissible
      (@SbomRun.call asciiPython sqliteDriver sbomDigests sampleResubmitted _ _ sampleStorage
        (sampleSbomCall 3 sampleOtherRaw "globex") sampleOther_admissible
        (@SbomRun.done asciiPython sqliteDriver sbomDigests _)))
  obtain ⟨honce, hrepeats, -, hunaffected⟩ := @sboms_ingested asciiPython sqliteDriver sbomDigests
    _ _ _ SbomStore.empty_pristine hrun
  exact ⟨_, _, rfl, by decide +kernel, honce, hrepeats, hunaffected⟩

end Sbom

end VulnOpsHub
