import VulnOpsHub.Intelligence.Upserts

set_option autoImplicit false

/-! # Replaying an upsert

`upsert_advisory_records` is meant to be safe to replay. A second run finds every row of the first,
so it adds nothing. The first run itself is refused when a batch brings a missing row twice: the rows
added for one record are pending, and the lookups of the next do not see them. -/

namespace VulnOpsHub

namespace Intel

variable {Content : Type}

def IntelDb.rowCounts (db : IntelDb Content) : List ℕ :=
  [db.vulnerabilities.rows.length, db.aliases.rows.length, db.ranges.rows.length,
    db.assertions.rows.length, db.statuses.rows.length]

/-- The vulnerability and the source that the rows are for. -/
def assertionColumns (db : IntelDb Content) : List (String × String) :=
  db.assertions.rows.map fun row => (row.vulnerabilityId, row.source)

/-- One row for each thing that the records are about. -/
structure OneRowEach (records : List (AdvisoryRecord Content)) (db : IntelDb Content) : Prop where
  vulnerabilities : ∀ rec ∈ validRecords records,
    (db.vulnerabilities.rows.map (·.id)).count rec.vulnerabilityId = 1
  aliases : ∀ rec ∈ validRecords records, ∀ name ∈ distinctAliases [rec.vulnerabilityId] rec.aliases,
    (aliasColumns db).count (rec.vulnerabilityId, name) = 1
  assertions : ∀ rec ∈ validRecords records,
    (assertionColumns db).count (rec.vulnerabilityId, rec.source) = 1

section Replays

variable [Sha256]

/-- The upsert is accepted and leaves one row each; the same upsert again keeps the row counts. -/
def UpsertsIdempotently (db : IntelDb Content) (records : List (AdvisoryRecord Content)) : Prop :=
  ∀ now, ∃ db', upsertAndCommit now records db = some db' ∧ OneRowEach records db' ∧
    ∀ now', ∃ db'', upsertAndCommit now' records db' = some db'' ∧ db''.rowCounts = db'.rowCounts

/-! ## The second run -/

section Second

variable {db db' : IntelDb Content} {records : List (AdvisoryRecord Content)}

theorem newVulnerabilityIds_added (h : Added db records db') :
    newVulnerabilityIds db' records = [] := by
  unfold newVulnerabilityIds
  rw [List.filter_eq_nil_iff]
  intro id hid
  have hstored : vulnerabilityStored db' id = true := by
    rw [vulnerabilityStored_iff, h.vulnerabilities, List.mem_append]
    by_cases hold : vulnerabilityStored db id = true
    · exact Or.inl (vulnerabilityStored_iff.1 hold)
    · exact Or.inr (List.mem_filter.2 ⟨hid, by simpa using hold⟩)
  simp [hstored]

theorem newAliases_added (h : Added db records db') : newAliases db' records = [] := by
  unfold newAliases
  rw [List.flatMap_eq_nil_iff]
  intro rec hrec
  rw [List.filter_eq_nil_iff]
  intro row hrow
  have hstored : aliasStored db' row = true := by
    rw [aliasStored_iff, aliasColumns, h.aliases, List.map_append, List.map_append, List.mem_append,
      List.mem_append]
    by_cases hold : aliasStored db row = true
    · exact (aliasStored_iff.1 hold).imp Or.inl Or.inl
    · refine Or.inl (Or.inr (List.mem_map_of_mem ?_))
      exact List.mem_flatMap.2 ⟨rec, hrec, List.mem_filter.2 ⟨hrow, by simpa using hold⟩⟩
  simp [hstored]

theorem newRanges_added (h : Added db records db') : newRanges db' records = [] := by
  unfold newRanges
  rw [List.flatMap_eq_nil_iff]
  intro rec hrec
  rw [List.filter_eq_nil_iff]
  intro row hrow
  have hstored : rangeStored db' row = true := by
    rw [rangeStored_iff, h.ranges, List.map_append, List.mem_append]
    by_cases hold : rangeStored db row = true
    · exact Or.inl (rangeStored_iff.1 hold)
    · refine Or.inr (List.mem_map_of_mem ?_)
      exact List.mem_flatMap.2 ⟨rec, hrec, List.mem_filter.2 ⟨hrow, by simpa using hold⟩⟩
  simp [hstored]

theorem newAssertions_added (h : Added db records db') : newAssertions db' records = [] := by
  unfold newAssertions
  rw [List.map_eq_nil_iff, List.filter_eq_nil_iff]
  intro rec hrec
  have hstored : assertionStored db' rec = true := by
    rw [assertionStored_iff, h.assertions]
    by_cases hold : assertionStored db rec = true
    · obtain ⟨key, hkey, hfound⟩ := assertionStored_iff.1 hold
      exact ⟨key, List.mem_append_left _ hkey, hfound⟩
    · refine ⟨(newAssertion rec).columns, List.mem_append_right _ ?_, Or.inl rfl⟩
      exact List.mem_map_of_mem (List.mem_map_of_mem (List.mem_filter.2
        ⟨hrec, by simpa using hold⟩))
  simp [hstored]

/-- **The second run adds nothing**, whatever the first one found. -/
theorem upsertAndCommit_again {now : Datetime} (h : upsertAndCommit now records db = some db')
    (now' : Datetime) : ∃ db'', upsertAndCommit now' records db' = some db'' ∧
      db''.rowCounts = db'.rowCounts := by
  have hadded := (upsertAndCommit_added h).2
  have hv := newVulnerabilityIds_added hadded
  have ha := newAliases_added hadded
  have hr := newRanges_added hadded
  have hs := newAssertions_added hadded
  have hdistinct : DistinctNew db' records := by
    refine ⟨?_, ?_, ?_, ?_⟩
    · rw [hv]
      exact List.nodup_nil
    · rw [ha]
      exact List.nodup_nil
    · rw [hr]
      exact List.nodup_nil
    · rw [hs]
      exact List.nodup_nil
  obtain ⟨db'', hrun⟩ := exists_upsertAndCommit now' hdistinct
  obtain ⟨hvrows, harows, hrrows, hsrows, htrows⟩ := (upsertAndCommit_added hrun).2
  rw [hv, List.append_nil] at hvrows
  rw [ha, List.append_nil] at harows
  rw [hr, List.append_nil] at hrrows
  rw [hs, List.map_nil, List.append_nil] at hsrows
  have hvlength := congrArg List.length hvrows
  have hslength := congrArg List.length hsrows
  rw [List.length_map, List.length_map] at hvlength hslength
  refine ⟨db'', hrun, ?_⟩
  simp [IntelDb.rowCounts, hvlength, harows, hrrows, hslength, htrows]

/-! ## The first run -/

/-- Every vulnerability of the batch has its row afterwards. -/
theorem vulnerabilities_count (h : Added db records db') {rec : AdvisoryRecord Content}
    (hrec : rec ∈ validRecords records) :
    (db'.vulnerabilities.rows.map (·.id)).count rec.vulnerabilityId = 1 := by
  refine List.count_eq_one_of_mem db'.vulnerabilities.nodup ?_
  rw [← vulnerabilityStored_iff]
  by_contra hmissing
  have hnew : rec.vulnerabilityId ∈ newVulnerabilityIds db' records :=
    List.mem_filter.2 ⟨List.mem_map_of_mem hrec, by simpa using hmissing⟩
  rw [newVulnerabilityIds_added h] at hnew
  exact List.not_mem_nil hnew

/-- An alias has its row afterwards unless its id was taken by another one. -/
theorem aliases_count_iff (h : Added db records db') {rec : AdvisoryRecord Content}
    (hrec : rec ∈ validRecords records) {name : String}
    (hname : name ∈ distinctAliases [rec.vulnerabilityId] rec.aliases) :
    (aliasColumns db').count (rec.vulnerabilityId, name) = 1 ↔
      (aliasStored db (aliasRow rec name) = true →
        (rec.vulnerabilityId, name) ∈ aliasColumns db) := by
  have hcolumns : aliasColumns db' = aliasColumns db ++
      (newAliases db records).map fun row => (row.vulnerabilityId, row.aliasName) := by
    unfold aliasColumns
    rw [h.aliases, List.map_append]
  have hone : (aliasColumns db').count (rec.vulnerabilityId, name) = 1 ↔
      (rec.vulnerabilityId, name) ∈ aliasColumns db' := by
    refine ⟨fun hcount => List.count_pos_iff.1 (by omega), fun hmem => ?_⟩
    exact List.count_eq_one_of_mem db'.aliases.natural_nodup hmem
  rw [hone, hcolumns, List.mem_append]
  constructor
  · rintro (hold | hnew) hstored
    · exact hold
    · obtain ⟨row, hrow, hkey⟩ := List.mem_map.1 hnew
      obtain ⟨hmissing, hid⟩ := mem_newAliases hrow
      obtain ⟨hv, ha⟩ := Prod.mk.inj hkey
      -- the new row has the id and the columns that are looked up
      have hsame : aliasStored db row = aliasStored db (aliasRow rec name) := by
        rw [Bool.eq_iff_iff, aliasStored_iff, aliasStored_iff, hid, hv, ha]
        rfl
      rw [hsame, hstored] at hmissing
      exact Bool.noConfusion hmissing
  · intro hcondition
    by_cases hstored : aliasStored db (aliasRow rec name) = true
    · exact Or.inl (hcondition hstored)
    · refine Or.inr (List.mem_map.2 ⟨aliasRow rec name, ?_, rfl⟩)
      exact List.mem_flatMap.2 ⟨rec, hrec, List.mem_filter.2
        ⟨List.mem_map_of_mem hname, by simpa using hstored⟩⟩

/-- The columns by which an assertion is found make its id too. -/
theorem assertionStored_of_columns {rec rec' : AdvisoryRecord Content}
    (h : (rec'.vulnerabilityId, rec'.source) = (rec.vulnerabilityId, rec.source)) :
    assertionStored db rec' = assertionStored db rec := by
  obtain ⟨hv, hs⟩ := Prod.mk.inj h
  have hid : (newAssertion rec').id = (newAssertion rec).id := by
    show stableId "adv" [rec'.vulnerabilityId, rec'.source] = _
    rw [hv, hs]
    rfl
  rw [Bool.eq_iff_iff, assertionStored_iff, assertionStored_iff, hid, h]

theorem newAssertions_count (h : ((newAssertions db records).map (·.id)).Nodup)
    {rec : AdvisoryRecord Content} (hrec : rec ∈ validRecords records) :
    ((newAssertions db records).map fun row => (row.vulnerabilityId, row.source)).count
      (rec.vulnerabilityId, rec.source) = if assertionStored db rec then 0 else 1 := by
  by_cases hstored : assertionStored db rec = true
  · rw [if_pos hstored, List.count_eq_zero]
    intro hmem
    obtain ⟨row, hrow, hkey⟩ := List.mem_map.1 hmem
    obtain ⟨rec', hrec', rfl⟩ := List.mem_map.1 hrow
    have hmissing := (List.mem_filter.1 hrec').2
    rw [assertionStored_of_columns hkey, hstored] at hmissing
    exact Bool.noConfusion hmissing
  · rw [if_neg hstored]
    refine List.count_eq_one_of_mem ?_ (List.mem_map.2 ⟨newAssertion rec, ?_, rfl⟩)
    · have hof : (newAssertions db records).map (·.id) = ((newAssertions db records).map fun row =>
          (row.vulnerabilityId, row.source)).map fun key => stableId "adv" [key.1, key.2] := by
        rw [List.map_map]
        refine List.map_congr_left fun row hrow => ?_
        obtain ⟨rec', -, rfl⟩ := List.mem_map.1 hrow
        rfl
      rw [hof] at h
      exact h.of_map _
    · exact List.mem_map_of_mem (List.mem_filter.2 ⟨hrec, by simpa using hstored⟩)

/-- An assertion has its one row afterwards unless its id was taken by another one, or its columns
    had more rows than one before. -/
theorem assertions_count_iff (h : Added db records db')
    (hdistinct : ((newAssertions db records).map (·.id)).Nodup) {rec : AdvisoryRecord Content}
    (hrec : rec ∈ validRecords records) :
    (assertionColumns db').count (rec.vulnerabilityId, rec.source) = 1 ↔
      (assertionStored db rec = true →
        (rec.vulnerabilityId, rec.source) ∈ assertionColumns db) ∧
      (assertionColumns db).count (rec.vulnerabilityId, rec.source) ≤ 1 := by
  have hcolumns : assertionColumns db' = assertionColumns db ++
      (newAssertions db records).map fun row => (row.vulnerabilityId, row.source) := by
    have hpairs := congrArg (List.map Prod.snd) h.assertions
    rw [List.map_append, List.map_map, List.map_map, List.map_map] at hpairs
    exact hpairs
  rw [hcolumns, List.count_append, newAssertions_count hdistinct hrec]
  by_cases hstored : assertionStored db rec = true
  · rw [if_pos hstored, ← List.count_pos_iff]
    constructor
    · intro hone
      exact ⟨fun _ => by omega, by omega⟩
    · rintro ⟨hmem, hle⟩
      have hpos := hmem hstored
      omega
  · have hnone : (assertionColumns db).count (rec.vulnerabilityId, rec.source) = 0 := by
      rw [List.count_eq_zero]
      intro hmem
      obtain ⟨row, hrow, hkey⟩ := List.mem_map.1 hmem
      exact hstored (assertionStored_iff.2 ⟨row.columns, List.mem_map_of_mem hrow, Or.inr hkey⟩)
    simp [hstored, hnone]

end Second

/-! ## Exactly when -/

/-- No missing row occurs twice in the batch, a stored id belongs to the columns it was made of, and
    the assertions of the batch have no second row yet. -/
structure Replayable (db : IntelDb Content) (records : List (AdvisoryRecord Content)) : Prop where
  distinct : DistinctNew db records
  aliases : ∀ rec ∈ validRecords records, ∀ name ∈ distinctAliases [rec.vulnerabilityId] rec.aliases,
    aliasStored db (aliasRow rec name) = true → (rec.vulnerabilityId, name) ∈ aliasColumns db
  assertions : ∀ rec ∈ validRecords records, assertionStored db rec = true →
    (rec.vulnerabilityId, rec.source) ∈ assertionColumns db
  once : ∀ rec ∈ validRecords records,
    (assertionColumns db).count (rec.vulnerabilityId, rec.source) ≤ 1

/-- **Exactly when an upsert is safe to replay.** -/
theorem upsertsIdempotently_iff (db : IntelDb Content) (records : List (AdvisoryRecord Content)) :
    UpsertsIdempotently db records ↔ Replayable db records := by
  constructor
  · intro h
    obtain ⟨db', hrun, hone, -⟩ := h (.utc 0)
    obtain ⟨hdistinct, hadded⟩ := upsertAndCommit_added hrun
    have hassertions := fun rec hrec =>
      (assertions_count_iff hadded hdistinct.assertions hrec).1 (hone.assertions rec hrec)
    exact ⟨hdistinct,
      fun rec hrec name hname => (aliases_count_iff hadded hrec hname).1
        (hone.aliases rec hrec name hname),
      fun rec hrec => (hassertions rec hrec).1, fun rec hrec => (hassertions rec hrec).2⟩
  · intro h now
    obtain ⟨db', hrun⟩ := exists_upsertAndCommit now h.distinct
    have hadded := (upsertAndCommit_added hrun).2
    refine ⟨db', hrun, ⟨?_, ?_, ?_⟩, upsertAndCommit_again hrun⟩
    · exact fun rec hrec => vulnerabilities_count hadded hrec
    · intro rec hrec name hname
      exact (aliases_count_iff hadded hrec hname).2 (h.aliases rec hrec name hname)
    · intro rec hrec
      exact (assertions_count_iff hadded h.distinct.assertions hrec).2
        ⟨h.assertions rec hrec, h.once rec hrec⟩

end Replays

/-- What OSV answers for two components that one advisory is about. -/
def urllib3Advisory (queryIndex : ℕ) : AdvisoryRecord Unit where
  vulnerabilityId := "CVE-2026-9999"
  source := "osv"
  retrievedAt := none
  sourceUrl := none
  queryIndex := some queryIndex

/-- **An advisory that hits two components is refused**, for any hash: its vulnerability is added
    twice. -/
theorem shared_advisory_refused :
    ¬ ∃ sha : Sha256, @UpsertsIdempotently Unit sha .empty [urllib3Advisory 0, urllib3Advisory 1] := by
  rintro ⟨sha, h⟩
  obtain ⟨db', hrun, -⟩ := h (.utc 0)
  have hnodup := (upsertAndCommit_added hrun).1.vulnerabilities
  have htwice : newVulnerabilityIds (.empty : IntelDb Unit) [urllib3Advisory 0, urllib3Advisory 1]
      = ["CVE-2026-9999", "CVE-2026-9999"] := by decide +kernel
  rw [htwice] at hnodup
  simp at hnodup

end Intel

end VulnOpsHub
