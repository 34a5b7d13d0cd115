import VulnOpsHub.Intelligence.Upserts
import Mathlib.Data.Set.Function

set_option autoImplicit false

/-! # The ranges that an upsert keeps

The id of an affected range is a digest of its columns joined with `|`. The join leaves out the last
affected version and writes an absent column like an empty one, and a column may hold the separator,
so ranges that differ can have one id. Such ranges, and a range that a record lists twice, make the
commit fail when their row is missing, and fall to the row that is stored when it is not. -/

namespace VulnOpsHub

namespace Intel

variable {Content : Type}

/-- The columns that tell ranges apart. -/
structure RangeColumns where
  vulnerabilityId : String
  source : String
  ecosystem : Option String
  purl : Option String
  introduced : Option String
  fixed : Option String
  lastAffected : Option String
deriving DecidableEq, Repr

def AffectedRange.columns (row : AffectedRange) : RangeColumns where
  vulnerabilityId := row.vulnerabilityId
  source := row.source
  ecosystem := row.ecosystem
  purl := row.purl
  introduced := row.introduced
  fixed := row.fixed
  lastAffected := row.lastAffected

/-- What is joined for the id. -/
def RangeColumns.parts (c : RangeColumns) : List String :=
  [c.vulnerabilityId, c.source, c.ecosystem.getD "", c.purl.getD "", c.introduced.getD "",
    c.fixed.getD ""]

def RangeColumns.text (c : RangeColumns) : String := "|".intercalate c.parts

section Kept

variable [Sha256]

/-- The rows of a record that is persisted. -/
def persistedRanges (rec : AdvisoryRecord Content) : List AffectedRange :=
  (validRecords [rec]).flatMap fun rec => rec.affectedRanges.map (rangeRow rec)

/-- The texts that are hashed for a record. -/
def hashedTexts (rec : AdvisoryRecord Content) : List String :=
  ((distinctAliases [rec.vulnerabilityId] rec.aliases).map fun name =>
      "|".intercalate [rec.vulnerabilityId, name])
    ++ rec.affectedRanges.map (fun rng => "|".intercalate (rangeParts rec rng))
    ++ ["|".intercalate [rec.vulnerabilityId, rec.source]]

def rangeColumns (db : IntelDb Content) : List RangeColumns := db.ranges.rows.map (·.columns)

/-- The upsert of a record is accepted and leaves one row for each of its ranges, and ranges that
    differ have different ids. -/
def KeepsRanges (db : IntelDb Content) (rec : AdvisoryRecord Content) : Prop :=
  (∀ now, ∃ db', upsertAndCommit now [rec] db = some db' ∧
    ∀ row ∈ persistedRanges rec, (rangeColumns db').count row.columns = 1) ∧
  ∀ row ∈ persistedRanges rec, ∀ row' ∈ persistedRanges rec,
    row.columns ≠ row'.columns → row.id ≠ row'.id

/-- The ranges that are missing have different texts, ranges with one text agree, and a range is
    stored as it is if its id is. -/
structure RangesTold (db : IntelDb Content) (rec : AdvisoryRecord Content) : Prop where
  distinct :
    (((persistedRanges rec).filter fun row => !rangeStored db row).map (·.columns.text)).Nodup
  agree : ∀ row ∈ persistedRanges rec, ∀ row' ∈ persistedRanges rec,
    row.columns.text = row'.columns.text → row.columns = row'.columns
  stored : ∀ row ∈ persistedRanges rec,
    (rangeColumns db).count row.columns = if rangeStored db row then 1 else 0

theorem mem_persistedRanges {rec : AdvisoryRecord Content} {row : AffectedRange} :
    row ∈ persistedRanges rec ↔
      (rec.vulnerabilityId ≠ "" ∧ rec.vulnerabilityId ≠ "unknown") ∧
        ∃ rng ∈ rec.affectedRanges, rangeRow rec rng = row := by
  unfold persistedRanges validRecords
  by_cases hvalid : rec.vulnerabilityId ≠ "" ∧ rec.vulnerabilityId ≠ "unknown"
  · simp [hvalid]
  · simp [hvalid]

theorem id_of_persisted {rec : AdvisoryRecord Content} {row : AffectedRange}
    (h : row ∈ persistedRanges rec) : row.id = "rng_" ++ truncatedDigest row.columns.text := by
  obtain ⟨-, rng, -, rfl⟩ := mem_persistedRanges.1 h
  rfl

section Single

variable {db : IntelDb Content} {rec : AdvisoryRecord Content}

theorem newRanges_singleton :
    newRanges db [rec] = (persistedRanges rec).filter fun row => !rangeStored db row := by
  unfold newRanges persistedRanges
  rw [List.filter_flatMap]

theorem aliases_nodup (h : Set.InjOn truncatedDigest {text | text ∈ hashedTexts rec}) :
    ((newAliases db [rec]).map (·.id)).Nodup := by
  have hrow : (((distinctAliases [rec.vulnerabilityId] rec.aliases).map (aliasRow rec)).map
      (·.id)).Nodup := by
    rw [List.map_map]
    refine (nodup_distinctAliases _ _).map_on fun name hname name' hname' heq => ?_
    have htexts := h (List.mem_append_left _ (List.mem_append_left _ (List.mem_map_of_mem hname)))
      (List.mem_append_left _ (List.mem_append_left _ (List.mem_map_of_mem hname')))
      ((String.append_right_inj _).1 heq)
    rw [String.intercalate_cons_cons, String.intercalate_cons_cons, String.intercalate_singleton,
      String.intercalate_singleton, String.append_right_inj] at htexts
    exact htexts
  by_cases hvalid : rec.vulnerabilityId ≠ "" ∧ rec.vulnerabilityId ≠ "unknown"
  · have hnew : newAliases db [rec] = ((distinctAliases [rec.vulnerabilityId] rec.aliases).map
        (aliasRow rec)).filter fun row => !aliasStored db row := by
      simp [newAliases, validRecords, hvalid]
    rw [hnew]
    exact (List.filter_sublist.map _).nodup hrow
  · have hnew : newAliases db [rec] = [] := by simp [newAliases, validRecords, hvalid]
    rw [hnew]
    exact List.nodup_nil

/-- The upsert of one record is accepted unless two of its missing ranges have one id. -/
theorem distinctNew_singleton (h : Set.InjOn truncatedDigest {text | text ∈ hashedTexts rec}) :
    DistinctNew db [rec] ↔ ((newRanges db [rec]).map (·.id)).Nodup := by
  refine ⟨DistinctNew.ranges, fun hranges => ⟨?_, aliases_nodup h, hranges, ?_⟩⟩
  · have hone : (([rec].map (·.vulnerabilityId)).Nodup) := List.nodup_singleton _
    exact ((List.filter_sublist.trans (List.filter_sublist.map _))).nodup hone
  · have hone : (([rec].map newAssertion).map (·.id)).Nodup := List.nodup_singleton _
    exact (((List.filter_sublist.trans List.filter_sublist).map _).map _).nodup hone

/-- Ids are made of texts, and texts of columns. -/
theorem newRanges_ids : (newRanges db [rec]).map (·.id)
    = ((newRanges db [rec]).map (·.columns.text)).map fun text => "rng_" ++ truncatedDigest text := by
  rw [List.map_map]
  refine List.map_congr_left fun row hrow => ?_
  rw [newRanges_singleton] at hrow
  exact id_of_persisted (List.mem_filter.1 hrow).1

theorem rangeStored_of_columns {row row' : AffectedRange} (hrow : row ∈ persistedRanges rec)
    (hrow' : row' ∈ persistedRanges rec) (h : row.columns = row'.columns) :
    rangeStored db row = rangeStored db row' := by
  unfold rangeStored
  rw [id_of_persisted hrow, id_of_persisted hrow', h]

/-- How many rows a range gets. -/
theorem newRanges_count (hnodup : ((newRanges db [rec]).map (·.columns.text)).Nodup)
    {row : AffectedRange} (hrow : row ∈ persistedRanges rec) :
    ((newRanges db [rec]).map (·.columns)).count row.columns
      = if rangeStored db row then 0 else 1 := by
  by_cases hstored : rangeStored db row = true
  · rw [if_pos hstored, List.count_eq_zero]
    intro hmem
    obtain ⟨row', hnew, hcolumns⟩ := List.mem_map.1 hmem
    rw [newRanges_singleton] at hnew
    obtain ⟨hrow', hmissing⟩ := List.mem_filter.1 hnew
    rw [rangeStored_of_columns hrow' hrow hcolumns, hstored] at hmissing
    exact Bool.noConfusion hmissing
  · rw [if_neg hstored]
    have hcolumns : ((newRanges db [rec]).map (·.columns.text))
        = ((newRanges db [rec]).map (·.columns)).map (·.text) := by rw [List.map_map]; rfl
    rw [hcolumns] at hnodup
    refine List.count_eq_one_of_mem (hnodup.of_map _) (List.mem_map_of_mem ?_)
    rw [newRanges_singleton]
    exact List.mem_filter.2 ⟨hrow, by simpa using hstored⟩

theorem rangeColumns_count {now : Datetime} {db' : IntelDb Content}
    (h : upsertAndCommit now [rec] db = some db') {row : AffectedRange}
    (hrow : row ∈ persistedRanges rec) : (rangeColumns db').count row.columns
      = (rangeColumns db).count row.columns + if rangeStored db row then 0 else 1 := by
  obtain ⟨hdistinct, hadded⟩ := upsertAndCommit_added h
  have hids := hdistinct.ranges
  rw [newRanges_ids] at hids
  unfold rangeColumns
  rw [hadded.ranges, List.map_append, List.count_append, newRanges_count (hids.of_map _) hrow]

end Single

/-- **Exactly when no range is lost.** -/
theorem keepsRanges_iff (db : IntelDb Content) (rec : AdvisoryRecord Content)
    (h : Set.InjOn truncatedDigest {text | text ∈ hashedTexts rec}) :
    KeepsRanges db rec ↔ RangesTold db rec := by
  have htext : ∀ row ∈ persistedRanges rec, row.columns.text ∈ hashedTexts rec := by
    intro row hrow
    obtain ⟨-, rng, hrng, rfl⟩ := mem_persistedRanges.1 hrow
    exact List.mem_append_left _ (List.mem_append_right _ (List.mem_map_of_mem hrng))
  constructor
  · rintro ⟨hkept, hids⟩
    obtain ⟨db', hrun, hcount⟩ := hkept (.utc 0)
    have hdistinct := (upsertAndCommit_added hrun).1.ranges
    rw [newRanges_ids] at hdistinct
    refine ⟨newRanges_singleton ▸ hdistinct.of_map _, ?_, ?_⟩
    · intro row hrow row' hrow' heq
      by_contra hne
      refine hids row hrow row' hrow' hne ?_
      rw [id_of_persisted hrow, id_of_persisted hrow', heq]
    · intro row hrow
      have hone := hcount row hrow
      rw [rangeColumns_count hrun hrow] at hone
      by_cases hstored : rangeStored db row = true
      · rw [if_pos hstored] at hone ⊢
        exact hone
      · rw [if_neg hstored] at hone ⊢
        omega
  · intro htold
    have hdistinct : DistinctNew db [rec] := by
      rw [distinctNew_singleton h, newRanges_ids, newRanges_singleton]
      refine htold.distinct.map_on fun text hmem text' hmem' heq => ?_
      obtain ⟨row, hrow, rfl⟩ := List.mem_map.1 hmem
      obtain ⟨row', hrow', rfl⟩ := List.mem_map.1 hmem'
      exact h (htext row (List.mem_filter.1 hrow).1) (htext row' (List.mem_filter.1 hrow').1)
        ((String.append_right_inj _).1 heq)
    refine ⟨fun now => ?_, ?_⟩
    · obtain ⟨db', hrun⟩ := exists_upsertAndCommit now hdistinct
      refine ⟨db', hrun, fun row hrow => ?_⟩
      rw [rangeColumns_count hrun hrow, htold.stored row hrow]
      by_cases hstored : rangeStored db row = true
      · rw [if_pos hstored, if_pos hstored]
      · rw [if_neg hstored, if_neg hstored]
    · intro row hrow row' hrow' hne heq
      rw [id_of_persisted hrow, id_of_persisted hrow', String.append_right_inj] at heq
      exact hne (htold.agree row hrow row' hrow' (h (htext row hrow) (htext row' hrow') heq))

end Kept

/-! ## An advisory of urllib3 -/

/-- The digests of the texts that are hashed below. -/
@[reducible]
def urllib3Digests : Sha256 where
  hexdigest bytes :=
    (List.lookup bytes
      [("CVE-2026-9999|GHSA-x4cp-xg3j-77fm".toUTF8,
          "71a088ea97426fa3dd40b5abb4feaf70167eec45fda2d234aa45989ed9653451"),
        ("CVE-2026-9999|osv|PyPI|pkg:pypi/urllib3|0|1.26.18".toUTF8,
          "7f153c20ff87be788906bed8ccd6b8803995d753ddabd70f123077436fd339a7"),
        ("CVE-2026-9999|osv|PyPI|pkg:pypi/urllib3|2.0.0|2.0.7".toUTF8,
          "1f3d6c18390377b86884051d77502a1d3b5fa567ab5c124f9538855a98b25b17"),
        ("CVE-2026-9999|osv".toUTF8,
          "f03cfedf16f3c9b369d8160fe5ee78e7923e6df0f3da9d437b9ce08503c347b6")]).getD ""

def urllib3Range (introduced : String) (fixed lastAffected : Option String) : RecordRange where
  ecosystem := some "PyPI"
  purl := some "pkg:pypi/urllib3"
  type := some "ECOSYSTEM"
  introduced := some introduced
  fixed := fixed
  lastAffected := lastAffected

def urllib3Record (ranges : List RecordRange) : AdvisoryRecord Unit where
  vulnerabilityId := "CVE-2026-9999"
  source := "osv"
  retrievedAt := none
  sourceUrl := none
  affectedRanges := ranges
  aliases := ["GHSA-x4cp-xg3j-77fm"]

/-- The two branches of a fix. -/
def fixedBranches : AdvisoryRecord Unit :=
  urllib3Record [urllib3Range "0" (some "1.26.18") none, urllib3Range "2.0.0" (some "2.0.7") none]

/-- Two branches without a fix. -/
def openBranches : AdvisoryRecord Unit :=
  urllib3Record [urllib3Range "0" none (some "1.26.17"), urllib3Range "0" none (some "2.0.6")]

theorem keepsRanges_sample : @KeepsRanges Unit urllib3Digests .empty fixedBranches := by
  have hall : ∀ text ∈ hashedTexts fixedBranches, ∀ text' ∈ hashedTexts fixedBranches,
      @truncatedDigest urllib3Digests text = @truncatedDigest urllib3Digests text' →
        text = text' := by decide +kernel
  refine (@keepsRanges_iff Unit urllib3Digests .empty fixedBranches
    fun text htext text' htext' heq => hall text htext text' htext' heq).2
      (@RangesTold.mk Unit urllib3Digests _ _ ?_ ?_ ?_)
  · decide +kernel
  · decide +kernel
  · decide +kernel

/-- **Ranges that differ in the last affected version only** have one id, under any hash. -/
theorem lastAffected_lost : ¬ ∃ sha : Sha256, @KeepsRanges Unit sha .empty openBranches := by
  rintro ⟨sha, -, hids⟩
  have hmem : ∀ rng ∈ openBranches.affectedRanges,
      rangeRow openBranches rng ∈ persistedRanges openBranches :=
    fun rng hrng => mem_persistedRanges.2 ⟨by decide, rng, hrng, rfl⟩
  refine hids _ (hmem (urllib3Range "0" none (some "1.26.17")) (by decide)) _
    (hmem (urllib3Range "0" none (some "2.0.6")) (by decide)) ?_ rfl
  intro heq
  have hlast : some "1.26.17" = some "2.0.6" := congrArg RangeColumns.lastAffected heq
  exact absurd hlast (by decide)

end Intel

end VulnOpsHub
