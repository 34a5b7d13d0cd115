import VulnOpsHub.Lib.Patched
import VulnOpsHub.Matching.Versioning
import Mathlib.Data.String.Basic

set_option autoImplicit false

/-! # The order of versions

`_compare_versions` compares two versions by `packaging.version`, and as text when one of the two
strings is no version. On a set of strings that is an order, and every range is an interval of it,
exactly when no string that is no version stands between two versions against their order. -/

namespace VulnOpsHub

section Orders

variable [Packaging]

/-- What a string is compared as when the other one is no version, or it is none itself. -/
def versionText (s : String) : String := ((Packaging.parse s).map Packaging.str).getD s

theorem compareVersions_of_text {a b : String} (h : versionKey a = none ∨ versionKey b = none) :
    compareVersions a b = if versionText a < versionText b then -1
      else if versionText b < versionText a then 1 else 0 := by
  unfold versionKey at h
  simp only [Option.map_eq_none_iff] at h
  unfold compareVersions versionText
  rcases h with h | h
  · rw [h]
  · rw [h]
    cases Packaging.parse a <;> rfl

/-- The comparison is a patched order. -/
theorem compareVersions_nonpos_iff (a b : String) :
    compareVersions a b ≤ 0 ↔ Patched versionKey versionText a b := by
  by_cases h : versionKey a = none ∨ versionKey b = none
  · rw [compareVersions_of_text h, patched_of_text h]
    split_ifs with hab hba
    · simp [hab.le]
    · simp [hba]
    · simp [not_lt.1 hba]
  · obtain ⟨ha, hb⟩ := not_or.1 h
    obtain ⟨ka, ha⟩ := Option.ne_none_iff_exists'.1 ha
    obtain ⟨kb, hb⟩ := Option.ne_none_iff_exists'.1 hb
    rw [compareVersions_of_keys ha hb, patched_of_keys ha hb]
    split_ifs with hab hba
    · simp [hab.le]
    · simp [hba]
    · simp [not_lt.1 hba]

/-- The other way round the answer is the opposite. -/
theorem compareVersions_swap (a b : String) : compareVersions b a = -compareVersions a b := by
  by_cases h : versionKey a = none ∨ versionKey b = none
  · rw [compareVersions_of_text h, compareVersions_of_text h.symm]
    split_ifs with hba hab
    · exact absurd hab hba.asymm
    · rfl
    · rfl
    · rfl
  · obtain ⟨ha, hb⟩ := not_or.1 h
    obtain ⟨ka, ha⟩ := Option.ne_none_iff_exists'.1 ha
    obtain ⟨kb, hb⟩ := Option.ne_none_iff_exists'.1 hb
    rw [compareVersions_of_keys ha hb, compareVersions_of_keys hb ha]
    split_ifs with hba hab
    · exact absurd hab hba.asymm
    · rfl
    · rfl
    · rfl

/-! ## Ranges -/

/-- The bounds of a range, each of which may be missing. -/
theorem isVersionInRange_eq_true_iff {v : String} {introduced fixed lastAffected : Option String} :
    isVersionInRange v introduced fixed lastAffected = true ↔
      (∀ i, nonEmpty introduced = some i → i ≠ "0" → compareVersions i v ≤ 0) ∧
      (∀ f, nonEmpty fixed = some f → ¬ compareVersions f v ≤ 0) ∧
      ∀ l, nonEmpty lastAffected = some l → compareVersions v l ≤ 0 := by
  unfold isVersionInRange
  have hintroduced : ∀ i, compareVersions v i < 0 ↔ ¬ compareVersions i v ≤ 0 := fun i => by
    rw [compareVersions_swap i v]
    omega
  have hfixed : ∀ f, 0 ≤ compareVersions v f ↔ compareVersions f v ≤ 0 := fun f => by
    rw [compareVersions_swap f v]
    omega
  cases nonEmpty introduced <;> cases nonEmpty fixed <;> cases nonEmpty lastAffected <;>
    simp [hintroduced, hfixed, or_iff_not_imp_left]

/-- The strings of `S` are ordered, and every range with ends in `S` is an interval of them. -/
structure OrderedOn (S : Set String) : Prop where
  antisymm : ∀ a ∈ S, ∀ b ∈ S, (compareVersions b a).sign = -(compareVersions a b).sign
  trans : ∀ a ∈ S, ∀ b ∈ S, ∀ c ∈ S,
    compareVersions a b ≤ 0 → compareVersions b c ≤ 0 → compareVersions a c ≤ 0
  convex : ∀ introduced fixed lastAffected : Option String,
    (∀ i, introduced = some i → i = "0" ∨ i ∈ S) → (∀ f, fixed = some f → f ∈ S) →
    (∀ l, lastAffected = some l → l ∈ S) → ∀ u ∈ S, ∀ v ∈ S, ∀ w ∈ S,
      isVersionInRange u introduced fixed lastAffected = true →
      isVersionInRange w introduced fixed lastAffected = true →
      compareVersions u v ≤ 0 → compareVersions v w ≤ 0 →
        isVersionInRange v introduced fixed lastAffected = true

/-- Where comparison is transitive, ranges are intervals. -/
theorem orderedOn_of_trans {S : Set String} (htrans : ∀ a ∈ S, ∀ b ∈ S, ∀ c ∈ S,
    compareVersions a b ≤ 0 → compareVersions b c ≤ 0 → compareVersions a c ≤ 0) :
    OrderedOn S where
  antisymm a _ b _ := by rw [compareVersions_swap, Int.sign_neg]
  trans := htrans
  convex introduced fixed lastAffected hintroduced hfixed hlast u hu v hv w hw hinu hinw huv hvw := by
    obtain ⟨hbegun, -, -⟩ := isVersionInRange_eq_true_iff.1 hinu
    obtain ⟨-, hbefore, hupto⟩ := isVersionInRange_eq_true_iff.1 hinw
    refine isVersionInRange_eq_true_iff.2 ⟨fun i hi hzero => ?_, fun f hf hpast => ?_, fun l hl => ?_⟩
    · have hiS := (hintroduced i (nonEmpty_eq_some.1 hi).1).resolve_left hzero
      exact htrans i hiS u hu v hv (hbegun i hi hzero) huv
    · have hfS := hfixed f (nonEmpty_eq_some.1 hf).1
      exact hbefore f hf (htrans f hfS v hv w hw hpast hvw)
    · have hlS := hlast l (nonEmpty_eq_some.1 hl).1
      exact htrans v hv w hw l hlS hvw (hupto l hl)

/-- **Comparison is an order** on a set of strings, with ranges as its intervals, exactly when no
    string of the set that is no version stands, as text, between two versions of it against their
    order. -/
theorem orderedOn_iff (S : Set String) : OrderedOn S ↔
    ¬ ∃ p ∈ S, ∃ x ∈ S, ∃ q ∈ S, Crossed versionKey versionText p x q := by
  have htrans : (∀ a ∈ S, ∀ b ∈ S, ∀ c ∈ S,
      compareVersions a b ≤ 0 → compareVersions b c ≤ 0 → compareVersions a c ≤ 0) ↔
      ∀ p ∈ S, ∀ x ∈ S, ∀ q ∈ S, ¬ Crossed versionKey versionText p x q := by
    simp only [compareVersions_nonpos_iff]
    exact patched_trans_iff
  push Not
  exact ⟨fun h => htrans.1 h.trans, fun h => orderedOn_of_trans (htrans.2 h)⟩

end Orders

/-- "1.9" is before "1.10", but a string that is no version stands between them the other way
    round: not every range is an interval. -/
theorem not_orderedOn : ¬ ∀ (_ : Packaging), OrderedOn Set.univ := by
  intro h
  have hin := @OrderedOn.convex dottedPackaging _ (h dottedPackaging) (some "1.9") none none
    (fun _ _ => Or.inr trivial) nofun nofun "1.10" trivial "1.5x" trivial "1.9" trivial
    (by decide +kernel) (by decide +kernel) (by decide +kernel) (by decide +kernel)
  revert hin
  decide +kernel

end VulnOpsHub
