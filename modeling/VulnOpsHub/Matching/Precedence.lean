import VulnOpsHub.Lib.SemVer
import VulnOpsHub.Matching.Orders

set_option autoImplicit false

/-! # Ranges of semantic versions

The matcher compares npm and Go versions like all others: by `packaging.version` where it reads both,
and as text elsewhere. It reads the three numbers of a semantic version as SemVer does. What follows
them means something else to it: a numeric prerelease is a post release, build metadata is a local
version that counts, and most other prereleases are not read at all. -/

namespace VulnOpsHub

section Precedence

variable [Packaging]

/-- What `packaging` says of semantic versions: a release version is a version, and of two versions
    that differ in their numbers, the lower numbers come first. -/
structure ReadsCores : Prop where
  plain : ∀ v : SemVer, v.Plain → (versionKey v.text).isSome = true
  core_lt : ∀ (v w : SemVer) (kv kw : Packaging.Key), versionKey v.text = some kv →
    versionKey w.text = some kw → v.core < w.core → kv < kw

/-- The matcher has `v` on the wrong side of the bound. Both are versions with the same numbers, and
    what follows these stands the other way round for `packaging`; or one is no version, and the
    texts stand the other way round. -/
def Misplaced (v bound : SemVer) : Prop :=
  (∃ kv kb, versionKey v.text = some kv ∧ versionKey bound.text = some kb ∧ v.core = bound.core ∧
    ¬ (kb ≤ kv ↔ bound.stage ≤ v.stage)) ∨
  ((versionKey v.text = none ∨ versionKey bound.text = none) ∧
    ¬ (versionText bound.text ≤ versionText v.text ↔ bound.precedence ≤ v.precedence))

/-- A misplaced bound makes no difference: where one of them is misplaced, the other keeps `v` out;
    where both are, `v` is before both or past both. -/
structure Harmless (v introduced fixed : SemVer) : Prop where
  past : Misplaced v introduced → ¬ Misplaced v fixed → fixed.precedence ≤ v.precedence
  before : Misplaced v fixed → ¬ Misplaced v introduced → ¬ introduced.precedence ≤ v.precedence
  outside : Misplaced v introduced → Misplaced v fixed →
    (introduced.precedence ≤ v.precedence ↔ fixed.precedence ≤ v.precedence)

/-- The matcher and SemVer agree on whether `v` is in the range. -/
def AgreesOn (v introduced fixed : SemVer) : Prop :=
  isVersionInRange v.text (some introduced.text) (some fixed.text) none = true ↔
    introduced.precedence ≤ v.precedence ∧ v.precedence < fixed.precedence

omit [Packaging] in
theorem precedence_le_iff_stage {v w : SemVer} (h : v.core = w.core) :
    w.precedence ≤ v.precedence ↔ w.stage ≤ v.stage := by
  unfold SemVer.precedence
  rw [h, Prod.Lex.toLex_le_toLex]
  simp

/-- A bound is misplaced exactly where the matcher and SemVer order it otherwise. -/
theorem misplaced_iff (hcores : ReadsCores) (v bound : SemVer) : Misplaced v bound ↔
    ¬ (compareVersions bound.text v.text ≤ 0 ↔ bound.precedence ≤ v.precedence) := by
  rw [compareVersions_nonpos_iff]
  by_cases htext : versionKey v.text = none ∨ versionKey bound.text = none
  · rw [patched_of_text htext.symm]
    constructor
    · rintro (⟨kv, kb, hkv, hkb, -⟩ | ⟨-, hne⟩)
      · rcases htext with hnone | hnone
        · rw [hkv] at hnone
          cases hnone
        · rw [hkb] at hnone
          cases hnone
      · exact hne
    · exact fun hne => Or.inr ⟨htext, hne⟩
  · obtain ⟨hv, hb⟩ := not_or.1 htext
    obtain ⟨kv, hkv⟩ := Option.ne_none_iff_exists'.1 hv
    obtain ⟨kb, hkb⟩ := Option.ne_none_iff_exists'.1 hb
    rw [patched_of_keys hkb hkv]
    have hmisplaced : Misplaced v bound ↔
        v.core = bound.core ∧ ¬ (kb ≤ kv ↔ bound.stage ≤ v.stage) := by
      constructor
      · rintro (⟨kv', kb', hkv', hkb', hsame, hne⟩ | ⟨hnone, -⟩)
        · obtain rfl := Option.some.inj (hkv.symm.trans hkv')
          obtain rfl := Option.some.inj (hkb.symm.trans hkb')
          exact ⟨hsame, hne⟩
        · exact absurd hnone htext
      · rintro ⟨hsame, hne⟩
        exact Or.inl ⟨kv, kb, hkv, hkb, hsame, hne⟩
    rw [hmisplaced]
    by_cases hsame : v.core = bound.core
    · rw [precedence_le_iff_stage hsame]
      exact ⟨fun h => h.2, fun h => ⟨hsame, h⟩⟩
    · -- The numbers decide, for both alike.
      refine iff_of_false (fun h => hsame h.1) (not_not.2 ?_)
      rw [SemVer.precedence_le_iff_of_core (Ne.symm hsame)]
      rcases lt_or_gt_of_ne hsame with hlt | hgt
      · exact iff_of_false (hcores.core_lt _ _ _ _ hkv hkb hlt).not_ge hlt.asymm
      · exact iff_of_true (hcores.core_lt _ _ _ _ hkb hkv hgt).le hgt

/-- Release versions are where they belong. -/
theorem not_misplaced_of_plain (hcores : ReadsCores) {v bound : SemVer} (hv : v.Plain)
    (hbound : bound.Plain) : ¬ Misplaced v bound := by
  obtain ⟨kv, hkv⟩ := Option.isSome_iff_exists.1 (hcores.plain v hv)
  obtain ⟨kb, hkb⟩ := Option.isSome_iff_exists.1 (hcores.plain bound hbound)
  rintro (⟨kv', kb', hkv', hkb', hsame, hne⟩ | ⟨hnone | hnone, -⟩)
  · refine hne (iff_of_true ?_ ?_)
    · rw [SemVer.text_eq_of_core hv hbound hsame] at hkv'
      obtain rfl := Option.some.inj (hkv'.symm.trans hkb')
      exact le_refl _
    · simp [SemVer.stage, hv.1]
  · rw [hkv] at hnone
    cases hnone
  · rw [hkb] at hnone
    cases hnone

omit [Packaging] in
/-- Two readings of the ends of an interval, `A` and `B` the one and `S` and `T` the other. -/
theorem interval_iff_iff {A B S T : Prop} : (A ∧ ¬ B ↔ S ∧ ¬ T) ↔
    (¬ (A ↔ S) → ¬ ¬ (B ↔ T) → T) ∧ (¬ (B ↔ T) → ¬ ¬ (A ↔ S) → ¬ S) ∧
      (¬ (A ↔ S) → ¬ (B ↔ T) → (S ↔ T)) := by
  by_cases A <;> by_cases B <;> by_cases S <;> by_cases T <;> simp [*]

/-- **Ranges of semantic versions** are those of SemVer exactly where no bound is misplaced, or a
    misplaced bound makes no difference. -/
theorem agreesOn_iff (hcores : ReadsCores) (v introduced fixed : SemVer) :
    AgreesOn v introduced fixed ↔ Harmless v introduced fixed := by
  have hin : isVersionInRange v.text (some introduced.text) (some fixed.text) none = true ↔
      compareVersions introduced.text v.text ≤ 0 ∧ ¬ compareVersions fixed.text v.text ≤ 0 := by
    rw [isVersionInRange_eq_true_iff, nonEmpty_eq_some.2 ⟨rfl, introduced.text_ne_empty⟩,
      nonEmpty_eq_some.2 ⟨rfl, fixed.text_ne_empty⟩]
    simp [introduced.text_ne_zero, nonEmpty]
  rw [AgreesOn, hin, ← not_le, interval_iff_iff, ← misplaced_iff hcores, ← misplaced_iff hcores]
  exact ⟨fun h => ⟨h.1, h.2.1, h.2.2⟩, fun h => ⟨h.past, h.before, h.outside⟩⟩

end Precedence

/-! ## Samples -/

theorem parseDigits_toDigits (n : ℕ) : parseDigits (Nat.toDigits 10 n) = some n := by
  have hdigits : (Nat.toDigits 10 n).all Char.isDigit = true :=
    List.all_eq_true.2 fun c hc => Nat.isDigit_of_mem_toDigits (by omega) (by omega) hc
  have hvalue : Nat.ofDigitChars 10 (Nat.toDigits 10 n) 0 = n := Nat.ofDigitChars_ten_toDigits
  rw [parseDigits, if_pos ⟨Nat.toDigits_ne_nil, hdigits⟩]
  exact congrArg some hvalue

/-- What is read as dotted numbers has nothing but digits and dots. -/
theorem digits_of_dotted {cs : List Char} {ns : List ℕ}
    (h : (cs.splitOn '.').mapM parseDigits = some ns) : ∀ c ∈ cs, c = '.' ∨ c.isDigit = true := by
  have hparts : ∀ part ∈ cs.splitOn '.', ∀ c ∈ part, c.isDigit = true := by
    generalize cs.splitOn '.' = parts at h
    induction parts generalizing ns with
    | nil => simp
    | cons part rest ih =>
        rw [List.mapM_cons] at h
        obtain ⟨n, hn, h⟩ := Option.bind_eq_some_iff.1 h
        obtain ⟨ms, hms, -⟩ := Option.bind_eq_some_iff.1 h
        refine List.forall_mem_cons.2 ⟨?_, ih hms⟩
        unfold parseDigits at hn
        split_ifs at hn with hdigits
        exact List.all_eq_true.1 hdigits.2
  have hjoined : ['.'].intercalate (cs.splitOn '.') = cs := List.intercalate_splitOn '.'
  intro c hc
  rw [← hjoined] at hc
  rcases mem_intercalate hc with rfl | ⟨part, hpart, hmem⟩
  · exact Or.inl rfl
  · exact Or.inr (hparts part hpart c hmem)

/-- A version with more than its numbers has a sign in its text. -/
theorem SemVer.sign_mem_text {v : SemVer} (h : ¬ v.Plain) :
    '-' ∈ v.text.toList ∨ '+' ∈ v.text.toList := by
  rw [SemVer.Plain, not_and_or] at h
  rcases h with hpre | hbuild
  · left
    simp [SemVer.text, SemVer.marked, hpre]
  · right
    simp [SemVer.text, SemVer.marked, hbuild]

/-- `dottedPackaging` reads the numbers of release versions, and no others. -/
theorem dotted_parse {v : SemVer} (h : v.Plain) :
    @Packaging.parse dottedPackaging v.text = some [v.major, v.minor, v.patch] := by
  have htext : v.text.toList = v.release := by
    simp [SemVer.text, SemVer.marked, h.1, h.2]
  have hdigits : ∀ n : ℕ, '.' ∉ Nat.toDigits 10 n := by
    intro n hmem
    have hdigit := Nat.isDigit_of_mem_toDigits (by omega) (by omega) hmem
    revert hdigit
    decide
  show (v.text.toList.splitOn '.').mapM parseDigits = _
  rw [htext, SemVer.release, List.splitOn_intercalate]
  · simp [parseDigits_toDigits]
  · simp [hdigits]
  · simp

theorem dotted_parse_none {v : SemVer} (h : ¬ v.Plain) :
    @Packaging.parse dottedPackaging v.text = none := by
  rw [Option.eq_none_iff_forall_not_mem]
  intro ns hns
  have hdigits := digits_of_dotted (Option.mem_def.1 hns)
  rcases SemVer.sign_mem_text h with hsign | hsign
  · exact absurd (hdigits _ hsign) (by decide)
  · exact absurd (hdigits _ hsign) (by decide)

theorem dotted_key_lt {a b c a' b' c' : ℕ}
    (h : toLex (a, toLex (b, c)) < toLex (a', toLex (b', c'))) :
    [a, b, c].rdropWhile (· = 0) < [a', b', c'].rdropWhile (· = 0) := by
  rw [Prod.Lex.toLex_lt_toLex, Prod.Lex.toLex_lt_toLex] at h
  by_cases hc : c = 0 <;> by_cases hb : b = 0 <;> by_cases ha : a = 0 <;>
    by_cases hc' : c' = 0 <;> by_cases hb' : b' = 0 <;> by_cases ha' : a' = 0 <;>
    simp [List.rdropWhile, hc, hb, ha, hc', hb', ha', List.cons_lt_cons_iff] at h ⊢ <;> omega

theorem readsCores_dotted : @ReadsCores dottedPackaging := by
  let _ := dottedPackaging
  refine ⟨fun v hv => ?_, fun v w kv kw hkv hkw hlt => ?_⟩
  · simp only [versionKey, dotted_parse hv]
    rfl
  · have hplain : ∀ (x : SemVer) (k : List ℕ), versionKey x.text = some k → x.Plain := by
      intro x k hk
      by_contra hnot
      rw [versionKey, dotted_parse_none hnot] at hk
      cases hk
    rw [versionKey, dotted_parse (hplain v kv hkv)] at hkv
    rw [versionKey, dotted_parse (hplain w kw hkw)] at hkw
    obtain rfl := Option.some.inj hkv
    obtain rfl := Option.some.inj hkw
    exact dotted_key_lt hlt

/-- A release version. -/
def SemVer.ofNumbers (major minor patch : ℕ) : SemVer := ⟨major, minor, patch, [], []⟩

/-- A range of release versions, with a release version in it. -/
theorem agreesOn_release : @AgreesOn dottedPackaging (.ofNumbers 1 10 0) (.ofNumbers 1 9 0)
    (.ofNumbers 2 0 0) := by
  have hplain : ∀ a b c d e f, ¬ @Misplaced dottedPackaging (.ofNumbers a b c) (.ofNumbers d e f) :=
    fun a b c d e f => @not_misplaced_of_plain dottedPackaging readsCores_dotted _ _ ⟨rfl, rfl⟩
      ⟨rfl, rfl⟩
  refine (@agreesOn_iff dottedPackaging readsCores_dotted _ _ _).2 ?_
  exact @Harmless.mk dottedPackaging _ _ _ (fun h => absurd h (hplain _ _ _ _ _ _))
    (fun h => absurd h (hplain _ _ _ _ _ _)) (fun h => absurd h (hplain _ _ _ _ _ _))

/-- `1.10.0-foo`. -/
def samplePrerelease : SemVer where
  major := 1
  minor := 10
  patch := 0
  prerelease := [.word ⟨['f', 'o', 'o'], by simp, by simp [Char.isAlphanum]⟩ ⟨'f', by simp, rfl⟩]
  build := []

/-- `1.10.0-foo` is no version of `packaging`; as text it is before `1.9.0`, and out of the range from
    `1.9.0` to `2.0.0`. -/
theorem not_agreesOn_prerelease :
    ¬ ∀ (_ : Packaging), ReadsCores → ∀ v introduced fixed, AgreesOn v introduced fixed := by
  intro h
  have hagrees := h dottedPackaging readsCores_dotted samplePrerelease (.ofNumbers 1 9 0)
    (.ofNumbers 2 0 0)
  unfold AgreesOn at hagrees
  have hin := hagrees.2
    ⟨(SemVer.precedence_lt_of_core (by decide)).le, SemVer.precedence_lt_of_core (by decide)⟩
  revert hin
  decide +kernel

end VulnOpsHub
