import VulnOpsHub.Lib.Table

set_option autoImplicit false

/-! # Tables with a unique constraint

A `UniqueTable` is a `Table` in which, besides the primary key, a second combination of columns is
taken at most once. An insert that repeats either is refused. -/

namespace VulnOpsHub

/-- A row type with a unique constraint besides its primary key. -/
class NaturalKey (ρ : Type) (υ : outParam Type) where
  natural : ρ → υ

structure UniqueTable (ρ : Type) {κ υ : Type} [Keyed ρ κ] [NaturalKey ρ υ] extends Table ρ where
  natural_nodup : (rows.map NaturalKey.natural).Nodup

namespace UniqueTable

variable {ρ κ υ : Type} [Keyed ρ κ] [NaturalKey ρ υ] [DecidableEq κ] [DecidableEq υ]

omit [DecidableEq κ] [DecidableEq υ] in
@[ext]
theorem ext {t u : UniqueTable ρ} (h : t.rows = u.rows) : t = u := by
  have htable : t.toTable = u.toTable := Table.ext h
  cases t; cases u; cases htable; rfl

omit [DecidableEq κ] [DecidableEq υ] in
def empty : UniqueTable ρ := ⟨Table.empty, List.nodup_nil⟩

/-- The row that holds `k` under the constraint. -/
def byNatural (t : UniqueTable ρ) (k : υ) : Option ρ :=
  t.rows.find? fun r => NaturalKey.natural r = k

/-- No row has the key of `r`, nor its columns under the constraint. -/
def Fresh (t : UniqueTable ρ) (r : ρ) : Prop :=
  Keyed.key r ∉ t.rows.map Keyed.key ∧ NaturalKey.natural r ∉ t.rows.map NaturalKey.natural

instance (t : UniqueTable ρ) (r : ρ) : Decidable (t.Fresh r) :=
  inferInstanceAs (Decidable (_ ∧ _))

/-- Append `r`; refused unless it is fresh. -/
def insert (t : UniqueTable ρ) (r : ρ) : Option (UniqueTable ρ) :=
  if h : t.Fresh r then
    some
      { rows := t.rows ++ [r]
        nodup := by
          rw [List.map_append, List.map_singleton]
          exact t.nodup.append (List.nodup_singleton _) (List.disjoint_singleton.2 h.1)
        natural_nodup := by
          rw [List.map_append, List.map_singleton]
          exact t.natural_nodup.append (List.nodup_singleton _) (List.disjoint_singleton.2 h.2) }
  else none

omit [DecidableEq υ] in
/-- Apply `p` to the row stored under `k`; the constrained columns stay. -/
def update (t : UniqueTable ρ) (k : κ) (p : RowPatch ρ)
    (hp : ∀ r, NaturalKey.natural (p.apply r) = NaturalKey.natural r) : UniqueTable ρ where
  toTable := t.toTable.update k p
  natural_nodup := by
    rw [Table.map_update _ _ _ _ hp]
    exact t.natural_nodup

variable {t u : UniqueTable ρ} {r : ρ} {k : υ}

omit [DecidableEq κ] in
theorem byNatural_eq_some : t.byNatural k = some r ↔ r ∈ t.rows ∧ NaturalKey.natural r = k := by
  constructor
  · intro h
    exact ⟨List.mem_of_find?_eq_some h, by simpa using List.find?_some h⟩
  · rintro ⟨hmem, hkey⟩
    cases hfind : t.byNatural k with
    | none =>
        have hnone := List.find?_eq_none.1 hfind r hmem
        simp [hkey] at hnone
    | some r' =>
        have hmem' : r' ∈ t.rows := List.mem_of_find?_eq_some hfind
        have hkey' : NaturalKey.natural r' = k := by simpa using List.find?_some hfind
        rw [List.inj_on_of_nodup_map t.natural_nodup hmem' hmem (hkey'.trans hkey.symm)]

omit [DecidableEq κ] in
theorem byNatural_eq_none :
    t.byNatural k = none ↔ ∀ r ∈ t.rows, NaturalKey.natural r ≠ k := by
  simp [byNatural, List.find?_eq_none]

omit [DecidableEq κ] in
/-- Of the rows with `k` under the constraint there is at most one. -/
theorem filter_natural (t : UniqueTable ρ) (k : υ) :
    t.rows.filter (fun r => NaturalKey.natural r = k) = (t.byNatural k).toList := by
  have hnodup := t.natural_nodup
  unfold byNatural
  generalize t.rows = rows at hnodup ⊢
  induction rows with
  | nil => rfl
  | cons r rows ih =>
      rw [List.map_cons, List.nodup_cons] at hnodup
      by_cases hr : NaturalKey.natural r = k
      · have hrest : rows.filter (fun r' => NaturalKey.natural r' = k) = [] := by
          refine List.filter_eq_nil_iff.2 fun r' hr' hk => hnodup.1 ?_
          rw [hr, ← of_decide_eq_true hk]
          exact List.mem_map_of_mem hr'
        simp [hr, hrest]
      · simpa [hr] using ih hnodup.2

omit [DecidableEq κ] in
theorem isSome_byNatural :
    (t.byNatural k).isSome = true ↔ k ∈ t.rows.map NaturalKey.natural := by
  rw [← not_iff_not, Bool.not_eq_true, Option.isSome_eq_false_iff, Option.isNone_iff_eq_none,
    byNatural_eq_none]
  simp

omit [DecidableEq κ] in
theorem fresh_iff : t.Fresh r ↔
    Keyed.key r ∉ t.rows.map Keyed.key ∧ t.byNatural (NaturalKey.natural r) = none := by
  rw [byNatural_eq_none]
  simp [Fresh]

theorem insert_eq_some : t.insert r = some u ↔ t.Fresh r ∧ u.rows = t.rows ++ [r] := by
  unfold insert
  split_ifs with hfresh
  · rw [Option.some_inj]
    constructor
    · rintro rfl
      exact ⟨hfresh, rfl⟩
    · rintro ⟨-, hrows⟩
      exact UniqueTable.ext hrows.symm
  · simp [hfresh]

theorem insert_eq_none : t.insert r = none ↔ ¬ t.Fresh r := by
  unfold insert
  split_ifs with hfresh <;> simp [hfresh]

end UniqueTable

end VulnOpsHub
