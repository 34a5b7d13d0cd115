import Mathlib.Data.List.Nodup

set_option autoImplicit false

/-! # Tables with a primary key

A `Table` is a list of rows in insertion order together with the proof that no two rows share a
key, so a lookup by key has at most one answer. Inserting a row whose key is taken is refused
(`insert` answers `none`), as a database refuses a duplicate primary key; an update goes through a
`RowPatch`, which cannot change the key. Generic over the row type and its key. -/

namespace VulnOpsHub

/-- A row type with a primary key. -/
class Keyed (ρ : Type) (κ : outParam Type) where
  key : ρ → κ

/-- A change of a row that leaves its primary key alone. -/
structure RowPatch (ρ : Type) {κ : Type} [Keyed ρ κ] where
  apply : ρ → ρ
  key_apply : ∀ r, Keyed.key (apply r) = Keyed.key r

/-- Rows in insertion order, no two with the same key. -/
structure Table (ρ : Type) {κ : Type} [Keyed ρ κ] where
  rows : List ρ
  nodup : (rows.map Keyed.key).Nodup

namespace Table

variable {ρ κ : Type} [Keyed ρ κ]

@[ext]
theorem ext {t u : Table ρ} (h : t.rows = u.rows) : t = u := by
  cases t; cases u; cases h; rfl

def empty : Table ρ := ⟨[], List.nodup_nil⟩

variable [DecidableEq κ]

/-- The row stored under `k`. -/
def find? (t : Table ρ) (k : κ) : Option ρ :=
  t.rows.find? (fun r => Keyed.key r = k)

/-- Append `r`; refused when its key is taken. -/
def insert (t : Table ρ) (r : ρ) : Option (Table ρ) :=
  if h : Keyed.key r ∈ t.rows.map Keyed.key then none
  else some ⟨t.rows ++ [r], by
    rw [List.map_append, List.map_singleton]
    exact t.nodup.append (List.nodup_singleton _) (List.disjoint_singleton.2 h)⟩

/-- Apply `p` to the row stored under `k`, if there is one. -/
def update (t : Table ρ) (k : κ) (p : RowPatch ρ) : Table ρ :=
  ⟨t.rows.map (fun r => if Keyed.key r = k then p.apply r else r), by
    have hkeys : (t.rows.map (fun r => if Keyed.key r = k then p.apply r else r)).map Keyed.key
        = t.rows.map Keyed.key := by
      rw [List.map_map]
      refine List.map_congr_left fun r _ => ?_
      by_cases hk : Keyed.key r = k
      · simp [hk, p.key_apply]
      · simp [hk]
    rw [hkeys]
    exact t.nodup⟩

/-! ## Lookups -/

/-- Keys are unique, so a lookup answers exactly the row with that key. -/
theorem find?_eq_some {t : Table ρ} {k : κ} {r : ρ} :
    t.find? k = some r ↔ r ∈ t.rows ∧ Keyed.key r = k := by
  constructor
  · intro h
    exact ⟨List.mem_of_find?_eq_some h, by simpa using List.find?_some h⟩
  · rintro ⟨hmem, hkey⟩
    cases hfind : t.find? k with
    | none =>
        have hnone := List.find?_eq_none.1 hfind r hmem
        simp [hkey] at hnone
    | some r' =>
        have hmem' : r' ∈ t.rows := List.mem_of_find?_eq_some hfind
        have hkey' : Keyed.key r' = k := by simpa using List.find?_some hfind
        rw [List.inj_on_of_nodup_map t.nodup hmem' hmem (hkey'.trans hkey.symm)]

theorem find?_key_of_mem {t : Table ρ} {r : ρ} (h : r ∈ t.rows) :
    t.find? (Keyed.key r) = some r :=
  find?_eq_some.2 ⟨h, rfl⟩

theorem key_of_find? {t : Table ρ} {k : κ} {r : ρ} (h : t.find? k = some r) : Keyed.key r = k :=
  (find?_eq_some.1 h).2

theorem mem_of_find? {t : Table ρ} {k : κ} {r : ρ} (h : t.find? k = some r) : r ∈ t.rows :=
  (find?_eq_some.1 h).1

theorem find?_eq_none {t : Table ρ} {k : κ} :
    t.find? k = none ↔ k ∉ t.rows.map Keyed.key := by
  simp [find?, List.find?_eq_none]

theorem isSome_find? {t : Table ρ} {k : κ} :
    (t.find? k).isSome = true ↔ k ∈ t.rows.map Keyed.key := by
  rw [← not_iff_not, Bool.not_eq_true, Option.isSome_eq_false_iff, Option.isNone_iff_eq_none,
    find?_eq_none]

/-- What is gathered from the rows with a key is gathered from the row stored under it. -/
theorem filterMap_key {β : Type} (t : Table ρ) (k : κ) (g : ρ → Option β) :
    t.rows.filterMap (fun r => if Keyed.key r = k then g r else none)
      = ((t.find? k).bind g).toList := by
  have hnodup := t.nodup
  unfold find?
  generalize t.rows = rows at hnodup ⊢
  induction rows with
  | nil => rfl
  | cons r rows ih =>
      simp only [List.map_cons, List.nodup_cons] at hnodup
      by_cases hr : Keyed.key r = k
      · have hrest : rows.filterMap (fun r => if Keyed.key r = k then g r else none) = [] := by
          rw [List.filterMap_eq_nil_iff]
          intro x hx
          refine if_neg fun hk => hnodup.1 ?_
          rw [hr, ← hk]
          exact List.mem_map_of_mem hx
        cases hg : g r <;> simp [hr, hg, hrest]
      · simp [hr, ih hnodup.2]

/-! ## Inserting -/

theorem rows_insert {t u : Table ρ} {r : ρ} (h : t.insert r = some u) :
    u.rows = t.rows ++ [r] := by
  unfold insert at h
  split at h
  · cases h
  · cases h; rfl

/-- An accepted row had a fresh key. -/
theorem find?_of_insert {t u : Table ρ} {r : ρ} (h : t.insert r = some u) :
    t.find? (Keyed.key r) = none := by
  unfold insert at h
  split at h
  · cases h
  · next hfresh => exact find?_eq_none.2 hfresh

theorem insert_eq_some {t : Table ρ} {r : ρ} (h : t.find? (Keyed.key r) = none) :
    ∃ u, t.insert r = some u := by
  unfold insert
  rw [dif_neg (find?_eq_none.1 h)]
  exact ⟨_, rfl⟩

theorem find?_insert {t u : Table ρ} {r : ρ} (h : t.insert r = some u) (k : κ) :
    u.find? k = if Keyed.key r = k then some r else t.find? k := by
  have hrows := rows_insert h
  have hfresh := find?_of_insert h
  by_cases hk : Keyed.key r = k
  · rw [if_pos hk]
    exact find?_eq_some.2 ⟨by simp [hrows], hk⟩
  · rw [if_neg hk]
    simp [find?, hrows, List.find?_append, hk]

/-- A row appended to a table had a fresh key. -/
theorem find?_of_rows_append {t u : Table ρ} {r : ρ} (h : u.rows = t.rows ++ [r]) :
    t.find? (Keyed.key r) = none := by
  have hnodup := u.nodup
  rw [h, List.map_append, List.nodup_append] at hnodup
  rw [find?_eq_none]
  intro hmem
  exact hnodup.2.2 _ hmem _ (List.mem_map_of_mem (List.mem_singleton.2 rfl)) rfl

/-! ## Updating -/

/-- Rows that are changed in place, each under its key. -/
theorem find?_of_rows_map {t u : Table ρ} {g : ρ → ρ}
    (hg : ∀ r, Keyed.key (g r) = Keyed.key r) (h : u.rows = t.rows.map g) (k : κ) :
    u.find? k = (t.find? k).map g := by
  have hcomp : (fun r => decide (Keyed.key (g r) = k)) = fun r => decide (Keyed.key r = k) := by
    funext r
    rw [hg r]
  simp only [find?, h, List.find?_map, Function.comp_def]
  rw [hcomp]

theorem find?_update (t : Table ρ) (k k' : κ) (p : RowPatch ρ) :
    (t.update k p).find? k' = if k' = k then (t.find? k').map p.apply else t.find? k' := by
  have hkey : ∀ r, Keyed.key (if Keyed.key r = k then p.apply r else r) = Keyed.key r := by
    intro r
    by_cases hr : Keyed.key r = k
    · simp [hr, p.key_apply]
    · simp [hr]
  rw [find?_of_rows_map hkey rfl k']
  by_cases hk : k' = k
  · subst hk
    cases h : t.find? k' with
    | none => simp
    | some r => simp [key_of_find? h]
  · rw [if_neg hk]
    cases h : t.find? k' with
    | none => simp
    | some r => simp [key_of_find? h, hk]

/-- An update leaves the values of columns that it does not set. -/
theorem map_update {β : Type} (t : Table ρ) (k : κ) (p : RowPatch ρ) (f : ρ → β)
    (hf : ∀ r, f (p.apply r) = f r) : (t.update k p).rows.map f = t.rows.map f := by
  show (t.rows.map _).map f = _
  rw [List.map_map]
  refine List.map_congr_left fun r _ => ?_
  by_cases hk : Keyed.key r = k
  · simp [hk, hf]
  · simp [hk]

/-! ## Projecting -/

/-- The rows of a table with some of their columns left out, the key not among them. -/
def project {ρ' : Type} [Keyed ρ' κ] (t : Table ρ) (f : ρ → ρ')
    (hf : ∀ r, Keyed.key (f r) = Keyed.key r) : Table ρ' :=
  ⟨t.rows.map f, by
    have hkeys : (t.rows.map f).map Keyed.key = t.rows.map Keyed.key := by
      rw [List.map_map]
      exact List.map_congr_left fun r _ => hf r
    rw [hkeys]
    exact t.nodup⟩

end Table

end VulnOpsHub
