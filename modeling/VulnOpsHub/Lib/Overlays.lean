import VulnOpsHub.Lib.Table
import Mathlib.Algebra.BigOperators.Group.List.Basic
import Mathlib.Algebra.Group.Action.Defs
import Mathlib.Data.List.Induction

set_option autoImplicit false

/-! # Patches that overwrite

A patch sets some columns of a row and keeps the others. Patches compose, `p * q` being `q` followed
by `p`, and one that comes again overrides whatever has been set since: `p * q * p = p * q`. So a list of
patches that has once been applied to a row finds its mark there, and applied once more it leaves the
row as it is. The same holds of a table whose patches go to rows by their keys. -/

namespace VulnOpsHub

variable {P ρ κ : Type} [Monoid P] [MulAction P ρ]

/-- A patch that comes again overrides what has been set since. -/
class Overriding (P : Type) [Monoid P] : Prop where
  mul_mul_self : ∀ p q : P, p * q * p = p * q

/-- Patches of rows with keys. -/
class Overlay (P ρ : Type) {κ : outParam Type} [Keyed ρ κ] [Monoid P] [MulAction P ρ] : Prop where
  key_smul : ∀ (p : P) (r : ρ), Keyed.key (p • r) = Keyed.key r

namespace Overlay

/-- A list of patches as one, the last one first in the product. -/
def total (ps : List P) : P := ps.reverse.prod

omit [MulAction P ρ] in
theorem total_concat (ps : List P) (p : P) : total (ps ++ [p]) = p * total ps := by
  simp [total]

/-- The patches for the row with a key. -/
def patchesAt [DecidableEq κ] (k : κ) (ops : List (κ × P)) : List P :=
  (ops.filter (·.1 = k)).map Prod.snd

section

variable [DecidableEq κ] {ops : List (κ × P)} {k k' : κ} {p : P}

omit [Monoid P] in
theorem patchesAt_concat_self : patchesAt k (ops ++ [(k, p)]) = patchesAt k ops ++ [p] := by
  simp [patchesAt]

omit [Monoid P] in
theorem patchesAt_concat_of_ne (h : k' ≠ k) : patchesAt k (ops ++ [(k', p)]) = patchesAt k ops := by
  simp [patchesAt, h]

omit [Monoid P] in
theorem patchesAt_eq_nil (h : ∀ op ∈ ops, op.1 ≠ k) : patchesAt k ops = [] := by
  have hfilter : ops.filter (·.1 = k) = [] :=
    List.filter_eq_nil_iff.2 fun op hop => by simpa using h op hop
  rw [patchesAt, hfilter, List.map_nil]

end

variable [Keyed ρ κ] [DecidableEq κ] {ops : List (κ × P)} {rows : List ρ} {k : κ} {p : P} {r : ρ}

/-- The rows bear the marks of the patches. -/
def Settled (ops : List (κ × P)) (rows : List ρ) : Prop :=
  ∀ r ∈ rows, total (patchesAt (Keyed.key r) ops) • r = r

theorem settled_nil (rows : List ρ) : Settled ([] : List (κ × P)) rows :=
  fun r _ => one_smul P r

/-- A change of rows that no patch sees. -/
theorem Settled.map {g : ρ → ρ} (h : Settled ops rows)
    (hkey : ∀ r, Keyed.key (g r) = Keyed.key r) (hg : ∀ (p : P) (r : ρ), p • r = r → p • g r = g r) :
    Settled ops (rows.map g) := by
  intro r' hr'
  obtain ⟨r, hr, rfl⟩ := List.mem_map.1 hr'
  rw [hkey r]
  exact hg _ r (h r hr)

/-- A row for which there were no patches yet, and which bears the mark of its first one. -/
theorem Settled.create (h : Settled ops rows) (hops : ∀ op ∈ ops, op.1 ≠ Keyed.key r)
    (hrows : ∀ r' ∈ rows, Keyed.key r ≠ Keyed.key r') (hr : p • r = r) :
    Settled (ops ++ [(Keyed.key r, p)]) (rows ++ [r]) := by
  intro r' hr'
  rcases List.mem_append.1 hr' with hr' | hr'
  · rw [patchesAt_concat_of_ne (hrows r' hr')]
    exact h r' hr'
  · rw [List.mem_singleton.1 hr', patchesAt_concat_self, patchesAt_eq_nil hops]
    simpa [total] using hr

section

variable [Overriding P]

/-- The row to which a patch is applied bears its mark on top of the others. -/
theorem smul_settled {ps : List P} (h : total ps • r = r) : total (ps ++ [p]) • p • r = p • r := by
  rw [total_concat, smul_smul, Overriding.mul_mul_self, mul_smul, h]

end

/-- The row bears the mark of its last patch. -/
theorem Settled.last [Overriding P] {later : List (κ × P)}
    (h : Settled (ops ++ (k, p) :: later) rows) (hlater : ∀ op ∈ later, op.1 ≠ k)
    (hr : r ∈ rows) (hk : Keyed.key r = k) : p • r = r := by
  have hpatches : patchesAt k (ops ++ (k, p) :: later) = patchesAt k ops ++ [p] := by
    have hnone := patchesAt_eq_nil hlater
    rw [patchesAt, List.map_eq_nil_iff] at hnone
    simp [patchesAt, hnone]
  have hself : p * p = p := by
    simpa using Overriding.mul_mul_self p (1 : P)
  have hmark := h r hr
  rw [hk, hpatches, total_concat, mul_smul] at hmark
  calc p • r = p • p • total (patchesAt k ops) • r := by rw [hmark]
    _ = p • total (patchesAt k ops) • r := by rw [smul_smul, hself]
    _ = r := hmark

variable [Overlay P ρ]

/-- A patch, as a change of a row in a table. -/
def rowPatch (ρ : Type) [Keyed ρ κ] [MulAction P ρ] [Overlay P ρ] (p : P) : RowPatch ρ where
  apply r := p • r
  key_apply r := key_smul p r

theorem Settled.update [Overriding P] {t : Table ρ} (h : Settled ops t.rows) (k : κ) (p : P) :
    Settled (ops ++ [(k, p)]) (t.update k (rowPatch ρ p)).rows := by
  intro r' hr'
  obtain ⟨r, hr, rfl⟩ := List.mem_map.1 hr'
  by_cases hk : Keyed.key r = k
  · rw [if_pos hk]
    show total (patchesAt (Keyed.key (p • r)) _) • p • r = p • r
    rw [key_smul p r, hk, patchesAt_concat_self]
    exact smul_settled (hk ▸ h r hr)
  · rw [if_neg hk, patchesAt_concat_of_ne fun hk' => hk hk'.symm]
    exact h r hr

/-- Apply the patches in their order. -/
def replay (ops : List (κ × P)) (t : Table ρ) : Table ρ :=
  ops.foldl (fun t op => t.update op.1 (rowPatch ρ op.2)) t

theorem rows_replay (t : Table ρ) :
    (replay ops t).rows = t.rows.map fun r => total (patchesAt (Keyed.key r) ops) • r := by
  induction ops using List.reverseRec with
  | nil => simp [replay, patchesAt, total]
  | append_singleton ops op ih =>
      have hlast : replay (ops ++ [op]) t = (replay ops t).update op.1 (rowPatch ρ op.2) := by
        simp [replay]
      have hkey : ∀ r : ρ, Keyed.key (total (patchesAt (Keyed.key r) ops) • r) = Keyed.key r :=
        fun r => key_smul _ r
      rw [hlast]
      show (replay ops t).rows.map _ = _
      rw [ih, List.map_map]
      refine List.map_congr_left fun r _ => ?_
      show (if Keyed.key (total (patchesAt (Keyed.key r) ops) • r) = op.1 then
        op.2 • total (patchesAt (Keyed.key r) ops) • r else _) = _
      rw [hkey r]
      by_cases hk : Keyed.key r = op.1
      · rw [if_pos hk, hk, patchesAt_concat_self, total_concat, mul_smul]
      · rw [if_neg hk, patchesAt_concat_of_ne fun hk' => hk hk'.symm]

/-- **Where the patches have left their marks, applying them again changes nothing.** -/
theorem Settled.replay_eq {t : Table ρ} (h : Settled ops t.rows) : replay ops t = t := by
  refine Table.ext ?_
  rw [rows_replay]
  conv_rhs => rw [← List.map_id t.rows]
  exact List.map_congr_left h

end Overlay

end VulnOpsHub
