import Mathlib.Data.List.Perm.Basic

set_option autoImplicit false

/-! # The first answer along a list

A loop that returns at the first element that has an answer finds the same one in every order of
its list exactly when no two elements answer differently. -/

namespace VulnOpsHub

variable {α β : Type} {f : α → Option β} {xs ys : List α}

/-- Any two elements that have an answer have the same. -/
def Agree (f : α → Option β) (xs : List α) : Prop :=
  ∀ x ∈ xs, ∀ y ∈ xs, ∀ b c, f x = some b → f y = some c → b = c

theorem Agree.perm (h : Agree f xs) (hperm : ys.Perm xs) : Agree f ys :=
  fun x hx y hy => h x (hperm.subset hx) y (hperm.subset hy)

/-- Then the answer of any element is the first one. -/
theorem Agree.findSome?_eq (h : Agree f xs) {x : α} (hx : x ∈ xs) {b : β} (hb : f x = some b) :
    xs.findSome? f = some b := by
  cases hfirst : xs.findSome? f with
  | none =>
      have hnone := List.findSome?_eq_none_iff.1 hfirst x hx
      rw [hb] at hnone
      cases hnone
  | some c =>
      obtain ⟨y, hy, hc⟩ := List.exists_of_findSome?_eq_some hfirst
      rw [h x hx y hy b c hb hc]

/-- The order of elements that agree does not matter. -/
theorem Agree.findSome?_perm (h : Agree f xs) (hperm : ys.Perm xs) :
    ys.findSome? f = xs.findSome? f := by
  cases hfirst : ys.findSome? f with
  | none =>
      have hnone := List.findSome?_eq_none_iff.1 hfirst
      exact (List.findSome?_eq_none_iff.2 fun x hx => hnone x (hperm.symm.subset hx)).symm
  | some b =>
      obtain ⟨y, hy, hb⟩ := List.exists_of_findSome?_eq_some hfirst
      exact (h.findSome?_eq (hperm.subset hy) hb).symm

/-- An element can be moved to the front. -/
theorem exists_perm_cons {x : α} (hx : x ∈ xs) : ∃ zs, (x :: zs).Perm xs := by
  obtain ⟨front, rest, rfl⟩ := List.append_of_mem hx
  exact ⟨front ++ rest, List.perm_middle.symm⟩

/-- Conversely, elements whose order does not matter agree: each can be the first. -/
theorem agree_iff_perm :
    Agree f xs ↔ ∀ ys : List α, ys.Perm xs → ys.findSome? f = xs.findSome? f := by
  refine ⟨fun h ys hperm => h.findSome?_perm hperm, fun h x hx y hy b c hb hc => ?_⟩
  have hfirst : ∀ z ∈ xs, ∀ d, f z = some d → xs.findSome? f = some d := by
    intro z hz d hd
    obtain ⟨zs, hzs⟩ := exists_perm_cons hz
    rw [← h _ hzs, List.findSome?_cons, hd]
  exact Option.some.inj ((hfirst x hx b hb).symm.trans (hfirst y hy c hc))

end VulnOpsHub
