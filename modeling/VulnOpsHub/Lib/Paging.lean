import Mathlib.Data.List.Perm.Subperm
import Mathlib.Data.Nat.Find
import Mathlib.Order.Lattice
import Mathlib.Order.Nat

set_option autoImplicit false

/-! # Paging by offset

A client that reads a list page by page, by offset, and stops at the first short page. Over a list
that does not change it reads everything. Over one that shrinks between the requests it misses an
item exactly when the item crosses the offset of the next page. -/

namespace VulnOpsHub

section Paging

variable {α K : Type}

/-- The page of at most `size` items from `offset` on. -/
def page (size offset : ℕ) (l : List α) : List α := (l.drop offset).take size

/-- The first `n` pages, the `k`-th of them from `lists k`. -/
def pages (size : ℕ) (lists : ℕ → List α) : ℕ → List α
  | 0 => []
  | n + 1 => pages size lists n ++ page size (size * n) (lists n)

/-- The pages of a list that does not change. -/
theorem pages_const (size : ℕ) (l : List α) (n : ℕ) :
    pages size (fun _ => l) n = l.take (size * n) := by
  induction n with
  | zero => rfl
  | succ n ih => rw [pages, ih, page, Nat.mul_succ, List.take_add]

theorem length_page (size offset : ℕ) (l : List α) :
    (page size offset l).length = min size (l.length - offset) := by
  rw [page, List.length_take, List.length_drop]

theorem mem_pages {size : ℕ} {lists : ℕ → List α} {n : ℕ} {x : α} :
    x ∈ pages size lists n ↔ ∃ k < n, x ∈ page size (size * k) (lists k) := by
  induction n with
  | zero => simp [pages]
  | succ n ih =>
      simp only [pages, List.mem_append, ih, Nat.lt_succ_iff_lt_or_eq, or_and_right, exists_or,
        exists_eq_left]

variable [LinearOrder K] {key : α → K}

/-- How many items come before a key. -/
def position (key : α → K) (i : K) (l : List α) : ℕ := l.countP fun x => key x < i

/-- In a list in order an item stands where its position says. -/
theorem position_getElem {l : List α} (hsorted : l.Pairwise fun x y => key x < key y) {n : ℕ}
    (hn : n < l.length) : position key (key l[n]) l = n := by
  induction l generalizing n with
  | nil => simp at hn
  | cons x l ih =>
      obtain ⟨hx, hl⟩ := List.pairwise_cons.1 hsorted
      unfold position
      cases n with
      | zero =>
          have hnone : ∀ y ∈ l, key x ≤ key y := fun y hy => le_of_lt (hx y hy)
          simpa [List.countP_eq_zero] using hnone
      | succ n =>
          have hlt : n < l.length := Nat.lt_of_succ_lt_succ hn
          have hbefore : key x < key l[n] := hx _ (List.getElem_mem _)
          have hrest := ih hl hlt
          unfold position at hrest
          simp [hbefore, hrest]

theorem position_lt_length {l : List α} {i : K} (hi : ∃ x ∈ l, key x = i) :
    position key i l < l.length := by
  obtain ⟨x, hx, rfl⟩ := hi
  unfold position
  refine lt_of_le_of_ne List.countP_le_length fun heq => ?_
  have hall := List.countP_eq_length.1 heq x hx
  simp at hall

/-- A page of a list in order holds the keys at its positions. -/
theorem mem_page_iff {l : List α} (hsorted : l.Pairwise fun x y => key x < key y) {i : K}
    {size offset : ℕ} : (∃ x ∈ page size offset l, key x = i) ↔
      (∃ x ∈ l, key x = i) ∧ offset ≤ position key i l ∧ position key i l < offset + size := by
  constructor
  · rintro ⟨x, hx, rfl⟩
    obtain ⟨n, hn, rfl⟩ := List.getElem_of_mem hx
    have hlength := hn
    rw [length_page] at hlength
    have hbound : offset + n < l.length := by omega
    have hget : (page size offset l)[n] = l[offset + n] := by
      simp [page]
    rw [hget, position_getElem hsorted hbound]
    exact ⟨⟨_, List.getElem_mem _, rfl⟩, by omega, by omega⟩
  · rintro ⟨⟨x, hx, rfl⟩, hfrom, hto⟩
    obtain ⟨n, hn, rfl⟩ := List.getElem_of_mem hx
    rw [position_getElem hsorted hn] at hfrom hto
    refine ⟨l[n], ?_, rfl⟩
    have hbound : n - offset < (page size offset l).length := by
      rw [length_page]
      omega
    have hget : (page size offset l)[n - offset] = l[n] := by
      simp only [page, List.getElem_take, List.getElem_drop]
      congr 1
      omega
    rw [← hget]
    exact List.getElem_mem _

/-- Lists in order, each with some items of the one before it and new ones behind all of them. -/
structure Drifts (key : α → K) (lists : ℕ → List α) : Prop where
  sorted : ∀ k, (lists k).Pairwise fun x y => key x < key y
  kept : ∀ k, ∀ x ∈ lists (k + 1),
    (∃ y ∈ lists k, key y = key x) ∨ ∀ y ∈ lists k, key y < key x

/-- Two lists in order: the one that has fewer keys below `i` has a smaller position for it. -/
theorem position_le {l l' : List α} {i : K} (hsorted : l.Pairwise fun x y => key x < key y)
    (hsub : ∀ x ∈ l, key x < i → ∃ y ∈ l', key y = key x) :
    position key i l ≤ position key i l' := by
  have hkeys : ∀ l : List α, position key i l = ((l.filter fun x => key x < i).map key).length := by
    intro l
    rw [position, List.countP_eq_length_filter, List.length_map]
  rw [hkeys, hkeys]
  refine (List.Nodup.subperm ?_ ?_).length_le
  · refine List.Pairwise.map _ (fun _ _ h => h) ?_
    exact (hsorted.sublist List.filter_sublist).imp ne_of_lt
  · intro j hj
    obtain ⟨x, hx, rfl⟩ := List.mem_map.1 hj
    obtain ⟨hmem, hlt⟩ := List.mem_filter.1 hx
    obtain ⟨y, hy, hkey⟩ := hsub x hmem (of_decide_eq_true hlt)
    refine List.mem_map.2 ⟨y, List.mem_filter.2 ⟨hy, ?_⟩, hkey⟩
    rw [hkey]
    exact hlt

section Drifting

variable {lists : ℕ → List α} {i : K} {m : ℕ}

/-- An item that stays only moves forward. -/
theorem Drifts.position_succ_le (hdrifts : Drifts key lists) {k : ℕ}
    (hi : ∃ x ∈ lists k, key x = i) :
    position key i (lists (k + 1)) ≤ position key i (lists k) := by
  refine position_le (hdrifts.sorted (k + 1)) fun x hx hlt => ?_
  rcases hdrifts.kept k x hx with hkept | hnew
  · exact hkept
  · obtain ⟨y, hy, rfl⟩ := hi
    exact absurd (hnew y hy) (not_lt_of_gt hlt)

theorem Drifts.position_le (hdrifts : Drifts key lists)
    (hi : ∀ k ≤ m, ∃ x ∈ lists k, key x = i) {j k : ℕ} (hjk : j ≤ k) (hk : k ≤ m) :
    position key i (lists k) ≤ position key i (lists j) := by
  induction k, hjk using Nat.le_induction with
  | base => exact le_rfl
  | succ k hjk ih =>
      exact (hdrifts.position_succ_le (hi k (by omega))).trans (ih (by omega))

/-- An item crosses the offset of the page that is requested after the `k`-th. -/
def Crosses (key : α → K) (size : ℕ) (lists : ℕ → List α) (i : K) (k : ℕ) : Prop :=
  position key i (lists (k + 1)) < size * (k + 1) ∧ size * (k + 1) ≤ position key i (lists k)

/-- **Paging over a drifting list.** An item that stays until a short page has been read is read
    unless it crosses the offset of a page about to be requested. -/
theorem mem_pages_iff_of_drifts {size : ℕ} (hdrifts : Drifts key lists)
    (hi : ∀ k ≤ m, ∃ x ∈ lists k, key x = i) (hshort : (lists m).length < size * (m + 1)) :
    (∃ x ∈ pages size lists (m + 1), key x = i) ↔ ∀ k < m, ¬ Crosses key size lists i k := by
  have hpage : ∀ k ≤ m, (∃ x ∈ page size (size * k) (lists k), key x = i) ↔
      size * k ≤ position key i (lists k) ∧ position key i (lists k) < size * (k + 1) := by
    intro k hk
    rw [mem_page_iff (hdrifts.sorted k), Nat.mul_succ]
    exact ⟨fun h => h.2, fun h => ⟨hi k hk, h⟩⟩
  constructor
  · rintro ⟨x, hx, hkey⟩ k hk ⟨hbelow, habove⟩
    obtain ⟨j, hj, hxj⟩ := mem_pages.1 hx
    obtain ⟨hfrom, hto⟩ := (hpage j (by omega)).1 ⟨x, hxj, hkey⟩
    rcases Nat.lt_or_ge k j with hkj | hjk
    · -- read after the crossing: its position is too small by then
      have hle := hdrifts.position_le hi hkj (Nat.le_of_lt_succ hj)
      have hmul : size * (k + 1) ≤ size * j := Nat.mul_le_mul_left _ hkj
      exact absurd hbelow (not_lt.2 (hmul.trans (hfrom.trans hle)))
    · have hle := hdrifts.position_le hi hjk hk.le
      have hmul : size * (j + 1) ≤ size * (k + 1) := Nat.mul_le_mul_left _ (Nat.succ_le_succ hjk)
      exact absurd hto (not_lt.2 (hmul.trans (habove.trans hle)))
  · intro hcrosses
    have hlast : ∃ j, j ≤ m ∧ position key i (lists j) < size * (j + 1) :=
      ⟨m, le_rfl, (position_lt_length (hi m le_rfl)).trans hshort⟩
    classical
    -- the first page that ends behind the item
    have hj := Nat.find_spec hlast
    have hfirst := fun k => Nat.find_min (m := k) hlast
    generalize Nat.find hlast = j at hj hfirst
    obtain ⟨hjm, hto⟩ := hj
    have hfrom : size * j ≤ position key i (lists j) := by
      cases j with
      | zero => simp
      | succ k =>
          by_contra hbelow
          have habove := hfirst k (Nat.lt_succ_self k)
          push Not at habove
          exact hcrosses k hjm ⟨by omega, habove (by omega)⟩
    obtain ⟨x, hx, hkey⟩ := (hpage j hjm).2 ⟨hfrom, hto⟩
    exact ⟨x, mem_pages.2 ⟨j, Nat.lt_succ_of_le hjm, hx⟩, hkey⟩

end Drifting

end Paging

/-! ## Pages of pages -/

section Blocks

variable {α β : Type} {served items : α → List β}

theorem flatMap_sublist (h : ∀ a, (served a).Sublist (items a)) (l : List α) :
    (l.flatMap served).Sublist (l.flatMap items) := by
  induction l with
  | nil => exact .slnil
  | cons a l ih =>
      rw [List.flatMap_cons, List.flatMap_cons]
      exact (h a).append ih

/-- Parts that make up the whole are whole themselves. -/
theorem forall_eq_of_flatMap_eq (h : ∀ a, (served a).Sublist (items a)) {l : List α}
    (heq : l.flatMap items = l.flatMap served) : ∀ a ∈ l, served a = items a := by
  induction l with
  | nil => simp
  | cons a l ih =>
      rw [List.flatMap_cons, List.flatMap_cons] at heq
      have hlength := congrArg List.length heq
      rw [List.length_append, List.length_append] at hlength
      have hhead := (h a).length_le
      have htail := (flatMap_sublist h l).length_le
      obtain ⟨ha, hl⟩ := List.append_inj heq (by omega)
      intro b hb
      rcases List.mem_cons.1 hb with rfl | hb
      · exact ha.symm
      · exact ih hl b hb

/-- A client that gets the first blocks only, and of each a part, has everything exactly when the
    other blocks are empty and the parts are whole. -/
theorem subperm_served_iff (h : ∀ a, (served a).Sublist (items a)) (first rest : List α) :
    ((first ++ rest).flatMap items).Subperm (first.flatMap served) ↔
      (∀ a ∈ first, served a = items a) ∧ ∀ a ∈ rest, items a = [] := by
  have hfirst := flatMap_sublist h first
  rw [List.flatMap_append]
  constructor
  · intro hall
    have hlength := hall.length_le
    rw [List.length_append] at hlength
    have hserved := hfirst.length_le
    have hwhole : first.flatMap served = first.flatMap items := hfirst.eq_of_length_le (by omega)
    have hrest : rest.flatMap items = [] := List.length_eq_zero_iff.1 (by omega)
    exact ⟨forall_eq_of_flatMap_eq h hwhole.symm, List.flatMap_eq_nil_iff.1 hrest⟩
  · rintro ⟨hwhole, hempty⟩
    rw [List.flatMap_eq_nil_iff.2 hempty, List.append_nil, List.flatMap_congr hwhole]

end Blocks

end VulnOpsHub
