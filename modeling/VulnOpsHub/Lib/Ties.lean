import VulnOpsHub.Lib.Paging
import Mathlib.Data.List.Sort

set_option autoImplicit false

/-! # Paging through rows that tie

Every page comes from a query of its own, which returns the rows in order of a key. Rows with the same
key may change places from one query to the next. The pages partition the rows exactly when no group
of ties lies on both sides of an offset that a page starts at. -/

namespace VulnOpsHub

section Ties

variable {α K : Type}

/-! ## Pages -/

theorem pages_congr {size n : ℕ} {lists lists' : ℕ → List α} (h : ∀ k < n, lists k = lists' k) :
    pages size lists n = pages size lists' n := by
  induction n with
  | zero => rfl
  | succ n ih => rw [pages, pages, ih fun k hk => h k (by omega), h n (Nat.lt_succ_self n)]

/-- Later pages come behind. -/
theorem pages_prefix_of_le (size : ℕ) (lists : ℕ → List α) {m n : ℕ} (h : m ≤ n) :
    pages size lists m <+: pages size lists n := by
  induction n, h using Nat.le_induction with
  | base => exact List.prefix_rfl
  | succ n _ ih => exact ih.trans (List.prefix_append _ _)

/-! ## Ties -/

variable [LinearOrder K] {key : α → K} {rows sorted : List α} {i : K} {m n : ℕ}

/-- What a query may return: the rows, in order of their keys. -/
structure OrderedBy (key : α → K) (rows sorted : List α) : Prop where
  perm : sorted.Perm rows
  ordered : sorted.Pairwise fun x y => key x ≤ key y

/-- How many items do not come after a key. -/
def upTo (key : α → K) (i : K) (l : List α) : ℕ := l.countP fun x => key x ≤ i

/-- Some rows with the same key are among the first `n`, and some are not. -/
def Split (key : α → K) (rows : List α) (n : ℕ) : Prop :=
  ∃ x ∈ rows, position key (key x) rows < n ∧ n < upTo key (key x) rows

instance (rows : List α) (n : ℕ) : Decidable (Split key rows n) :=
  inferInstanceAs (Decidable (∃ x ∈ rows, _))

theorem OrderedBy.position_eq (h : OrderedBy key rows sorted) (i : K) :
    position key i sorted = position key i rows := h.perm.countP_eq _

theorem OrderedBy.upTo_eq (h : OrderedBy key rows sorted) (i : K) :
    upTo key i sorted = upTo key i rows := h.perm.countP_eq _

/-- A list that is in order up to its ties, cut at an item. -/
theorem ordered_at (h : sorted.Pairwise fun x y => key x ≤ key y) (hm : m < sorted.length) :
    (∀ x ∈ sorted.take (m + 1), key x ≤ key sorted[m]) ∧
      ∀ x ∈ sorted.drop m, key sorted[m] ≤ key x := by
  have hcut := List.pairwise_append.1 (List.take_append_drop m sorted ▸ h)
  rw [List.drop_eq_getElem_cons hm] at hcut
  obtain ⟨-, hrest, hbefore⟩ := hcut
  rw [List.take_add_one, List.getElem?_eq_getElem hm, List.drop_eq_getElem_cons hm]
  constructor
  · intro x hx
    rcases List.mem_append.1 hx with hx | hx
    · exact hbefore x hx _ List.mem_cons_self
    · rw [List.mem_singleton.1 hx]
  · intro x hx
    rcases List.mem_cons.1 hx with rfl | hx
    · exact le_rfl
    · exact (List.pairwise_cons.1 hrest).1 x hx

/-- The items before a key, counted where they stand. -/
theorem position_le_of_drop (h : ∀ x ∈ sorted.drop m, i ≤ key x) : position key i sorted ≤ m := by
  have hnone : (sorted.drop m).countP (fun x => key x < i) = 0 := by
    simpa [List.countP_eq_zero] using h
  calc position key i sorted
      = ((sorted.take m) ++ sorted.drop m).countP (fun x => key x < i) := by
        rw [List.take_append_drop, position]
    _ = (sorted.take m).countP fun x => key x < i := by rw [List.countP_append, hnone, Nat.add_zero]
    _ ≤ m := List.countP_le_length.trans (List.length_take_le m sorted)

/-- The items up to a key, counted where they stand. -/
theorem le_upTo_of_take (hm : m ≤ sorted.length) (h : ∀ x ∈ sorted.take m, key x ≤ i) :
    m ≤ upTo key i sorted := by
  have hall : (sorted.take m).countP (fun x => key x ≤ i) = (sorted.take m).length :=
    List.countP_eq_length.2 fun x hx => by simpa using h x hx
  calc m = (sorted.take m).length := by rw [List.length_take, Nat.min_eq_left hm]
    _ = (sorted.take m).countP fun x => key x ≤ i := hall.symm
    _ ≤ upTo key i sorted := (List.take_sublist m sorted).countP_le

theorem position_le_index (h : sorted.Pairwise fun x y => key x ≤ key y) (hm : m < sorted.length) :
    position key (key sorted[m]) sorted ≤ m := position_le_of_drop (ordered_at h hm).2

theorem index_lt_upTo (h : sorted.Pairwise fun x y => key x ≤ key y) (hm : m < sorted.length) :
    m < upTo key (key sorted[m]) sorted := le_upTo_of_take hm (ordered_at h hm).1

/-- Between its position and the items after it stand the items with the key. -/
theorem key_eq_of_between (h : sorted.Pairwise fun x y => key x ≤ key y) (hm : m < sorted.length)
    (hfrom : position key i sorted ≤ m) (hto : m < upTo key i sorted) : key sorted[m] = i := by
  rcases lt_trichotomy (key sorted[m]) i with hlt | heq | hgt
  · -- everything up to the item comes before the key
    have hall : ∀ x ∈ sorted.take (m + 1), key x < i := fun x hx =>
      lt_of_le_of_lt ((ordered_at h hm).1 x hx) hlt
    have hcount : (sorted.take (m + 1)).countP (fun x => key x < i) = m + 1 := by
      rw [List.countP_eq_length.2 fun x hx => by simpa using hall x hx, List.length_take]
      omega
    have hle : m + 1 ≤ position key i sorted := by
      rw [← hcount]
      exact (List.take_sublist _ _).countP_le
    omega
  · exact heq
  · have hnone : (sorted.drop m).countP (fun x => key x ≤ i) = 0 := by
      rw [List.countP_eq_zero]
      intro x hx
      simpa using lt_of_lt_of_le hgt ((ordered_at h hm).2 x hx)
    have hle : upTo key i sorted ≤ m := by
      calc upTo key i sorted
          = ((sorted.take m) ++ sorted.drop m).countP (fun x => key x ≤ i) := by
            rw [List.take_append_drop, upTo]
        _ = (sorted.take m).countP fun x => key x ≤ i := by
            rw [List.countP_append, hnone, Nat.add_zero]
        _ ≤ m := List.countP_le_length.trans (List.length_take_le m sorted)
    omega

/-! ## Pages of answers -/

/-- Where no ties are split, the first rows are the same in every answer. -/
theorem OrderedBy.mem_take (h : OrderedBy key rows sorted) (hsplit : ¬ Split key rows n) {x : α} :
    x ∈ sorted.take n ↔ x ∈ rows ∧ upTo key (key x) rows ≤ n := by
  constructor
  · intro hx
    obtain ⟨m, hm, rfl⟩ := List.getElem_of_mem hx
    rw [List.length_take, Nat.lt_min] at hm
    rw [List.getElem_take]
    have hmem : sorted[m] ∈ rows := h.perm.mem_iff.1 (List.getElem_mem _)
    have hfrom := position_le_index h.ordered hm.2
    rw [h.position_eq] at hfrom
    refine ⟨hmem, ?_⟩
    by_contra hto
    exact hsplit ⟨_, hmem, by omega, by omega⟩
  · rintro ⟨hmem, hto⟩
    obtain ⟨m, hm, rfl⟩ := List.getElem_of_mem (h.perm.mem_iff.2 hmem)
    have hindex := index_lt_upTo h.ordered hm
    rw [h.upTo_eq] at hindex
    exact List.mem_take_iff_getElem.2 ⟨m, by omega, rfl⟩

theorem OrderedBy.take_perm (h : OrderedBy key rows sorted) (hnodup : rows.Nodup)
    (hsplit : ¬ Split key rows n) :
    (sorted.take n).Perm (rows.filter fun x => upTo key (key x) rows ≤ n) := by
  have hsorted : sorted.Nodup := h.perm.nodup_iff.2 hnodup
  refine (List.perm_ext_iff_of_nodup (hsorted.sublist (List.take_sublist _ _))
    (hnodup.filter _)).2 fun x => ?_
  rw [h.mem_take hsplit, List.mem_filter, decide_eq_true_iff]

/-- The first pages hold the first rows, whatever the answers they come from. -/
theorem pages_perm {size : ℕ} (hnodup : rows.Nodup) (hsplit : ∀ k, ¬ Split key rows (size * k))
    {answers : ℕ → List α} (h : ∀ k, OrderedBy key rows (answers k)) (n : ℕ) :
    (pages size answers n).Perm (rows.filter fun x => upTo key (key x) rows ≤ size * n) := by
  induction n with
  | zero => simpa [pages] using (h 0).take_perm hnodup (hsplit 0)
  | succ n ih =>
      have hbefore := (h n).take_perm hnodup (hsplit n)
      have hafter := (h n).take_perm hnodup (hsplit (n + 1))
      rw [Nat.mul_succ, List.take_add] at hafter
      exact ((ih.trans hbefore.symm).append_right _).trans hafter

/-- Two neighbours that tie may stand the other way round. -/
theorem OrderedBy.swap {front back : List α} {y z : α} (htie : key y = key z)
    (h : OrderedBy key rows (front ++ y :: z :: back)) :
    OrderedBy key rows (front ++ z :: y :: back) := by
  refine ⟨(List.Perm.append_left front (List.Perm.swap y z back)).trans h.perm, ?_⟩
  obtain ⟨hfront, hback, hcross⟩ := List.pairwise_append.1 h.ordered
  obtain ⟨hy, hz, hrest⟩ : (∀ x ∈ z :: back, key y ≤ key x) ∧ (∀ x ∈ back, key z ≤ key x) ∧
      back.Pairwise fun x y => key x ≤ key y := by
    simpa [List.pairwise_cons] using hback
  refine List.pairwise_append.2 ⟨hfront, ?_, ?_⟩
  · refine List.pairwise_cons.2 ⟨fun x hx => ?_, List.pairwise_cons.2
      ⟨fun x hx => hy x (List.mem_cons_of_mem _ hx), hrest⟩⟩
    rcases List.mem_cons.1 hx with rfl | hx
    · exact htie.ge
    · exact hz x hx
  · intro x hx w hw
    refine hcross x hx w ?_
    simp only [List.mem_cons] at hw ⊢
    tauto

/-- Ties on both sides of an offset, in some answer: the neighbours at the offset tie. -/
theorem Split.neighbours (h : OrderedBy key rows sorted) (hsplit : Split key rows n) :
    ∃ front y z back, sorted = front ++ y :: z :: back ∧ front.length + 1 = n ∧ key y = key z := by
  obtain ⟨x, -, hfrom, hto⟩ := hsplit
  rw [← h.position_eq] at hfrom
  rw [← h.upTo_eq] at hto
  have hlength : upTo key (key x) sorted ≤ sorted.length := List.countP_le_length
  obtain ⟨m, rfl⟩ : ∃ m, n = m + 1 := ⟨n - 1, by omega⟩
  refine ⟨sorted.take m, sorted[m], sorted[m + 1], sorted.drop (m + 2), ?_, ?_, ?_⟩
  · rw [← List.drop_eq_getElem_cons, ← List.drop_eq_getElem_cons, List.take_append_drop]
  · rw [List.length_take]
    omega
  · rw [key_eq_of_between h.ordered (i := key x) (by omega) (by omega) (by omega),
      key_eq_of_between h.ordered (i := key x) (by omega) (by omega) (by omega)]

theorem orderedBy_insertionSort (key : α → K) (rows : List α) :
    OrderedBy key rows (rows.insertionSort fun x y => key x ≤ key y) :=
  ⟨List.perm_insertionSort _ _, List.pairwise_insertionSort _ _⟩

/-- Rows with different keys are never split. -/
theorem not_split_of_injective (hnodup : rows.Nodup)
    (hkey : ∀ x ∈ rows, ∀ y ∈ rows, key x = key y → x = y) (n : ℕ) : ¬ Split key rows n := by
  intro hsplit
  have hsorted := orderedBy_insertionSort key rows
  obtain ⟨front, y, z, back, heq, -, htie⟩ := hsplit.neighbours hsorted
  rw [heq] at hsorted
  have hmem : ∀ x ∈ front ++ y :: z :: back, x ∈ rows := fun x => hsorted.perm.mem_iff.1
  obtain rfl := hkey y (hmem y (by simp)) z (hmem z (by simp)) htie
  have hback := (List.nodup_append.1 (hsorted.perm.nodup_iff.2 hnodup)).2.1
  exact (List.nodup_cons.1 hback).1 List.mem_cons_self

/-- **Paging with ties.** All pages together are the rows, each once, whatever order the ties have in
    the answers, exactly when no page starts between rows that tie. -/
theorem pages_perm_iff {size : ℕ} (hnodup : rows.Nodup) (hsize : 0 < size) :
    (∀ answers : ℕ → List α, (∀ k, OrderedBy key rows (answers k)) →
        ∀ n, rows.length ≤ size * n → (pages size answers n).Perm rows) ↔
      ∀ k, ¬ Split key rows (size * k) := by
  constructor
  · intro hperm k hsplit
    have hsorted := orderedBy_insertionSort key rows
    obtain ⟨front, y, z, back, heq, hlength, htie⟩ := hsplit.neighbours hsorted
    rw [heq] at hsorted
    -- the query for the page that starts at the offset returns the neighbours the other way round
    have hpages := hperm (fun j => if j < k then front ++ y :: z :: back else front ++ z :: y :: back)
      (fun j => by
        split_ifs
        · exact hsorted
        · exact hsorted.swap htie) (max (k + 1) rows.length)
      ((Nat.le_max_right _ _).trans (Nat.le_mul_of_pos_left _ hsize))
    have hnodup' := (hpages.nodup_iff.2 hnodup).sublist
      (pages_prefix_of_le size _ (Nat.le_max_left (k + 1) rows.length)).sublist
    rw [pages, pages_congr fun j hj => if_pos hj, pages_const, if_neg (lt_irrefl k)] at hnodup'
    refine List.disjoint_of_nodup_append hnodup' (a := y) ?_ ?_
    · rw [← hlength, List.take_length_add_append]
      simp
    · obtain ⟨size', rfl⟩ : ∃ s, size = s + 1 := ⟨size - 1, by omega⟩
      rw [page, ← hlength]
      simp
  · intro hsplit answers h n hn
    refine (pages_perm hnodup hsplit h n).trans ?_
    have hall : ∀ x ∈ rows, upTo key (key x) rows ≤ size * n := fun x _ =>
      List.countP_le_length.trans hn
    rw [List.filter_eq_self.2 fun x hx => decide_eq_true (hall x hx)]

/-- The pages one after the other. -/
theorem pages_eq_flatMap (size : ℕ) (lists : ℕ → List α) (n : ℕ) :
    pages size lists n = (List.range n).flatMap fun k => page size (size * k) (lists k) := by
  induction n with
  | zero => rfl
  | succ n ih => simp [pages, ih, List.range_succ]

end Ties

/-! ## Columns -/

/-- How a database orders the values of a column: values tie only when they are the same. -/
structure ColumnOrder (α : Type) where
  Weight : Type
  [linearOrder : LinearOrder Weight]
  weight : α → Weight
  injective : Function.Injective weight

attribute [instance] ColumnOrder.linearOrder

end VulnOpsHub
