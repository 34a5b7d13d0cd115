import Mathlib.Data.List.DropRight
import Mathlib.Data.List.Infix

set_option autoImplicit false

/-! # Words between spaces

Trimming a text and splitting it into words, for any notion of a space. Two notions that agree on the
characters of a text trim and split it alike. -/

namespace VulnOpsHub

/-- The text without the spaces around it. -/
def trimBy (space : Char → Bool) (s : String) : String :=
  String.ofList ((s.toList.dropWhile space).rdropWhile space)

/-- The words of a text. -/
def wordsBy (space : Char → Bool) (s : String) : List String :=
  ((s.toList.splitOnP space).filter (· ≠ [])).map String.ofList

/-- `needle in text`. -/
def containsText (text needle : String) : Bool := decide (needle.toList <:+: text.toList)

variable {space space' : Char → Bool} {s w : String}

/-! ## Trimming -/

/-- A text without spaces around it stays as it is. -/
theorem trimBy_eq_self (hhead : ∀ c ∈ s.toList.head?, space c = false)
    (hlast : ∀ c ∈ s.toList.getLast?, space c = false) : trimBy space s = s := by
  have hleft : s.toList.dropWhile space = s.toList := by
    cases hs : s.toList with
    | nil => rfl
    | cons c rest =>
        have hc : space c = false := hhead c (by simp [hs])
        simp [hc]
  have hright : s.toList.rdropWhile space = s.toList := by
    refine List.rdropWhile_eq_self_iff.2 fun hne => ?_
    simp [hlast _ (List.getLast?_eq_getLast_of_ne_nil hne)]
  rw [trimBy, hleft, hright, String.ofList_toList]

theorem trimBy_trimBy : trimBy space (trimBy space s) = trimBy space s := by
  refine trimBy_eq_self ?_ ?_
  · intro c hc
    rw [trimBy, String.toList_ofList] at hc
    -- what remains begins as the text does after its first spaces
    obtain ⟨rest, hrest⟩ := List.rdropWhile_prefix space (s.toList.dropWhile space)
    cases hkept : (s.toList.dropWhile space).rdropWhile space with
    | nil =>
        rw [hkept] at hc
        cases hc
    | cons d kept =>
        rw [hkept] at hc hrest
        obtain rfl : d = c := by simpa using hc
        have hne : s.toList.dropWhile space ≠ [] := by
          rw [← hrest]
          simp
        have hhead : space ((s.toList.dropWhile space).head hne) = false :=
          List.head_dropWhile_not space hne
        simpa only [← hrest, List.cons_append, List.head_cons] using hhead
  · intro c hc
    rw [trimBy, String.toList_ofList] at hc
    have hne : (s.toList.dropWhile space).rdropWhile space ≠ [] := by
      intro hnil
      rw [hnil] at hc
      cases hc
    have hlast := List.rdropWhile_last_not space (s.toList.dropWhile space) hne
    rw [List.getLast?_eq_getLast_of_ne_nil hne] at hc
    obtain rfl := Option.some.inj hc
    simpa using hlast

theorem dropWhile_congr {l : List Char} (h : ∀ c ∈ l, space c = space' c) :
    l.dropWhile space = l.dropWhile space' := by
  induction l with
  | nil => rfl
  | cons c rest ih =>
      rw [List.dropWhile_cons, List.dropWhile_cons, h c List.mem_cons_self,
        ih fun d hd => h d (List.mem_cons_of_mem _ hd)]

theorem trimBy_congr (h : ∀ c ∈ s.toList, space c = space' c) :
    trimBy space s = trimBy space' s := by
  have hdrop := dropWhile_congr h
  rw [trimBy, trimBy, hdrop, List.rdropWhile, List.rdropWhile, dropWhile_congr]
  intro c hc
  exact h c ((List.dropWhile_sublist space').subset (List.mem_reverse.1 hc))

/-! ## Words -/

theorem not_space_of_mem_splitOnP {l part : List Char} (h : part ∈ l.splitOnP space) :
    ∀ c ∈ part, space c = false := by
  induction l generalizing part with
  | nil =>
      have hpart : part = [] := by simpa using h
      simp [hpart]
  | cons d rest ih =>
      rw [List.splitOnP_cons_eq_if_modifyHead] at h
      obtain ⟨first, others, hsplit⟩ := List.exists_cons_of_ne_nil (List.splitOnP_ne_nil space rest)
      rw [hsplit] at h ih
      by_cases hd : space d = true
      · rw [if_pos hd, List.mem_cons] at h
        rcases h with rfl | h
        · simp
        · exact ih h
      · rw [if_neg hd, List.modifyHead_cons, List.mem_cons] at h
        rcases h with rfl | h
        · intro c hc
          rcases List.mem_cons.1 hc with rfl | hc
          · simpa using hd
          · exact ih List.mem_cons_self c hc
        · exact ih (List.mem_cons_of_mem _ h)

theorem not_space_of_mem_wordsBy (h : w ∈ wordsBy space s) : ∀ c ∈ w.toList, space c = false := by
  obtain ⟨part, hpart, rfl⟩ := List.mem_map.1 h
  rw [String.toList_ofList]
  exact not_space_of_mem_splitOnP (List.mem_of_mem_filter hpart)

/-- A word has nothing to trim. -/
theorem trimBy_of_mem_wordsBy (h : w ∈ wordsBy space s) : trimBy space w = w := by
  have hnot := not_space_of_mem_wordsBy h
  refine trimBy_eq_self (fun c hc => hnot c ?_) (fun c hc => hnot c ?_)
  · exact List.mem_of_mem_head? hc
  · exact List.mem_of_getLast? hc

theorem splitOnP_congr {l : List Char} (h : ∀ c ∈ l, space c = space' c) :
    l.splitOnP space = l.splitOnP space' := by
  induction l with
  | nil => rfl
  | cons c rest ih =>
      rw [List.splitOnP_cons_eq_if_modifyHead, List.splitOnP_cons_eq_if_modifyHead,
        h c List.mem_cons_self, ih fun d hd => h d (List.mem_cons_of_mem _ hd)]

theorem wordsBy_congr (h : ∀ c ∈ s.toList, space c = space' c) :
    wordsBy space s = wordsBy space' s := by
  rw [wordsBy, wordsBy, splitOnP_congr h]

/-! ## Containing a word -/

theorem prefix_separated {sep : Char} {s t w : List Char} (h : sep ∉ w) :
    w <+: s ++ sep :: t ↔ w <+: s := by
  induction s generalizing w with
  | nil =>
      cases w with
      | nil => simp
      | cons c rest =>
          have hc : c ≠ sep := fun he => h (he ▸ List.mem_cons_self)
          simp [List.cons_prefix_cons, hc]
  | cons d s ih =>
      cases w with
      | nil => simp
      | cons c rest =>
          have hrest : sep ∉ rest := fun hmem => h (List.mem_cons_of_mem _ hmem)
          rw [List.cons_append, List.cons_prefix_cons, List.cons_prefix_cons, ih hrest]

/-- What does not contain the separator stands on one side of it. -/
theorem infix_separated {sep : Char} {s t w : List Char} (h : sep ∉ w) :
    w <:+: s ++ sep :: t ↔ w <:+: s ∨ w <:+: t := by
  induction s with
  | nil =>
      have hprefix : w <+: [] ++ sep :: t ↔ w <+: [] := prefix_separated h
      rw [List.nil_append] at hprefix ⊢
      rw [List.infix_cons_iff, hprefix, List.prefix_nil, List.infix_nil]
  | cons d s ih =>
      rw [List.cons_append, List.infix_cons_iff, List.infix_cons_iff, ih, ← List.cons_append,
        prefix_separated h, or_assoc]

theorem containsText_separated {s t w : String} (h : ' ' ∉ w.toList) :
    containsText (s ++ " " ++ t) w = (containsText s w || containsText t w) := by
  unfold containsText
  have htext : (s ++ " " ++ t).toList = s.toList ++ ' ' :: t.toList := by simp
  rw [htext, ← Bool.decide_or]
  exact decide_eq_decide.2 (infix_separated h)

end VulnOpsHub
