import VulnOpsHub.Lib.Python

set_option autoImplicit false

/-! # Splitting URLs

`urllib.parse.urlsplit`, for its scheme, its host and its path. Leading blanks and control characters
are dropped, tabs and line ends are removed everywhere, and the path ends before the first `?` or
`#`. -/

namespace VulnOpsHub

/-- The checks that `urlsplit` makes of hosts with brackets or with characters beyond ASCII; the text
    is that of its `ValueError`. -/
class UrlHost where
  refusal : List Char → Option String
  refusal_plain : ∀ host, IsAscii host → '[' ∉ host → ']' ∉ host → refusal host = none

namespace Url

structure Parts where
  scheme : List Char
  netloc : List Char
  path : List Char
deriving DecidableEq, Repr

/-- The characters that are removed everywhere. -/
def removed : List Char := ['\t', '\r', '\n']

/-- The characters that end a path, or are removed. -/
def special : List Char := ['?', '#'] ++ removed

def clean (url : List Char) : List Char :=
  (url.dropWhile fun c => c.toNat ≤ 32).filter fun c => c ∉ removed

def isSchemeChar (c : Char) : Bool := c.isAlphanum || c ∈ ['+', '-', '.']

/-- The scheme before the first colon, in lower case, and what follows it. -/
def splitScheme (url : List Char) : List Char × List Char :=
  let head := splitHead ':' url
  if ':' ∈ url ∧ head.head?.any Char.isAlpha ∧ head.all isSchemeChar then
    (lowerChars head, url.drop (head.length + 1))
  else ([], url)

/-- `_splitnetloc` behind two slashes. -/
def splitNetloc (url : List Char) : List Char × List Char :=
  if url.take 2 = ['/', '/'] then
    ((url.drop 2).takeWhile fun c => c ∉ ['/', '?', '#'],
      (url.drop 2).dropWhile fun c => c ∉ ['/', '?', '#'])
  else ([], url)

def split [UrlHost] (url : List Char) : Except PyError Parts :=
  let (scheme, rest) := splitScheme (clean url)
  let (netloc, rest) := splitNetloc rest
  match UrlHost.refusal netloc with
  | some text => .error (.valueError text)
  | none => .ok ⟨scheme, netloc, splitHead '?' (splitHead '#' rest)⟩

/-! ## What a split keeps -/

theorem mem_clean {url : List Char} {c : Char} (h : c ∈ clean url) : c ∉ removed := by
  simpa using (List.mem_filter.1 h).2

theorem mem_splitScheme {url : List Char} {c : Char} (h : c ∈ (splitScheme url).2) : c ∈ url := by
  unfold splitScheme at h
  dsimp only at h
  split at h
  · exact List.mem_of_mem_drop h
  · exact h

theorem mem_splitNetloc {url : List Char} {c : Char} (h : c ∈ (splitNetloc url).2) : c ∈ url := by
  unfold splitNetloc at h
  split at h
  · exact List.mem_of_mem_drop (List.dropWhile_subset _ h)
  · exact h

/-- The path has no special character. -/
theorem path_plain [UrlHost] {url : List Char} {parts : Parts} (h : split url = .ok parts) {c : Char}
    (hc : c ∈ parts.path) : c ∉ special := by
  unfold split at h
  simp only at h
  split at h
  · cases h
  · rw [← Except.ok.inj h] at hc
    have hquery : c ≠ '?' := by simpa using List.mem_takeWhile_imp hc
    have hc' := List.takeWhile_subset _ hc
    have hfragment : c ≠ '#' := by simpa using List.mem_takeWhile_imp hc'
    have hremoved := mem_clean (mem_splitScheme (mem_splitNetloc (List.takeWhile_subset _ hc')))
    simp [special, hquery, hfragment, hremoved]

theorem isAlpha_toNat {c : Char} (h : c.isAlpha = true) : 65 ≤ c.toNat := by
  have hrange : (decide ('A'.val ≤ c.val ∧ c.val ≤ 'Z'.val)
      || (decide ('a'.val ≤ c.val) && decide (c.val ≤ 'z'.val))) = true := h
  simp only [Bool.or_eq_true, Bool.and_eq_true, decide_eq_true_eq, UInt32.le_iff_toNat_le] at hrange
  have hupper : 'A'.val.toNat = 65 := rfl
  have hlower : 'a'.val.toNat = 97 := rfl
  show 65 ≤ c.val.toNat
  omega

/-- Characters of a scheme are none of the others. -/
theorem schemeChar_plain {c : Char} (h : isSchemeChar c = true) : c ≠ ':' ∧ c ∉ removed := by
  have hbound : ∀ d : Char, isSchemeChar d = false → c ≠ d := by
    rintro d hd rfl
    rw [h] at hd
    exact Bool.noConfusion hd
  refine ⟨hbound _ (by decide), ?_⟩
  simp only [removed, List.mem_cons, List.not_mem_nil, or_false, not_or]
  exact ⟨hbound _ (by decide), hbound _ (by decide), hbound _ (by decide)⟩

/-- **A URL of plain parts is split into them.** -/
theorem split_plain [UrlHost] {scheme netloc path : List Char}
    (halpha : scheme.head?.any Char.isAlpha = true) (hscheme : scheme.all isSchemeChar = true)
    (hhost : UrlHost.refusal netloc = none) (hnetloc : ∀ c ∈ netloc, c ∉ '/' :: special)
    (hpath : ∀ c ∈ path, c ∉ special) :
    split (scheme ++ ':' :: '/' :: '/' :: (netloc ++ '/' :: path))
      = .ok ⟨lowerChars scheme, netloc, '/' :: path⟩ := by
  have hschemeChars : ∀ c ∈ scheme, c ≠ ':' ∧ c ∉ removed :=
    fun c hc => schemeChar_plain (List.all_eq_true.1 hscheme c hc)
  have hclean : clean (scheme ++ ':' :: '/' :: '/' :: (netloc ++ '/' :: path))
      = scheme ++ ':' :: '/' :: '/' :: (netloc ++ '/' :: path) := by
    obtain ⟨first, rest, rfl⟩ : ∃ first rest, scheme = first :: rest := by
      cases scheme with
      | nil => simp at halpha
      | cons first rest => exact ⟨first, rest, rfl⟩
    have hfirst : ¬ first.toNat ≤ 32 := by
      have hbound := isAlpha_toNat (by simpa using halpha)
      omega
    unfold clean
    rw [List.cons_append, List.dropWhile_cons_of_neg (by simpa using hfirst), List.filter_eq_self]
    intro c hc
    have hplain : c ∉ removed := by
      rcases List.mem_append.1 (List.cons_append ▸ hc : c ∈ (first :: rest) ++ _) with hc | hc
      · exact (hschemeChars c hc).2
      · simp only [List.mem_cons, List.mem_append] at hc
        rcases hc with rfl | rfl | rfl | hc | rfl | hc
        · decide
        · decide
        · decide
        · intro hremoved
          exact hnetloc c hc (List.mem_cons_of_mem _ (List.mem_append_right _ hremoved))
        · decide
        · exact fun hremoved => hpath c hc (List.mem_append_right _ hremoved)
    simpa using hplain
  have hhead : splitHead ':' (scheme ++ ':' :: '/' :: '/' :: (netloc ++ '/' :: path)) = scheme := by
    rw [splitHead_append_cons, splitHead_self fun hmem => (hschemeChars ':' hmem).1 rfl]
  have hsplitScheme : splitScheme (scheme ++ ':' :: '/' :: '/' :: (netloc ++ '/' :: path))
      = (lowerChars scheme, '/' :: '/' :: (netloc ++ '/' :: path)) := by
    unfold splitScheme
    simp only [hhead]
    rw [if_pos ⟨by simp, halpha, hscheme⟩]
    simp
  have hsplitNetloc : splitNetloc ('/' :: '/' :: (netloc ++ '/' :: path))
      = (netloc, '/' :: path) := by
    have hstop : ∀ c ∈ netloc, decide (c ∉ ['/', '?', '#']) = true := by
      intro c hc
      refine decide_eq_true fun hmem => hnetloc c hc ?_
      simp only [List.mem_cons, List.not_mem_nil, or_false] at hmem
      rcases hmem with rfl | rfl | rfl <;> decide
    unfold splitNetloc
    simp only [List.take_succ_cons, List.take_zero, List.drop_succ_cons, List.drop_zero, if_true]
    rw [List.takeWhile_append_of_pos hstop, List.dropWhile_append_of_pos hstop]
    simp
  have hfree : ∀ c ∈ '/' :: path, c ≠ '#' ∧ c ≠ '?' := by
    intro c hc
    rcases List.mem_cons.1 hc with rfl | hc
    · decide
    · refine ⟨?_, ?_⟩
      · rintro rfl
        exact hpath _ hc (by decide)
      · rintro rfl
        exact hpath _ hc (by decide)
  unfold split
  rw [hclean, hsplitScheme]
  simp only [hsplitNetloc, hhost]
  rw [splitHead_self fun hmem => (hfree _ hmem).1 rfl,
    splitHead_self fun hmem => (hfree _ hmem).2 rfl]

end Url

end VulnOpsHub
