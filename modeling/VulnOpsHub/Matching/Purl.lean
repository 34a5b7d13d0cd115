import VulnOpsHub.Matching.Service

set_option autoImplicit false

/-! # Package URLs and package identity

The shape of a package URL, and what the matcher's chain of splits makes of it. `text` writes a purl
out; `stripPurlIdentity` recovers its type, namespace and name, in lower case, unless one of them
has a literal `@` in it. -/

namespace VulnOpsHub

/-! ## Package URLs -/

/-- A part of a path: ASCII text (anything else is percent-encoded) without path or query
    separators. -/
structure PurlPart (s : List Char) : Prop where
  nonempty : s ≠ []
  ascii : IsAscii s
  no_slash : '/' ∉ s
  no_query : '?' ∉ s
  no_fragment : '#' ∉ s

/-- A well-formed package URL. -/
structure Purl where
  type : List Char
  namespaces : List (List Char)
  name : List Char
  version : Option (List Char)
  qualifiers : Option (List Char)
  subpath : Option (List Char)
  type_part : PurlPart type
  namespace_part : ∀ s ∈ namespaces, PurlPart s
  name_part : PurlPart name
  version_plain : ∀ v ∈ version, '?' ∉ v ∧ '#' ∉ v
  qualifiers_plain : ∀ q ∈ qualifiers, '#' ∉ q

namespace Purl

/-- Type, namespace and name. -/
def parts (p : Purl) : List (List Char) := p.type :: (p.namespaces ++ [p.name])

/-- The purl up to its name. -/
def path (p : Purl) : List Char := "pkg:".toList ++ ['/'].intercalate p.parts

/-- An optional component, after its separator. -/
def suffix (sep : Char) (s : Option (List Char)) : List Char := (s.map (sep :: ·)).getD []

def text (p : Purl) : String :=
  String.ofList
    (p.path ++ suffix '@' p.version ++ suffix '?' p.qualifiers ++ suffix '#' p.subpath)

/-- The two purls have the same type, namespace and name, up to case. -/
def SameIdentity (p q : Purl) : Prop :=
  lowerChars p.type = lowerChars q.type ∧
    p.namespaces.map lowerChars = q.namespaces.map lowerChars ∧
    lowerChars p.name = lowerChars q.name

/-- Neither namespace nor name has a literal `@` in it. -/
def AtFree (p : Purl) : Prop := ∀ s ∈ p.parts, '@' ∉ s

theorem sameIdentity_iff {p q : Purl} :
    p.SameIdentity q ↔ p.parts.map lowerChars = q.parts.map lowerChars := by
  unfold SameIdentity parts
  simp only [List.map_cons, List.map_append, List.map_nil, List.cons.injEq]
  refine and_congr_right fun _ => ⟨?_, fun h => ?_⟩
  · rintro ⟨hns, hname⟩
    rw [hns, hname]
  · obtain ⟨hns, hname⟩ := List.append_inj' h rfl
    exact ⟨hns, (List.cons.inj hname).1⟩

theorem part_of_mem {p : Purl} {s : List Char} (h : s ∈ p.parts) : PurlPart s := by
  unfold parts at h
  simp only [List.mem_cons, List.mem_append, List.not_mem_nil, or_false] at h
  rcases h with rfl | h | rfl
  · exact p.type_part
  · exact p.namespace_part s h
  · exact p.name_part

/-- What is in the path is in a part, or a separator of the path. -/
theorem mem_path {p : Purl} {c : Char} (h : c ∈ p.path) :
    c ∈ "pkg:".toList ∨ c = '/' ∨ ∃ s ∈ p.parts, c ∈ s := by
  unfold path at h
  rcases List.mem_append.1 h with h | h
  · exact Or.inl h
  · exact Or.inr (mem_intercalate h)

theorem no_query_path (p : Purl) : '?' ∉ p.path := by
  intro h
  rcases mem_path h with h | h | ⟨s, hs, hc⟩
  · revert h; decide
  · cases h
  · exact (part_of_mem hs).no_query hc

theorem no_fragment_path (p : Purl) : '#' ∉ p.path := by
  intro h
  rcases mem_path h with h | h | ⟨s, hs, hc⟩
  · revert h; decide
  · cases h
  · exact (part_of_mem hs).no_fragment hc

theorem ascii_path (p : Purl) : IsAscii p.path := by
  intro c h
  have hscheme : IsAscii "pkg:".toList := by decide
  rcases mem_path h with h | rfl | ⟨s, hs, hc⟩
  · exact hscheme c h
  · decide
  · exact (part_of_mem hs).ascii c hc

theorem AtFree.not_mem_path {p : Purl} (h : p.AtFree) : '@' ∉ p.path := by
  intro hmem
  rcases mem_path hmem with hmem | hmem | ⟨s, hs, hc⟩
  · revert hmem; decide
  · cases hmem
  · exact h s hs hc

theorem text_ne_empty (p : Purl) : p.text ≠ "" := by
  intro h
  have hlist := congrArg String.toList h
  rw [text, String.toList_ofList] at hlist
  simp [path] at hlist

/-- What follows the path up to the first `?` and `#` is the version. -/
theorem splitHead_text (p : Purl) :
    splitHead '#' (splitHead '?' p.text.toList) = p.path ++ suffix '@' p.version := by
  have hquery : '?' ∉ p.path ++ suffix '@' p.version := by
    rw [List.mem_append]
    rintro (h | h)
    · exact p.no_query_path h
    · cases hv : p.version with
      | none => rw [hv] at h; cases h
      | some v =>
          rw [hv] at h
          exact (p.version_plain v hv).1 ((List.mem_cons.1 h).resolve_left (by decide))
  have hfragment : '#' ∉ p.path ++ suffix '@' p.version := by
    rw [List.mem_append]
    rintro (h | h)
    · exact p.no_fragment_path h
    · cases hv : p.version with
      | none => rw [hv] at h; cases h
      | some v =>
          rw [hv] at h
          exact (p.version_plain v hv).2 ((List.mem_cons.1 h).resolve_left (by decide))
  rw [text, String.toList_ofList]
  cases p.qualifiers with
  | some q =>
      show splitHead '#' (splitHead '?'
        (p.path ++ suffix '@' p.version ++ ('?' :: q) ++ suffix '#' p.subpath)) = _
      rw [List.append_assoc _ ('?' :: q), List.cons_append, splitHead_append_cons,
        splitHead_self hquery, splitHead_self hfragment]
  | none =>
      rw [show suffix '?' none = [] from rfl, List.append_nil]
      cases p.subpath with
      | none =>
          rw [show suffix '#' none = [] from rfl, List.append_nil, splitHead_self hquery,
            splitHead_self hfragment]
      | some s =>
          show splitHead '#' (splitHead '?' (p.path ++ suffix '@' p.version ++ '#' :: s)) = _
          rw [splitHead_append hquery,
            show splitHead '?' ('#' :: s) = '#' :: splitHead '?' s from rfl,
            splitHead_append_cons, splitHead_self hfragment]

theorem lowerChars_path (p : Purl) :
    lowerChars p.path = "pkg:".toList ++ ['/'].intercalate (p.parts.map lowerChars) := by
  rw [path, ← lowerChars_intercalate (by decide)]
  unfold lowerChars
  rw [List.map_append]
  rfl

/-- Equal identities up to case have equal paths up to case, and conversely. -/
theorem sameIdentity_iff_path {p q : Purl} :
    p.SameIdentity q ↔ lowerChars p.path = lowerChars q.path := by
  have hplain : ∀ r : Purl, ∀ s ∈ r.parts.map lowerChars, '/' ∉ s := by
    intro r s hs
    obtain ⟨t, ht, rfl⟩ := List.mem_map.1 hs
    rw [mem_lowerChars (by decide)]
    exact (part_of_mem ht).no_slash
  rw [sameIdentity_iff, lowerChars_path, lowerChars_path, List.append_cancel_left_eq]
  constructor
  · intro h
    rw [h]
  · intro h
    exact intercalate_inj (hplain p) (hplain q) (by simp [parts]) (by simp [parts]) h

variable [Python]

/-- The matcher's identity of a purl: its path in lower case, up to the first `@`. -/
theorem stripPurlIdentity_text (p : Purl) : stripPurlIdentity (some p.text)
    = some (String.ofList ((splitHead '@' (lowerChars p.path)).rdropWhile (· = '/'))) := by
  have htext : nonEmpty (some p.text) = some p.text := nonEmpty_eq_some.2 ⟨rfl, p.text_ne_empty⟩
  have hversion : splitHead '@' (p.path ++ suffix '@' p.version) = splitHead '@' p.path := by
    cases p.version with
    | none => rw [show suffix '@' none = [] from rfl, List.append_nil]
    | some v => exact splitHead_append_cons '@' p.path v
  have hascii : IsAscii (splitHead '@' p.path) := fun c hc =>
    p.ascii_path c (List.takeWhile_subset _ hc)
  unfold stripPurlIdentity
  rw [htext, Option.map_some]
  dsimp only
  rw [p.splitHead_text, hversion, lower_ofList hascii, lowerChars_splitHead (by decide)]

/-- A purl's identity is never empty. -/
theorem exists_identity (p : Purl) : ∃ id, nonEmpty (stripPurlIdentity (some p.text)) = some id ∧
    id = String.ofList ((splitHead '@' (lowerChars p.path)).rdropWhile (· = '/')) := by
  refine ⟨_, ?_, rfl⟩
  rw [stripPurlIdentity_text]
  refine nonEmpty_eq_some.2 ⟨rfl, fun hempty => ?_⟩
  have hlist := congrArg String.toList hempty
  rw [String.toList_ofList] at hlist
  have hslash := List.rdropWhile_eq_nil_iff.1 hlist
  have hmem : 'p' ∈ splitHead '@' (lowerChars p.path) := by
    rw [lowerChars_path]
    exact List.mem_cons_self
  simpa using hslash 'p' hmem

omit [Python] in
/-- Without a literal `@` the identity is the path. -/
theorem AtFree.identity {p : Purl} (h : p.AtFree) :
    (splitHead '@' (lowerChars p.path)).rdropWhile (· = '/') = lowerChars p.path := by
  rw [splitHead_self (by rw [mem_lowerChars (by decide)]; exact h.not_mem_path)]
  -- the path ends with the name, which has no slash
  obtain ⟨front, hfront⟩ := intercalate_concat '/' (p.type :: p.namespaces) p.name
  have hpath : lowerChars p.path = lowerChars ("pkg:".toList ++ front) ++ lowerChars p.name := by
    unfold path parts lowerChars
    rw [← List.cons_append, hfront, ← List.map_append, List.append_assoc]
  have hname : lowerChars p.name ≠ [] := by
    unfold lowerChars
    rw [Ne, List.map_eq_nil_iff]
    exact p.name_part.nonempty
  rw [List.rdropWhile_eq_self_iff]
  intro hne hslash
  have hlast : (lowerChars p.path).getLast hne ∈ lowerChars p.name := by
    simp only [hpath, List.getLast_append_of_ne_nil _ hname]
    exact List.getLast_mem hname
  rw [of_decide_eq_true hslash, mem_lowerChars (by decide)] at hlast
  exact p.name_part.no_slash hlast

end Purl

/-! ## Package identity -/

section Identity

variable [Python] {c : ParsedComponent} {pkg : OsvPackage} {p q : Purl}

/-- Two purls are compared by their identities. -/
theorem packageIdentityMatches_text (hp : c.purl = some p.text) (hq : pkg.purl = some q.text) :
    packageIdentityMatches c pkg = true ↔
      (splitHead '@' (lowerChars p.path)).rdropWhile (· = '/')
        = (splitHead '@' (lowerChars q.path)).rdropWhile (· = '/') := by
  obtain ⟨id, hid, hideq⟩ := p.exists_identity
  obtain ⟨id', hid', hid'eq⟩ := q.exists_identity
  have hpne : nonEmpty (some p.text) = some p.text := nonEmpty_eq_some.2 ⟨rfl, p.text_ne_empty⟩
  have hqne : nonEmpty (some q.text) = some q.text := nonEmpty_eq_some.2 ⟨rfl, q.text_ne_empty⟩
  unfold packageIdentityMatches
  rw [hp, hq, hpne, hqne]
  dsimp only
  rw [hid, hid']
  dsimp only
  rw [decide_eq_true_iff, hideq, hid'eq]
  exact ⟨String.ofList_injective, congrArg String.ofList⟩

/-- Purls of one package match. -/
theorem packageIdentityMatches_of_same (hp : c.purl = some p.text) (hq : pkg.purl = some q.text)
    (h : p.SameIdentity q) : packageIdentityMatches c pkg = true := by
  rw [packageIdentityMatches_text hp hq, Purl.sameIdentity_iff_path.1 h]

/-- Purls without a literal `@` match when they are of one package. -/
theorem packageIdentityMatches_iff_same (hp : c.purl = some p.text) (hq : pkg.purl = some q.text)
    (hpat : p.AtFree) (hqat : q.AtFree) :
    packageIdentityMatches c pkg = true ↔ p.SameIdentity q := by
  rw [packageIdentityMatches_text hp hq, hpat.identity, hqat.identity, Purl.sameIdentity_iff_path]

/-- The last path segment of a name. -/
def lastSegment (name : String) : List Char := splitLast '/' name.toList

omit [Python] in
/-- Both forms of a name have its last segment. -/
theorem lastSegment_of_mem_nameForms {x name : String} (h : x ∈ nameForms name) :
    lastSegment x = lastSegment name := by
  unfold nameForms at h
  unfold lastSegment
  split at h
  · rcases List.mem_cons.1 h with rfl | h
    · rfl
    · rw [List.mem_singleton.1 h, String.toList_ofList, splitLast_idem]
  · rw [List.mem_singleton.1 h]

omit [Python] in
theorem lastSegment_mem_nameForms (name : String) :
    String.ofList (lastSegment name) ∈ nameForms name := by
  unfold nameForms lastSegment
  split
  · exact List.mem_cons_of_mem _ List.mem_cons_self
  · next h => rw [splitLast_self h, String.ofList_toList]; exact List.mem_cons_self

/-- With a purl missing on one side, names are compared by their last path segments. -/
theorem packageIdentityMatches_iff_segment
    (h : nonEmpty c.purl = none ∨ nonEmpty pkg.purl = none) :
    packageIdentityMatches c pkg = true ↔ ∃ name, nonEmpty pkg.name = some name ∧
      lastSegment (componentName c) = lastSegment (strip (Python.lower name)) := by
  have hnames : packageIdentityMatches c pkg = (nonEmpty pkg.name).any fun name =>
      (nameForms (componentName c)).any (· ∈ nameForms (strip (Python.lower name))) := by
    unfold packageIdentityMatches
    split
    · simp_all
    · cases nonEmpty pkg.name with
      | none => rw [Option.any_none]
      | some name => rw [Option.any_some]
  rw [hnames]
  cases hname : nonEmpty pkg.name with
  | none => simp
  | some name =>
      rw [Option.any_some, List.any_eq_true]
      constructor
      · rintro ⟨x, hx, hx'⟩
        refine ⟨name, rfl, ?_⟩
        rw [← lastSegment_of_mem_nameForms hx,
          ← lastSegment_of_mem_nameForms (of_decide_eq_true hx')]
      · rintro ⟨_, hname', hsegment⟩
        cases hname'
        refine ⟨String.ofList (lastSegment (componentName c)), lastSegment_mem_nameForms _, ?_⟩
        rw [hsegment, decide_eq_true_eq]
        exact lastSegment_mem_nameForms _

end Identity

end VulnOpsHub
