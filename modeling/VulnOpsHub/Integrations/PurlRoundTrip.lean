import Mathlib.Data.Bool.AllAny
import VulnOpsHub.Integrations.WazuhPurl
import VulnOpsHub.Intelligence.Osv
import VulnOpsHub.Lib.Percent
import VulnOpsHub.Matching.Purl

set_option autoImplicit false

/-! # Derived purls can be read back

What `quote` writes has no separator of a purl, so a derived purl splits into the parts it was made
of, decoding them gives back what the package row says, and both cuts of the code end where its
version begins. -/

namespace VulnOpsHub

/-! ## Quoting -/

/-- The characters that `quote` writes. -/
def quotedChar (safe : List Char) (c : Char) : Bool := alwaysSafe c || c ∈ safe || c = '%'

theorem hexValue_upperHexDigit (n : ℕ) : Percent.hexValue (upperHexDigit n) = some (n % 16) := by
  have hall : ∀ m < 16, Percent.hexValue (Nat.digitChar m).toUpper = some m := by decide
  exact hall _ (Nat.mod_lt _ (by decide))

theorem alwaysSafe_upperHexDigit (n : ℕ) : alwaysSafe (upperHexDigit n) = true := by
  have hall : ∀ m < 16, alwaysSafe (Nat.digitChar m).toUpper = true := by decide
  exact hall _ (Nat.mod_lt _ (by decide))

/-- An escape stands for its byte. -/
theorem escape_percentEncoded (b : UInt8) :
    Percent.escape (upperHexDigit (b.toNat / 16)) (upperHexDigit b.toNat) = some b := by
  have hbound := b.toNat_lt
  have hbyte : 16 * (b.toNat / 16 % 16) + b.toNat % 16 = b.toNat := by omega
  unfold Percent.escape
  rw [hexValue_upperHexDigit, hexValue_upperHexDigit]
  show some (UInt8.ofNat (16 * (b.toNat / 16 % 16) + b.toNat % 16)) = some b
  rw [hbyte, UInt8.ofNat_toNat]

theorem decode_percentEncoded (bytes : List UInt8) (rest : List Char) :
    Percent.decode (bytes.flatMap percentEncoded ++ rest) = bytes ++ Percent.decode rest := by
  induction bytes with
  | nil => rfl
  | cons b bytes ih =>
      show Percent.decode ('%' :: upperHexDigit (b.toNat / 16) :: upperHexDigit b.toNat ::
        (bytes.flatMap percentEncoded ++ rest)) = _
      rw [Percent.decode_escape (escape_percentEncoded b), ih]
      rfl

/-- **Unquoting undoes quoting**, where a percent sign is escaped. -/
theorem unquote_quote (text : String) {safe : List Char} (hsafe : '%' ∉ safe) :
    Percent.unquote (quote text safe).toList = some text := by
  unfold quote
  rw [String.toList_ofList, Percent.unquote_flatMap, String.ofList_toList]
  intro c rest
  split
  · rename_i hplain
    refine Percent.decode_cons ?_ rest
    rintro rfl
    simp [alwaysSafe, hsafe] at hplain
  · exact decode_percentEncoded _ rest

theorem mem_quote {text : String} {safe : List Char} {c : Char} (h : c ∈ (quote text safe).toList) :
    quotedChar safe c = true := by
  unfold quote at h
  rw [String.toList_ofList] at h
  obtain ⟨d, -, hc⟩ := List.mem_flatMap.1 h
  unfold quotedChar
  split at hc
  · rename_i hplain
    rw [List.mem_singleton.1 hc, hplain]
    rfl
  · obtain ⟨b, -, hc⟩ := List.mem_flatMap.1 hc
    simp only [percentEncoded, List.mem_cons, List.not_mem_nil, or_false] at hc
    rcases hc with rfl | rfl | rfl
    · simp
    · rw [alwaysSafe_upperHexDigit]
      rfl
    · rw [alwaysSafe_upperHexDigit]
      rfl

theorem quote_ne_nil {text : String} (h : text ≠ "") (safe : List Char) :
    (quote text safe).toList ≠ [] := by
  unfold quote
  rw [String.toList_ofList]
  cases htext : text.toList with
  | nil => exact absurd (String.toList_eq_nil_iff.1 htext) h
  | cons c rest =>
      rw [List.flatMap_cons]
      intro hnil
      have hfirst := (List.append_eq_nil_iff.1 hnil).1
      split at hfirst
      · cases hfirst
      · cases hbytes : String.utf8EncodeChar c with
        | nil => exact String.utf8EncodeChar_ne_nil hbytes
        | cons b bytes =>
            rw [hbytes, List.flatMap_cons] at hfirst
            cases hfirst

/-- A character that is not written. -/
theorem not_mem_quote {text : String} {safe : List Char} {c : Char} (h : quotedChar safe c = false) :
    c ∉ (quote text safe).toList := by
  intro hmem
  rw [mem_quote hmem] at h
  cases h

theorem ascii_quote (text : String) {safe : List Char} (hsafe : IsAscii safe) :
    IsAscii (quote text safe).toList := by
  intro c hc
  have hquoted := mem_quote hc
  simp only [quotedChar, alwaysSafe, Bool.or_eq_true, decide_eq_true_eq] at hquoted
  rcases hquoted with ((halnum | hplain) | hmem) | rfl
  · exact isAlphanum_ascii halnum
  · have hall : ∀ d ∈ ['_', '.', '-', '~'], d.toNat < 128 :=
      List.all_iff_forall_prop.1 (by decide)
    exact hall c hplain
  · exact hsafe c hmem
  · decide

/-! ## Reading a purl -/

/-- The parts of a purl. -/
structure PurlCoordinates (Text : Type) where
  type : Text
  namespaceName : Text
  name : Text
  version : Text
  arch : Option Text
deriving DecidableEq, Repr

/-- What follows a prefix. -/
def afterPrefix (start text : List Char) : Option (List Char) :=
  if start <+: text then some (text.drop start.length) else none

theorem afterPrefix_append (start text : List Char) :
    afterPrefix start (start ++ text) = some text := by
  unfold afterPrefix
  rw [if_pos (List.prefix_append _ _), List.drop_left]

/-- The qualifier of the architecture, if there are qualifiers. -/
def splitArch (query : List Char) : Option (Option (List Char)) :=
  if query = [] then some none else (afterPrefix "?arch=".toList query).map some

/-- The parts of `pkg:type/namespace/name@version`, with or without `?arch=arch`, as they are
    written. -/
def splitPurl (purl : String) : Option (PurlCoordinates (List Char)) :=
  (afterPrefix "pkg:".toList purl.toList).bind fun rest =>
    let path := splitHead '?' rest
    match path.splitOn '/' with
    | [type, namespaceName, last] =>
        let name := splitHead '@' last
        if '@' ∈ last then
          (splitArch (rest.drop path.length)).map fun arch =>
            ⟨type, namespaceName, name, last.drop (name.length + 1), arch⟩
        else none
    | _ => none

/-- The parts, decoded. -/
def decodePurl (purl : String) : Option (PurlCoordinates String) := do
  let parts ← splitPurl purl
  let type ← Percent.unquote parts.type
  let namespaceName ← Percent.unquote parts.namespaceName
  let name ← Percent.unquote parts.name
  let version ← Percent.unquote parts.version
  let arch ← parts.arch.elim (some none) fun arch => (Percent.unquote arch).map some
  pure ⟨type, namespaceName, name, version, arch⟩

/-- The characters that are safe in a name and in a version. -/
def nameSafe : List Char := ['.', '_', '-', '+']

def versionSafe : List Char := ['.', '_', '-', '+', '~']

/-- A part that is written as it is. -/
def PlainPart (s : String) : Prop := s ≠ "" ∧ ∀ c ∈ s.toList, c.isAlphanum = true

instance (s : String) : Decidable (PlainPart s) :=
  decidable_of_iff (s ≠ "" ∧ s.toList.all Char.isAlphanum = true)
    (and_congr_right fun _ => List.all_eq_true)

/-- What precedes the version of a derived purl. -/
def purlPath (type namespaceName name : String) : String :=
  "pkg:" ++ type ++ "/" ++ namespaceName ++ "/" ++ quote name nameSafe

/-- The qualifier that is written for an architecture. -/
def archSuffix (arch : Option String) : String := arch.elim "" fun arch => "?arch=" ++ quote arch []

theorem not_mem_plainPart {s : String} (h : PlainPart s) {c : Char} (hc : c.isAlphanum = false) :
    c ∉ s.toList := by
  intro hmem
  rw [h.2 c hmem] at hc
  cases hc

section Coordinates

variable {type namespaceName name version : String} {arch : Option String}

/-- The last segment of the path. -/
def versionedName (name version : String) : List Char :=
  (quote name nameSafe).toList ++ '@' :: (quote version versionSafe).toList

theorem not_mem_versionedName {c : Char} (hname : quotedChar nameSafe c = false)
    (hversion : quotedChar versionSafe c = false) (hat : c ≠ '@') :
    c ∉ versionedName name version := by
  unfold versionedName
  rw [List.mem_append, List.mem_cons]
  rintro (hmem | rfl | hmem)
  · exact not_mem_quote hname hmem
  · exact hat rfl
  · exact not_mem_quote hversion hmem

theorem coordinates_toList : (purlPath type namespaceName name ++ "@" ++ quote version versionSafe
    ++ archSuffix arch).toList = "pkg:".toList ++ (['/'].intercalate
      [type.toList, namespaceName.toList, versionedName name version] ++ (archSuffix arch).toList) := by
  unfold purlPath versionedName
  simp only [String.toList_append, List.append_assoc, List.intercalate_cons_cons,
    List.intercalate_singleton]
  rfl

theorem splitArch_archSuffix (arch : Option String) :
    splitArch (archSuffix arch).toList = some (arch.map fun arch => (quote arch []).toList) := by
  cases arch with
  | none => rfl
  | some arch =>
      have htext : (archSuffix (some arch)).toList = "?arch=".toList ++ (quote arch []).toList := by
        unfold archSuffix
        rw [Option.elim_some, String.toList_append]
      unfold splitArch
      rw [htext, afterPrefix_append, if_neg (by simp)]
      rfl

/-- The parts are split where they were joined. -/
theorem splitPurl_coordinates (htype : PlainPart type) (hnamespace : PlainPart namespaceName) :
    splitPurl (purlPath type namespaceName name ++ "@" ++ quote version versionSafe
      ++ archSuffix arch) = some ⟨type.toList, namespaceName.toList, (quote name nameSafe).toList,
        (quote version versionSafe).toList, arch.map fun arch => (quote arch []).toList⟩ := by
  have hslash : ∀ part ∈ [type.toList, namespaceName.toList, versionedName name version],
      '/' ∉ part := by
    intro part hpart
    simp only [List.mem_cons, List.not_mem_nil, or_false] at hpart
    rcases hpart with rfl | rfl | rfl
    · exact not_mem_plainPart htype (by decide)
    · exact not_mem_plainPart hnamespace (by decide)
    · exact not_mem_versionedName (by decide) (by decide) (by decide)
  have hquery : '?' ∉ ['/'].intercalate
      [type.toList, namespaceName.toList, versionedName name version] := by
    intro hmem
    rcases mem_intercalate hmem with heq | ⟨part, hpart, hc⟩
    · exact absurd heq (by decide)
    · simp only [List.mem_cons, List.not_mem_nil, or_false] at hpart
      rcases hpart with rfl | rfl | rfl
      · exact not_mem_plainPart htype (by decide) hc
      · exact not_mem_plainPart hnamespace (by decide) hc
      · exact not_mem_versionedName (by decide) (by decide) (by decide) hc
  have hpath : splitHead '?' (['/'].intercalate
      [type.toList, namespaceName.toList, versionedName name version] ++ (archSuffix arch).toList)
        = ['/'].intercalate [type.toList, namespaceName.toList, versionedName name version] := by
    rw [splitHead_append hquery]
    cases arch with
    | none => exact List.append_nil _
    | some arch =>
        have hhead : splitHead '?' (archSuffix (some arch)).toList = [] := by
          unfold archSuffix
          rw [Option.elim_some, String.toList_append]
          rfl
        rw [hhead, List.append_nil]
  have hname : splitHead '@' (versionedName name version) = (quote name nameSafe).toList := by
    unfold versionedName
    rw [splitHead_append_cons, splitHead_self (not_mem_quote (by decide))]
  have hversion : (versionedName name version).drop ((quote name nameSafe).toList.length + 1)
      = (quote version versionSafe).toList := by
    unfold versionedName
    simp
  unfold splitPurl
  rw [coordinates_toList, afterPrefix_append, Option.bind_some]
  dsimp only
  rw [hpath, List.splitOn_intercalate '/' hslash (by simp), List.drop_left]
  dsimp only
  rw [hname, hversion, splitArch_archSuffix, if_pos (by simp [versionedName])]
  rfl

/-- **A derived purl is read back into what it was made of.** -/
theorem decodePurl_coordinates (htype : PlainPart type) (hnamespace : PlainPart namespaceName) :
    decodePurl (purlPath type namespaceName name ++ "@" ++ quote version versionSafe
      ++ archSuffix arch) = some ⟨type, namespaceName, name, version, arch⟩ := by
  have hplain : ∀ {s : String}, PlainPart s → Percent.unquote s.toList = some s := by
    intro s hs
    rw [Percent.unquote_plain (not_mem_plainPart hs (by decide)), String.ofList_toList]
  unfold decodePurl
  rw [splitPurl_coordinates htype hnamespace]
  simp only [Option.bind_eq_bind, Option.bind_some, hplain htype, hplain hnamespace,
    unquote_quote name (show '%' ∉ nameSafe by decide),
    unquote_quote version (show '%' ∉ versionSafe by decide)]
  cases arch with
  | none => rfl
  | some arch =>
      simp only [Option.map_some, Option.elim_some, unquote_quote arch (show '%' ∉ [] by simp)]
      rfl

end Coordinates

/-! ## Cutting a purl -/

namespace Purl

/-- The cut for OSV ends where the version begins. -/
theorem stripPurlVersion_text {p : Purl} (hname : '@' ∉ p.name)
    (hversion : ∀ v ∈ p.version, '/' ∉ v) :
    OSVAdapter.stripPurlVersion p.text = String.ofList p.path := by
  have hsegment : '/' ∉ p.name ++ suffix '@' p.version := by
    rw [List.mem_append]
    rintro (hmem | hmem)
    · exact p.name_part.no_slash hmem
    · cases hv : p.version with
      | none =>
          rw [hv] at hmem
          cases hmem
      | some v =>
          rw [hv] at hmem
          exact hversion v hv ((List.mem_cons.1 hmem).resolve_left (by decide))
  have hpath : p.path = ("pkg:".toList ++ ['/'].intercalate (p.type :: p.namespaces))
      ++ '/' :: p.name := by
    unfold path parts
    rw [← List.cons_append, intercalate_concat_cons (by simp), List.append_assoc]
  have hat : splitHead '@' (p.name ++ suffix '@' p.version) = p.name := by
    cases p.version with
    | none =>
        rw [show suffix '@' none = [] from rfl, List.append_nil, splitHead_self hname]
    | some v =>
        rw [show suffix '@' (some v) = '@' :: v from rfl, splitHead_append_cons,
          splitHead_self hname]
  have htake : ∀ front segment : List Char, (front ++ '/' :: segment).take
      ((front ++ '/' :: segment).length - segment.length) = front ++ ['/'] := by
    intro front segment
    rw [List.append_cons, List.length_append, Nat.add_sub_cancel, List.take_left]
  unfold OSVAdapter.stripPurlVersion
  rw [p.splitHead_text]
  dsimp only
  rw [hpath, List.append_assoc, List.cons_append, splitLast_append_cons hsegment, hat, htake,
    ← List.append_cons]

end Purl

section Derived

variable {type namespaceName name version : String}

theorem purlPart_of_plain {s : String} (h : PlainPart s) : PurlPart s.toList where
  nonempty := fun hnil => h.1 (String.toList_eq_nil_iff.1 hnil)
  ascii := fun c hc => isAlphanum_ascii (h.2 c hc)
  no_slash := not_mem_plainPart h (by decide)
  no_query := not_mem_plainPart h (by decide)
  no_fragment := not_mem_plainPart h (by decide)

/-- A derived purl is a well-formed one. -/
def derivedPurl (htype : PlainPart type) (hnamespace : PlainPart namespaceName) (hname : name ≠ "")
    (version : String) (arch : Option String) : Purl where
  type := type.toList
  namespaces := [namespaceName.toList]
  name := (quote name nameSafe).toList
  version := some (quote version versionSafe).toList
  qualifiers := arch.map fun arch => "arch=".toList ++ (quote arch []).toList
  subpath := none
  type_part := purlPart_of_plain htype
  namespace_part := by
    intro s hs
    rw [List.mem_singleton.1 hs]
    exact purlPart_of_plain hnamespace
  name_part :=
    { nonempty := quote_ne_nil hname _
      ascii := ascii_quote _ (by decide)
      no_slash := not_mem_quote (by decide)
      no_query := not_mem_quote (by decide)
      no_fragment := not_mem_quote (by decide) }
  version_plain := by
    intro v hv
    rw [← Option.some.inj hv]
    exact ⟨not_mem_quote (by decide), not_mem_quote (by decide)⟩
  qualifiers_plain := by
    intro q hq
    obtain ⟨arch, -, rfl⟩ := Option.map_eq_some_iff.1 hq
    rw [List.mem_append]
    rintro (hmem | hmem)
    · simp at hmem
    · exact not_mem_quote (by decide) hmem

variable {htype : PlainPart type} {hnamespace : PlainPart namespaceName} {hname : name ≠ ""}
  {arch : Option String}

theorem derivedPurl_path : (derivedPurl htype hnamespace hname version arch).path
    = (purlPath type namespaceName name).toList := by
  unfold purlPath
  simp only [String.toList_append, List.append_assoc]
  show "pkg:".toList ++ ['/'].intercalate [type.toList, namespaceName.toList,
    (quote name nameSafe).toList] = _
  simp only [List.intercalate_cons_cons, List.intercalate_singleton, List.append_assoc]
  rfl

theorem derivedPurl_text : (derivedPurl htype hnamespace hname version arch).text
    = purlPath type namespaceName name ++ "@" ++ quote version versionSafe ++ archSuffix arch := by
  refine String.toList_inj.1 ?_
  unfold Purl.text
  rw [String.toList_ofList, derivedPurl_path]
  cases arch with
  | none => simp [derivedPurl, Purl.suffix, archSuffix, String.toList_append]
  | some arch => simp [derivedPurl, Purl.suffix, archSuffix, String.toList_append]

/-- No part of a derived purl has a literal `@`. -/
theorem derivedPurl_atFree : (derivedPurl htype hnamespace hname version arch).AtFree := by
  intro part hpart
  have hparts : part ∈ [type.toList, namespaceName.toList, (quote name nameSafe).toList] := hpart
  simp only [List.mem_cons, List.not_mem_nil, or_false] at hparts
  rcases hparts with rfl | rfl | rfl
  · exact not_mem_plainPart htype (by decide)
  · exact not_mem_plainPart hnamespace (by decide)
  · exact not_mem_quote (by decide)

/-- **Both cuts end where the version begins**; the matcher's is in lower case. -/
theorem derivedPurl_cuts [Python] (htype : PlainPart type) (hnamespace : PlainPart namespaceName)
    (hname : name ≠ "") (version : String) (arch : Option String) :
    let purl := purlPath type namespaceName name ++ "@" ++ quote version versionSafe
      ++ archSuffix arch
    OSVAdapter.stripPurlVersion purl = purlPath type namespaceName name ∧
      stripPurlIdentity (some purl) = some (Python.lower (purlPath type namespaceName name)) := by
  have hfree := @derivedPurl_atFree _ _ _ version htype hnamespace hname arch
  have hpath := @derivedPurl_path _ _ _ version htype hnamespace hname arch
  dsimp only
  rw [← @derivedPurl_text _ _ _ version htype hnamespace hname arch]
  constructor
  · rw [Purl.stripPurlVersion_text (not_mem_quote (by decide)) (by
      intro v hv
      rw [← Option.some.inj hv]
      exact not_mem_quote (by decide)), hpath, String.ofList_toList]
  · have hascii : IsAscii (purlPath type namespaceName name).toList := by
      rw [← hpath]
      exact Purl.ascii_path _
    rw [Purl.stripPurlIdentity_text, hfree.identity, hpath, ← lower_ofList hascii,
      String.ofList_toList, String.ofList_toList]

end Derived

/-! ## Derivation -/

section Derivation

variable [Python] {package agent : Json}

/-- The format of a row, in lower case. -/
def packageFormat (package : Json) : String :=
  Python.lower ((clean (package.field "format")).getD "")

/-- The architecture of a row, in lower case. -/
def packageArch (package : Json) : Option String :=
  (clean (package.field "architecture")).map Python.lower

/-- The distribution that is selected for a row. -/
def selectedNamespace (package agent : Json) : Except PyError (Option String) :=
  if packageFormat package = "deb" then (agentDistroText agent).map debNamespaceFromDistro
  else if packageFormat package = "apk" then .ok (some "alpine")
  else if packageFormat package = "rpm" then .ok (rpmNamespace (clean (package.field "vendor")))
  else .ok none

omit [Python] in
theorem plain_debNamespace {distroText ns : String} (h : debNamespaceFromDistro distroText = some ns) :
    PlainPart ns := by
  unfold debNamespaceFromDistro at h
  split_ifs at h
  · rw [← Option.some.inj h]
    decide +kernel
  · rw [← Option.some.inj h]
    decide +kernel

theorem plain_rpmNamespace {vendor : Option String} {ns : String} (h : rpmNamespace vendor = some ns) :
    PlainPart ns := by
  obtain ⟨vendor, -, h⟩ := Option.bind_eq_some_iff.1 h
  obtain ⟨needle, hfind, rfl⟩ := Option.map_eq_some_iff.1 h
  have hmem : needle ∈ rpmVendorNamespace :=
    (List.mem_insertionSort _).1 (List.mem_of_find?_eq_some hfind)
  have hall : ∀ needle ∈ rpmVendorNamespace, PlainPart needle.2 := by decide +kernel
  exact hall needle hmem

/-- What a base is made of. -/
theorem purlBase_ok {encodedName encodedVersion base : String}
    (h : purlBase (packageFormat package) encodedName encodedVersion (clean (package.field "vendor"))
      agent = .ok (.ok base)) :
    ∃ ns, selectedNamespace package agent = .ok (some ns) ∧ PlainPart (packageFormat package) ∧
      PlainPart ns ∧ base = "pkg:" ++ packageFormat package ++ "/" ++ ns ++ "/" ++ encodedName ++ "@"
        ++ encodedVersion := by
  have hplain : PlainPart "deb" ∧ PlainPart "apk" ∧ PlainPart "rpm" ∧ PlainPart "alpine" := by
    decide +kernel
  unfold purlBase at h
  unfold selectedNamespace
  by_cases hdeb : packageFormat package = "deb"
  · rw [if_pos hdeb] at h ⊢
    obtain ⟨distroText, hdistro, h⟩ := except_bind_eq_ok.1 h
    rw [hdistro]
    cases hns : debNamespaceFromDistro distroText with
    | none =>
        rw [hns] at h
        cases Except.ok.inj h
    | some ns =>
        rw [hns] at h
        refine ⟨ns, congrArg Except.ok hns, hdeb ▸ hplain.1, plain_debNamespace hns, ?_⟩
        rw [hdeb]
        exact (Except.ok.inj (Except.ok.inj h)).symm
  · rw [if_neg hdeb] at h ⊢
    by_cases hapk : packageFormat package = "apk"
    · rw [if_pos hapk] at h ⊢
      refine ⟨"alpine", rfl, hapk ▸ hplain.2.1, hplain.2.2.2, ?_⟩
      rw [hapk]
      exact (Except.ok.inj (Except.ok.inj h)).symm
    · rw [if_neg hapk] at h ⊢
      by_cases hrpm : packageFormat package = "rpm"
      · rw [if_pos hrpm] at h ⊢
        cases hns : rpmNamespace (clean (package.field "vendor")) with
        | none =>
            rw [hns] at h
            cases Except.ok.inj h
        | some ns =>
            rw [hns] at h
            refine ⟨ns, rfl, hrpm ▸ hplain.2.2.1, plain_rpmNamespace hns, ?_⟩
            rw [hrpm]
            exact (Except.ok.inj (Except.ok.inj h)).symm
      · rw [if_neg hrpm] at h
        split at h
        · cases Except.ok.inj h
        · cases Except.ok.inj h

theorem ne_empty_of_clean {value : Json} {text : String} (h : clean value = some text) :
    text ≠ "" := by
  unfold clean at h
  split at h
  · cases h
  · exact (nonEmpty_eq_some.1 h).2

/-- The purl of a row whose derivation succeeds. -/
theorem derivePurlFrom_derived {name version : String} {result : PurlDerivationResult}
    (h : derivePurlFrom package agent name version = .ok result) (hderived : result.status = .derived) :
    ∃ ns, selectedNamespace package agent = .ok (some ns) ∧ PlainPart (packageFormat package) ∧
      PlainPart ns ∧ result.purl = some (purlPath (packageFormat package) ns name ++ "@"
        ++ quote version versionSafe ++ archSuffix (packageArch package)) := by
  unfold derivePurlFrom at h
  split at h
  · rw [← Except.ok.inj h] at hderived
    cases hderived
  · obtain ⟨base, hbase, hresult⟩ := except_bind_eq_ok.1 h
    cases base with
    | error reason =>
        rw [← Except.ok.inj hresult] at hderived
        cases hderived
    | ok base =>
        obtain ⟨ns, hns, htype, hplain, rfl⟩ := purlBase_ok hbase
        refine ⟨ns, hns, htype, hplain, ?_⟩
        rw [← Except.ok.inj hresult]
        cases harch : clean (package.field "architecture") with
        | none =>
            simp [packageArch, harch, archSuffix, purlPath, nameSafe, versionSafe]
        | some arch =>
            simp [packageArch, harch, archSuffix, purlPath, nameSafe, versionSafe,
              String.append_assoc]

/-- **A derived purl can be read back.** Its parts, decoded, are the format, the distribution, the
    name, the version and the architecture of the row, and both cuts of the code end before the one
    `@` that begins the version. -/
theorem derived_roundTrip (package agent : Json) (result : PurlDerivationResult)
    (h : derivePurlFromWazuhPackage package agent = .ok result)
    (hderived : result.status = .derived) :
    ∃ purl namespaceName name version base,
      result.purl = some purl ∧ selectedNamespace package agent = .ok (some namespaceName) ∧
      clean (package.field "name") = some name ∧ clean (package.field "version") = some version ∧
      decodePurl purl
        = some ⟨packageFormat package, namespaceName, name, version, packageArch package⟩ ∧
      purl = base ++ "@" ++ quote version versionSafe ++ archSuffix (packageArch package) ∧
      '@' ∉ base.toList ∧ OSVAdapter.stripPurlVersion purl = base ∧
      stripPurlIdentity (some purl) = some (Python.lower base) := by
  obtain ⟨existing, -, hmatch⟩ := except_bind_eq_ok.1 h
  split at hmatch
  · rw [← Except.ok.inj hmatch] at hderived
    cases hderived
  · rename_i name version _ hname hversion
    obtain ⟨ns, hns, htype, hplain, hpurl⟩ := derivePurlFrom_derived hmatch hderived
    have hcuts := derivedPurl_cuts htype hplain (ne_empty_of_clean hname) version
      (packageArch package)
    refine ⟨_, ns, name, version, purlPath (packageFormat package) ns name, hpurl, hns, hname,
      hversion, decodePurl_coordinates htype hplain, rfl, ?_, hcuts.1, hcuts.2⟩
    rw [← @derivedPurl_path _ _ _ version htype hplain (ne_empty_of_clean hname) none]
    exact derivedPurl_atFree.not_mem_path
  · rw [← Except.ok.inj hmatch] at hderived
    cases hderived

end Derivation

/-- A row in which all separators occur. -/
def samplePackage : Json :=
  .obj [("name", .str "g++@a/b?c#d%e"), ("version", .str "1:2.0~rc1+b1/2@3"), ("format", .str "DEB"),
    ("architecture", .str "AMD64")]

def sampleAgent : Json := .obj [("os", .obj [("name", .str "Ubuntu")])]

def samplePurl : String :=
  "pkg:deb/ubuntu/g++%40a%2Fb%3Fc%23d%25e@1%3A2.0~rc1+b1%2F2%403?arch=amd64"

theorem derived_roundTrip_sample :
    ∃ purl namespaceName name version base,
      some samplePurl = some purl ∧
      @selectedNamespace asciiPython samplePackage sampleAgent = .ok (some namespaceName) ∧
      @clean asciiPython (samplePackage.field "name") = some name ∧
      @clean asciiPython (samplePackage.field "version") = some version ∧
      decodePurl purl = some ⟨@packageFormat asciiPython samplePackage, namespaceName, name, version,
        @packageArch asciiPython samplePackage⟩ ∧
      purl = base ++ "@" ++ quote version versionSafe
        ++ archSuffix (@packageArch asciiPython samplePackage) ∧
      '@' ∉ base.toList ∧ OSVAdapter.stripPurlVersion purl = base ∧
      @stripPurlIdentity asciiPython (some purl) = some (@Python.lower asciiPython base) :=
  @derived_roundTrip asciiPython samplePackage sampleAgent ⟨.derived, some samplePurl, some "deb"⟩
    (by
      have hderive : (@derivePurlFromWazuhPackage asciiPython samplePackage sampleAgent).toOption
          = some ⟨.derived, some samplePurl, some "deb"⟩ := by decide +kernel
      cases hresult : @derivePurlFromWazuhPackage asciiPython samplePackage sampleAgent with
      | error e =>
          rw [hresult] at hderive
          cases hderive
      | ok result =>
          rw [hresult] at hderive
          exact congrArg Except.ok (Option.some.inj hderive)) rfl

end VulnOpsHub
