import VulnOpsHub.Sbom.Parser

set_option autoImplicit false

/-! # The entries that a document keeps

Both parsers skip the entries that are no object or have no name, and keep the name, the version and
the purl of the others as they stand. They match the purl as text without a check that it is, and
`_parse_spdx` walks `externalRefs` without a check that it can: next to `ValueError`, a document can
raise `TypeError`. -/

namespace VulnOpsHub

/-- Nothing, or text. -/
def Json.textOrNothing : Json → Bool
  | .str _ => true
  | value => !value.truthy

/-- Nothing, or something that can be walked. -/
def Json.iterableOrNothing : Json → Bool
  | .arr _ => true
  | .obj _ => true
  | .str _ => true
  | value => !value.truthy

def Json.isObject : Json → Bool
  | .obj _ => true
  | _ => false

/-- Only an object has members. -/
theorem Json.isObject_of_field {value : Json} {key : String}
    (h : (value.field key).truthy = true) : value.isObject = true := by
  cases value with
  | obj members => rfl
  | _ => cases h

namespace Sbom

/-- The name, version and purl of a component, unchanged. -/
structure RawIdentity where
  name : Json
  version : Json
  purl : Json

def ParsedComponent.raw (component : ParsedComponent) : RawIdentity :=
  ⟨component.rawName, component.rawVersion, component.purl⟩

/-- An object with a name. -/
def isNamed (entry : Json) : Bool := entry.isObject && (entry.field "name").truthy

theorem isNamed_eq (entry : Json) : isNamed entry = (entry.field "name").truthy := by
  unfold isNamed
  by_cases htruthy : (entry.field "name").truthy = true
  · rw [Json.isObject_of_field htruthy, Bool.true_and]
  · simp [htruthy]

/-- What an entry of `components` says. -/
def cyclonedxIdentity (comp : Json) : RawIdentity :=
  ⟨comp.field "name", comp.field "version", comp.field "purl"⟩

/-- What an entry of `packages` says; its purl is an external reference. -/
def spdxIdentity (pkg : Json) : RawIdentity :=
  ⟨pkg.field "name", (pkg.field "versionInfo").or (pkg.field "version"),
    lastLocator ["purl"] (pkg.field "externalRefs").items⟩

/-- What a document of the format says, in its order. -/
def documentIdentities (format : String) (data : Json) : List RawIdentity :=
  if format = "cyclonedx" then
    ((data.field "components").items.filter isNamed).map cyclonedxIdentity
  else ((data.field "packages").items.filter isNamed).map spdxIdentity

/-! ## External references -/

theorem toList_error_iff {value : Json} {e : PyError} :
    (value.or (.arr [])).toList = .error e ↔
      e = .typeError ∧ value.iterableOrNothing = false := by
  unfold Json.or
  by_cases htruthy : value.truthy = true
  · rw [if_pos htruthy]
    cases value <;> simp [Json.toList, Json.iterableOrNothing, htruthy, eq_comm]
  · rw [if_neg htruthy]
    have hiterable : value.iterableOrNothing = true := by
      cases value <;> simp_all [Json.iterableOrNothing]
    simp [Json.toList, hiterable]

/-- The keys of an object and the characters of a text are no references. -/
theorem lastLocator_eq_null {types : List String} {texts : List Json}
    (h : ∀ text ∈ texts, text.isObject = false) : lastLocator types texts = .null := by
  have hnone : (texts.filter fun ref => (ref.field "referenceType").isOneOf types) = [] := by
    rw [List.filter_eq_nil_iff]
    intro text htext
    have hobject := h text htext
    cases text with
    | obj members => cases hobject
    | _ => simp [Json.field, Json.members, Json.isOneOf]
  simp [lastLocator, hnone]

/-- References are read from a list alone. -/
theorem lastLocator_toList {types : List String} {value : Json} {refs : List Json}
    (h : (value.or (.arr [])).toList = .ok refs) :
    lastLocator types refs = lastLocator types value.items := by
  unfold Json.or at h
  by_cases htruthy : value.truthy = true
  · rw [if_pos htruthy] at h
    cases value with
    | arr items =>
        rw [← Except.ok.inj h]
        rfl
    | obj members =>
        rw [← Except.ok.inj h]
        show lastLocator types _ = .null
        refine lastLocator_eq_null fun text htext => ?_
        obtain ⟨member, -, rfl⟩ := List.mem_map.1 htext
        rfl
    | str s =>
        rw [← Except.ok.inj h]
        show lastLocator types _ = .null
        refine lastLocator_eq_null fun text htext => ?_
        obtain ⟨c, -, rfl⟩ := List.mem_map.1 htext
        rfl
    | _ => cases h
  · rw [if_neg htruthy] at h
    obtain rfl := Except.ok.inj h
    cases value with
    | arr items =>
        have hitems : items = [] := by simpa [Json.truthy] using htruthy
        rw [hitems]
        rfl
    | _ => rfl

/-! ## Loops over entries -/

/-- What raises in a parser that has its entries: a check, or the loop over them. -/
theorem walk_error_iff {β γ : Type} {p : Prop} [Decidable p] {message : String}
    {f : Json → Except PyError β} {k : List β → γ} {entries : List Json} {e : PyError}
    (hf : ∀ {entry e'}, f entry = .error e' → e' = .typeError) :
    (raiseIf p (.valueError message) >>= fun _ => entries.mapM f >>= fun kept => pure (k kept))
        = .error e ↔
      p ∧ e = .valueError message ∨ ¬ p ∧ ∃ entry ∈ entries, f entry = .error e := by
  rw [except_bind_eq_error, raiseIf_eq_error]
  constructor
  · rintro (⟨hp, rfl⟩ | ⟨_, hp, h⟩)
    · exact Or.inl ⟨hp, rfl⟩
    · rcases except_bind_eq_error.1 h with hentry | ⟨_, -, h⟩
      · exact Or.inr ⟨raiseIf_eq_ok.1 hp, exists_of_mapM_error hentry⟩
      · cases h
  · rintro (⟨hp, rfl⟩ | ⟨hp, entry, hmem, hentry⟩)
    · exact Or.inl ⟨hp, rfl⟩
    · refine Or.inr ⟨(), raiseIf_eq_ok.2 hp, except_bind_eq_error.2 (Or.inl ?_)⟩
      cases hentries : entries.mapM f with
      | error e' =>
          -- every round raises the same
          obtain ⟨entry', -, hentry'⟩ := exists_of_mapM_error hentries
          rw [hf hentry, hf hentry']
      | ok kept =>
          obtain ⟨_, hok⟩ := mapM_ok_iff.1 ⟨kept, hentries⟩ entry hmem
          rw [hok] at hentry
          cases hentry

/-- What a loop keeps of its entries. -/
theorem filterMap_of_mapM {β γ : Type} {f : Json → Except PyError (Option β)} {g : β → γ}
    {identity : Json → γ} {entries : List Json} {kept : List (Option β)}
    (hf : ∀ {entry k}, f entry = .ok k →
      k.map g = if isNamed entry = true then some (identity entry) else none)
    (h : entries.mapM f = .ok kept) :
    (kept.filterMap id).map g = (entries.filter isNamed).map identity := by
  have hpairs := mapM_eq_ok_iff.1 h
  clear h
  induction hpairs with
  | nil => rfl
  | @cons entry k _ kept hentry _ ih =>
      have hk := hf hentry
      by_cases hnamed : isNamed entry = true
      · rw [if_pos hnamed, Option.map_eq_some_iff] at hk
        obtain ⟨b, rfl, hb⟩ := hk
        have hcons : (some b :: kept).filterMap id = b :: kept.filterMap id := rfl
        rw [List.filter_cons_of_pos hnamed, hcons, List.map_cons, List.map_cons, hb, ih]
      · rw [if_neg hnamed, Option.map_eq_none_iff] at hk
        rw [List.filter_cons_of_neg hnamed, hk]
        simpa using ih

section Parsing

variable [Python]

/-! ## One entry -/

theorem parsedPurl_error_iff {purl : Json} {e : PyError} :
    parsedPurl purl = .error e ↔ e = .typeError ∧ purl.textOrNothing = false := by
  unfold parsedPurl
  by_cases htruthy : purl.truthy = true
  · rw [if_pos htruthy]
    cases purl with
    | str text =>
        simp only [parsePurl, Json.textOrNothing]
        split <;> simp
    | _ => simp [parsePurl, Json.textOrNothing, htruthy, eq_comm]
  · rw [if_neg htruthy]
    have htext : purl.textOrNothing = true := by
      cases purl <;> simp_all [Json.textOrNothing]
    simp [htext]

theorem parseCyclonedxComponent_error_iff {comp : Json} {e : PyError} :
    parseCyclonedxComponent comp = .error e ↔
      e = .typeError ∧ isNamed comp = true ∧ (comp.field "purl").textOrNothing = false := by
  unfold parseCyclonedxComponent
  rw [isNamed_eq]
  by_cases hname : (comp.field "name").truthy = true
  · simp [hname, except_bind_eq_error, parsedPurl_error_iff, pure, Except.pure]
  · simp [hname]

theorem parseCyclonedxComponent_raw {comp : Json} {kept : Option ParsedComponent}
    (h : parseCyclonedxComponent comp = .ok kept) :
    kept.map ParsedComponent.raw =
      if isNamed comp = true then some (cyclonedxIdentity comp) else none := by
  unfold parseCyclonedxComponent at h
  rw [isNamed_eq]
  by_cases hname : (comp.field "name").truthy = true
  · simp only [hname, Bool.not_true, Bool.false_eq_true, if_false, except_bind_eq_ok] at h
    obtain ⟨_, -, h⟩ := h
    rw [if_pos hname, ← Except.ok.inj h]
    rfl
  · simp only [hname, Bool.not_false, if_true] at h
    rw [if_neg hname, ← Except.ok.inj h]
    rfl

theorem parseSpdxPackage_error_iff {pkg : Json} {e : PyError} :
    parseSpdxPackage pkg = .error e ↔
      e = .typeError ∧ isNamed pkg = true ∧
        ((pkg.field "externalRefs").iterableOrNothing = false ∨
          (lastLocator ["purl"] (pkg.field "externalRefs").items).textOrNothing = false) := by
  unfold parseSpdxPackage
  rw [isNamed_eq]
  by_cases hname : (pkg.field "name").truthy = true
  · simp only [hname, Bool.not_true, Bool.false_eq_true, if_false, except_bind_eq_error,
      toList_error_iff, parsedPurl_error_iff, true_and]
    constructor
    · rintro (⟨he, hrefs⟩ | ⟨refs, hrefs, ⟨he, hpurl⟩ | ⟨_, -, h⟩⟩)
      · exact ⟨he, Or.inl hrefs⟩
      · rw [lastLocator_toList hrefs] at hpurl
        exact ⟨he, Or.inr hpurl⟩
      · cases h
    · rintro ⟨he, hrefs | hpurl⟩
      · exact Or.inl ⟨he, hrefs⟩
      · cases hlist : ((pkg.field "externalRefs").or (.arr [])).toList with
        | error e' => exact Or.inl ⟨he, (toList_error_iff.1 hlist).2⟩
        | ok refs =>
            rw [← lastLocator_toList hlist] at hpurl
            exact Or.inr ⟨refs, rfl, Or.inl ⟨he, hpurl⟩⟩
  · simp [hname]

theorem parseSpdxPackage_raw {pkg : Json} {kept : Option ParsedComponent}
    (h : parseSpdxPackage pkg = .ok kept) :
    kept.map ParsedComponent.raw =
      if isNamed pkg = true then some (spdxIdentity pkg) else none := by
  unfold parseSpdxPackage at h
  rw [isNamed_eq]
  by_cases hname : (pkg.field "name").truthy = true
  · simp only [hname, Bool.not_true, Bool.false_eq_true, if_false, except_bind_eq_ok] at h
    obtain ⟨refs, hrefs, _, -, h⟩ := h
    rw [if_pos hname, ← Except.ok.inj h, spdxIdentity, ← lastLocator_toList hrefs]
    rfl
  · simp only [hname, Bool.not_false, if_true] at h
    rw [if_neg hname, ← Except.ok.inj h]
    rfl

/-! ## One document -/

/-- The documents that are read as CycloneDX without a second try. -/
def detectsCyclonedx (data : Json) : Bool :=
  (data.field "bomFormat").isOneOf ["CycloneDX"]
    || hasKey data "components" && hasKey data "bomFormat"

/-- `parse` goes to the entries of `components` and keeps what they raise. -/
def readsComponents (data : Json) : Bool :=
  (data.field "bomFormat").isOneOf ["CycloneDX"]
    || hasKey data "components" && hasKey data "bomFormat" && !(data.field "bomFormat").truthy

/-- `parse` goes to the entries of `packages`. -/
def readsPackages (data : Json) : Bool :=
  !detectsCyclonedx data && requiredSpdx.all (hasKey data)

omit [Python] in
theorem cyclonedxComponents_cases (value : Json) :
    cyclonedxComponents value = .ok value.items ∨
      value.items = [] ∧ ∃ message, cyclonedxComponents value = .error (.valueError message) := by
  cases value with
  | null => exact Or.inl rfl
  | arr items => exact Or.inl rfl
  | _ => exact Or.inr ⟨rfl, _, rfl⟩

omit [Python] in
theorem spdxPackages_cases (value : Json) :
    spdxPackages value = .ok value.items ∨
      value.items = [] ∧ ∃ message, spdxPackages value = .error (.valueError message) := by
  cases value with
  | arr items => exact Or.inl rfl
  | _ => exact Or.inr ⟨rfl, _, rfl⟩

theorem cyclonedx_round_error {comp : Json} {e : PyError}
    (h : parseCyclonedxComponent comp = .error e) : e = .typeError :=
  (parseCyclonedxComponent_error_iff.1 h).1

/-- What `_parse_cyclonedx` raises. -/
theorem parseCyclonedx_error {data : Json} {e : PyError} (h : parseCyclonedx data = .error e) :
    (∃ message, e = .valueError message) ∨ e = .typeError := by
  unfold parseCyclonedx at h
  rcases cyclonedxComponents_cases (data.field "components") with hitems | ⟨-, message, hitems⟩
  · rw [hitems, except_ok_bind, walk_error_iff cyclonedx_round_error] at h
    rcases h with ⟨-, rfl⟩ | ⟨-, comp, -, hcomp⟩
    · exact Or.inl ⟨_, rfl⟩
    · exact Or.inr (cyclonedx_round_error hcomp)
  · rw [hitems] at h
    exact Or.inl ⟨message, (Except.error.inj h).symm⟩

theorem parseCyclonedx_typeError_iff {data : Json} :
    parseCyclonedx data = .error .typeError ↔
      ¬ ((data.field "bomFormat").truthy = true ∧
          ¬ (data.field "bomFormat").isOneOf ["CycloneDX"] = true) ∧
        ∃ comp ∈ (data.field "components").items,
          isNamed comp = true ∧ (comp.field "purl").textOrNothing = false := by
  unfold parseCyclonedx
  rcases cyclonedxComponents_cases (data.field "components") with hitems | ⟨hnone, message, hitems⟩
  · rw [hitems, except_ok_bind, walk_error_iff cyclonedx_round_error]
    simp only [parseCyclonedxComponent_error_iff, reduceCtorEq, and_false, false_or, true_and]
  · rw [hitems, hnone]
    exact iff_of_false (by intro h; cases h) (by simp)

theorem parseCyclonedx_identities {data : Json} {parsed : ParsedSbom}
    (h : parseCyclonedx data = .ok parsed) :
    parsed.components.map ParsedComponent.raw = documentIdentities parsed.format data := by
  simp only [parseCyclonedx, except_bind_eq_ok] at h
  obtain ⟨items, hitems, _, -, components, hcomponents, h⟩ := h
  rw [← Except.ok.inj h]
  rcases cyclonedxComponents_cases (data.field "components") with hread | ⟨-, message, hread⟩
  · rw [hread] at hitems
    rw [← Except.ok.inj hitems] at hcomponents
    exact filterMap_of_mapM parseCyclonedxComponent_raw hcomponents
  · rw [hread] at hitems
    cases hitems

omit [Python] in
/-- The first required field that is missing is named. -/
theorem requiredSpdx_cases (data : Json) :
    (requiredSpdx.all (hasKey data) = true ∧
      (requiredSpdx.find? fun key => !hasKey data key) = none) ∨
    (requiredSpdx.all (hasKey data) = false ∧
      ∃ key, (requiredSpdx.find? fun key => !hasKey data key) = some key) := by
  cases hfind : requiredSpdx.find? fun key => !hasKey data key with
  | none =>
      refine Or.inl ⟨?_, rfl⟩
      rw [List.find?_eq_none] at hfind
      simpa [List.all_eq_true] using hfind
  | some key =>
      refine Or.inr ⟨?_, key, rfl⟩
      have hmissing := List.find?_some hfind
      rw [List.all_eq_false]
      exact ⟨key, List.mem_of_find?_eq_some hfind, by simpa using hmissing⟩

theorem spdx_round_error {pkg : Json} {e : PyError} (h : parseSpdxPackage pkg = .error e) :
    e = .typeError :=
  (parseSpdxPackage_error_iff.1 h).1

/-- What `_parse_spdx` raises. -/
theorem parseSpdx_error {data : Json} {e : PyError} (h : parseSpdx data = .error e) :
    (∃ message, e = .valueError message) ∨ e = .typeError := by
  unfold parseSpdx at h
  rcases requiredSpdx_cases data with ⟨-, hfind⟩ | ⟨-, key, hfind⟩
  · rw [hfind, Option.elim_none, except_ok_bind] at h
    rcases spdxPackages_cases (data.field "packages") with hitems | ⟨-, message, hitems⟩
    · rw [hitems, except_ok_bind, walk_error_iff spdx_round_error] at h
      rcases h with ⟨-, rfl⟩ | ⟨-, pkg, -, hpkg⟩
      · exact Or.inl ⟨_, rfl⟩
      · exact Or.inr (spdx_round_error hpkg)
    · rw [hitems] at h
      exact Or.inl ⟨message, (Except.error.inj h).symm⟩
  · rw [hfind] at h
    exact Or.inl ⟨_, (Except.error.inj h).symm⟩

theorem parseSpdx_typeError_iff {data : Json} :
    parseSpdx data = .error .typeError ↔
      requiredSpdx.all (hasKey data) = true ∧
        ∃ pkg ∈ (data.field "packages").items, isNamed pkg = true ∧
          ((pkg.field "externalRefs").iterableOrNothing = false ∨
            (lastLocator ["purl"] (pkg.field "externalRefs").items).textOrNothing = false) := by
  unfold parseSpdx
  rcases requiredSpdx_cases data with ⟨hall, hfind⟩ | ⟨hall, key, hfind⟩
  · rw [hfind, Option.elim_none, except_ok_bind, hall]
    rcases spdxPackages_cases (data.field "packages") with hitems | ⟨hnone, message, hitems⟩
    · rw [hitems, except_ok_bind, walk_error_iff spdx_round_error]
      simp only [parseSpdxPackage_error_iff, reduceCtorEq, and_false, false_or, true_and]
      refine ⟨fun h => h.2, fun h => ⟨?_, h⟩⟩
      obtain ⟨pkg, hmem, -⟩ := h
      rw [List.isEmpty_iff]
      exact List.ne_nil_of_mem hmem
    · rw [hitems, hnone]
      exact iff_of_false (by intro h; cases h) (by simp)
  · rw [hfind, hall]
    exact iff_of_false (by intro h; cases h) (by simp)

theorem parseSpdx_identities {data : Json} {parsed : ParsedSbom}
    (h : parseSpdx data = .ok parsed) :
    parsed.components.map ParsedComponent.raw = documentIdentities parsed.format data := by
  simp only [parseSpdx, except_bind_eq_ok] at h
  obtain ⟨_, -, packages, hpackages, _, -, components, hcomponents, h⟩ := h
  rw [← Except.ok.inj h]
  rcases spdxPackages_cases (data.field "packages") with hread | ⟨-, message, hread⟩
  · rw [hread] at hpackages
    rw [← Except.ok.inj hpackages] at hcomponents
    exact filterMap_of_mapM parseSpdxPackage_raw hcomponents
  · rw [hread] at hpackages
    cases hpackages

/-! ## All documents -/

/-- The entries that are read are of types that the parsers can read. -/
structure WellTyped (data : Json) : Prop where
  components : readsComponents data = true → ∀ comp ∈ (data.field "components").items,
    isNamed comp = true → (comp.field "purl").textOrNothing = true
  packages : readsPackages data = true → ∀ pkg ∈ (data.field "packages").items,
    isNamed pkg = true → (pkg.field "externalRefs").iterableOrNothing = true ∧
      (lastLocator ["purl"] (pkg.field "externalRefs").items).textOrNothing = true

/-- A document that was parsed keeps its entries. -/
theorem parse_identities {data : Json} {parsed : ParsedSbom} (h : parse data = .ok parsed) :
    parsed.components.map ParsedComponent.raw = documentIdentities parsed.format data := by
  rcases parse_eq_ok h with hparsed | hparsed
  · exact parseCyclonedx_identities hparsed
  · exact parseSpdx_identities hparsed

/-- What `parse` raises. -/
theorem parse_error {data : Json} {e : PyError} (h : parse data = .error e) :
    (∃ message, e = .valueError message) ∨ e = .typeError := by
  have hother : parseOther data = .error e → (∃ message, e = .valueError message) ∨ e = .typeError := by
    intro hother
    unfold parseOther at hother
    split_ifs at hother
    · exact parseSpdx_error hother
    · exact Or.inl ⟨_, (Except.error.inj hother).symm⟩
  unfold parse at h
  split at h
  · split_ifs at h
    · exact parseCyclonedx_error h
    · exact parseSpdx_error h
    · split at h
      · split at h
        · cases h
        · exact hother h
      · exact hother h
  · exact Or.inl ⟨_, (Except.error.inj h).symm⟩

/-- A document without `SPDXID` is refused with a message. -/
theorem parseOther_typeError {data : Json} (h : hasKey data "SPDXID" = false) :
    parseOther data ≠ .error .typeError := by
  unfold parseOther
  split_ifs
  · rw [Ne, parseSpdx_typeError_iff]
    rintro ⟨hall, -⟩
    simp [requiredSpdx, h] at hall
  · intro hother
    cases hother

theorem parse_of_detects {data : Json} (h : detectsCyclonedx data = true) :
    parse data = parseCyclonedx data := by
  cases data with
  | obj members => exact if_pos h
  | _ => cases h

theorem typeError_of_detects {data : Json} (h : detectsCyclonedx data = true) :
    parse data = .error .typeError ↔ readsComponents data = true ∧
      ∃ comp ∈ (data.field "components").items,
        isNamed comp = true ∧ (comp.field "purl").textOrNothing = false := by
  rw [parse_of_detects h, parseCyclonedx_typeError_iff]
  refine and_congr_left fun _ => ?_
  unfold detectsCyclonedx at h
  unfold readsComponents
  by_cases hformat : (data.field "bomFormat").isOneOf ["CycloneDX"] = true
  · simp [hformat]
  · have hkeys : (hasKey data "components" && hasKey data "bomFormat") = true := by
      simpa [hformat] using h
    simp [hformat, hkeys]

theorem typeError_of_not_detects {data : Json} (h : detectsCyclonedx data = false) :
    parse data = .error .typeError ↔ requiredSpdx.all (hasKey data) = true ∧
      ∃ pkg ∈ (data.field "packages").items, isNamed pkg = true ∧
        ((pkg.field "externalRefs").iterableOrNothing = false ∨
          (lastLocator ["purl"] (pkg.field "externalRefs").items).textOrNothing = false) := by
  rw [← parseSpdx_typeError_iff]
  by_cases hspdx : ((data.field "spdxVersion").truthy || hasKey data "SPDXID") = true
  · have hparse : parse data = parseSpdx data := by
      cases data with
      | obj members => exact (if_neg (by simpa [detectsCyclonedx] using h)).trans (if_pos hspdx)
      | _ => cases hspdx
    rw [hparse]
  · have hmissing : hasKey data "SPDXID" = false := by
      simp only [Bool.or_eq_true, not_or, Bool.not_eq_true] at hspdx
      exact hspdx.2
    refine iff_of_false ?_ ?_
    · have hother := parseOther_typeError hmissing
      unfold parse
      split
      · rw [if_neg (by simpa [detectsCyclonedx] using h), if_neg hspdx]
        split
        · -- what the first try raises is dropped
          split
          · simp
          · exact hother
        · exact hother
      · simp
    · rw [parseSpdx_typeError_iff]
      rintro ⟨hall, -⟩
      simp [requiredSpdx, hmissing] at hall

/-- A document raises `TypeError` where it is not of the types that the parsers read. -/
theorem parse_typeError_iff {data : Json} :
    parse data = .error .typeError ↔ ¬ WellTyped data := by
  by_cases hroute : detectsCyclonedx data = true
  · rw [typeError_of_detects hroute]
    have hpackages : readsPackages data = false := by
      simp [readsPackages, hroute]
    constructor
    · rintro ⟨hreads, comp, hmem, hnamed, hpurl⟩ htyped
      rw [htyped.components hreads comp hmem hnamed] at hpurl
      cases hpurl
    · intro huntyped
      by_contra hnone
      refine huntyped ⟨fun hreads comp hmem hnamed => ?_, by simp [hpackages]⟩
      by_contra hpurl
      exact hnone ⟨hreads, comp, hmem, hnamed, by simpa using hpurl⟩
  · rw [Bool.not_eq_true] at hroute
    rw [typeError_of_not_detects hroute]
    have hcomponents : readsComponents data = false := by
      unfold detectsCyclonedx at hroute
      rw [Bool.or_eq_false_iff] at hroute
      simp [readsComponents, hroute.1, hroute.2]
    have hpackages : readsPackages data = requiredSpdx.all (hasKey data) := by
      simp [readsPackages, hroute]
    rw [← hpackages]
    constructor
    · rintro ⟨hreads, pkg, hmem, hnamed, hrefs | hpurl⟩ htyped
      · rw [(htyped.packages hreads pkg hmem hnamed).1] at hrefs
        cases hrefs
      · rw [(htyped.packages hreads pkg hmem hnamed).2] at hpurl
        cases hpurl
    · intro huntyped
      by_contra hnone
      refine huntyped ⟨by simp [hcomponents], fun hreads pkg hmem hnamed => ?_⟩
      by_contra hbad
      rw [not_and_or, Bool.not_eq_true, Bool.not_eq_true] at hbad
      exact hnone ⟨hreads, pkg, hmem, hnamed, hbad⟩

end Parsing

end Sbom

end VulnOpsHub
