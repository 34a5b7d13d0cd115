import VulnOpsHub.Integrations.Mapping
import VulnOpsHub.Lib.Scan

set_option autoImplicit false

/-! # What a list of hints decides

`map_hints` goes through its hints in order and returns at the first one that is resolved or
ambiguous. So it sees no conflict with a later hint: its answer is independent of the order, and names
an asset only when no hint speaks against it, exactly when the hints that decide anything decide the
same. -/

namespace VulnOpsHub

section Hints

variable [Python] [Driver]

/-! ## A single hint -/

/-- What `reconcile_alias` answers for a hint; a hint without namespace or value is skipped. -/
def hintAnswer (aliases : List AssetAlias) (organizationId : String) (hint : Json) :
    Except PyError (Option MappingResult) := do
  let ns ← hint.get "namespace"
  let value ← hint.get "value"
  if !ns.truthy || !value.truthy then pure none
  else do
    let result ← reconcileAlias aliases ns value (some organizationId)
    pure (some result)

/-- The aliases of the hint collide. -/
def HintAmbiguous (aliases : List AssetAlias) (organizationId : String) (hint : Json) : Prop :=
  ∃ r, hintAnswer aliases organizationId hint = .ok (some r) ∧ r.status = .ambiguous

/-- The hint has one alias, which is the asset's. -/
def HintResolves (aliases : List AssetAlias) (organizationId : String) (hint : Json)
    (assetId : String) : Prop :=
  ∃ r, hintAnswer aliases organizationId hint = .ok (some r) ∧ r.status = .resolved ∧
    r.assetId = some assetId

/-- Reading the hint raises: it is no object, or the database refuses its values. -/
def HintRefused (aliases : List AssetAlias) (organizationId : String) (hint : Json) : Prop :=
  ∃ e, hintAnswer aliases organizationId hint = .error e

/-! ## All hints -/

/-- The status and the asset of a mapping. -/
def MappingResult.verdict (r : MappingResult) : AliasStatus × Option String := (r.status, r.assetId)

/-- What `map_hints` returns, without its reason; `none` when it raises. -/
def mappedTo (aliases : List AssetAlias) (organizationId : String) (hints : List Json) :
    Option (AliasStatus × Option String) :=
  (mapHints aliases hints organizationId).toOption.map MappingResult.verdict

/-- The mapper does not guess: the order of the hints does not matter, an asset is named only when
    no hint speaks against it, and a conflict is answered as one. -/
structure NeverGuesses (aliases : List AssetAlias) (organizationId : String) (hints : List Json) :
    Prop where
  anyOrder : ∀ hints', hints'.Perm hints →
    mappedTo aliases organizationId hints' = mappedTo aliases organizationId hints
  resolved : ∀ assetId, mappedTo aliases organizationId hints = some (.resolved, some assetId) →
    ∀ hint ∈ hints, ¬ HintAmbiguous aliases organizationId hint ∧
      ∀ other, HintResolves aliases organizationId hint other → other = assetId
  ambiguous : (∃ hint ∈ hints, HintAmbiguous aliases organizationId hint) ∨
      (∃ hint ∈ hints, ∃ hint' ∈ hints, ∃ assetId other, assetId ≠ other ∧
        HintResolves aliases organizationId hint assetId ∧
        HintResolves aliases organizationId hint' other) →
    mappedTo aliases organizationId hints = some (.ambiguous, none)

/-- No two hints decide differently. -/
structure HintsAgree (aliases : List AssetAlias) (organizationId : String) (hints : List Json) :
    Prop where
  resolved : ∀ hint ∈ hints, ∀ hint' ∈ hints, ∀ assetId other,
    HintResolves aliases organizationId hint assetId →
      HintResolves aliases organizationId hint' other → assetId = other
  ambiguous : ∀ hint ∈ hints, ∀ hint' ∈ hints, HintAmbiguous aliases organizationId hint →
    ∀ assetId, ¬ HintResolves aliases organizationId hint' assetId
  refused : ∀ hint ∈ hints, ∀ hint' ∈ hints, HintRefused aliases organizationId hint →
    ¬ HintAmbiguous aliases organizationId hint' ∧
      ∀ assetId, ¬ HintResolves aliases organizationId hint' assetId

/-! ## The scan -/

variable {aliases : List AssetAlias} {organizationId : String} {hint : Json} {hints : List Json}

/-- What a hint ends the scan with, if it does: `some none` when it raises. -/
def decision (aliases : List AssetAlias) (organizationId : String) (hint : Json) :
    Option (Option (AliasStatus × Option String)) :=
  match hintAnswer aliases organizationId hint with
  | .error _ => some none
  | .ok answer => ((answer.bind MappingResult.settled?).map MappingResult.verdict).map some

omit [Driver] in
/-- Found aliases resolve to an asset, collide, or say nothing. -/
theorem verdict_reconciled (ns value : Json) (found : List AssetAlias) :
    (∃ assetId, (reconciled ns value found).verdict = (.resolved, some assetId)) ∨
      (reconciled ns value found).verdict = (.ambiguous, none) ∨
      (reconciled ns value found).verdict = (.notFound, none) := by
  unfold reconciled MappingResult.verdict
  split
  · split <;> exact Or.inr (Or.inr rfl)
  · exact Or.inl ⟨_, rfl⟩
  · exact Or.inr (Or.inl rfl)

/-- The answers of a hint. -/
theorem hintAnswer_cases {r : MappingResult}
    (h : hintAnswer aliases organizationId hint = .ok (some r)) :
    (∃ assetId, r.verdict = (.resolved, some assetId)) ∨ r.verdict = (.ambiguous, none) ∨
      r.verdict = (.notFound, none) := by
  unfold hintAnswer at h
  obtain ⟨ns, -, h⟩ := except_bind_eq_ok.1 h
  obtain ⟨value, -, h⟩ := except_bind_eq_ok.1 h
  split at h
  · cases h
  · obtain ⟨result, hresult, h⟩ := except_bind_eq_ok.1 h
    obtain ⟨n, -, hresult⟩ := except_bind_eq_ok.1 hresult
    obtain ⟨v, -, hresult⟩ := except_bind_eq_ok.1 hresult
    cases h
    rw [← Except.ok.inj hresult]
    exact verdict_reconciled ns value _

theorem decision_refused :
    decision aliases organizationId hint = some none ↔ HintRefused aliases organizationId hint := by
  unfold decision HintRefused
  cases hintAnswer aliases organizationId hint with
  | error e => simp
  | ok answer =>
      refine iff_of_false (fun h => ?_) (by simp)
      obtain ⟨v, -, hv⟩ := Option.map_eq_some_iff.1 h
      cases hv

/-- A hint that is answered decides by its verdict. -/
theorem decision_of_answer {r : MappingResult}
    (h : hintAnswer aliases organizationId hint = .ok (some r)) :
    decision aliases organizationId hint =
      if r.status = .notFound then none else some (some r.verdict) := by
  have hdecision : decision aliases organizationId hint =
      (r.settled?.map MappingResult.verdict).map some := by
    unfold decision
    rw [h]
    rfl
  obtain ⟨status, assetId, reason⟩ := r
  rw [hdecision]
  rcases hintAnswer_cases h with ⟨a, ha⟩ | ha | ha
  all_goals
    obtain ⟨hstatus, hasset⟩ := Prod.mk.inj ha
    simp only at hstatus hasset
    subst hstatus hasset
    simp [MappingResult.settled?, MappingResult.verdict]

theorem decision_some {v : AliasStatus × Option String} :
    decision aliases organizationId hint = some (some v) ↔
      ∃ r, hintAnswer aliases organizationId hint = .ok (some r) ∧ r.status ≠ .notFound ∧
        r.verdict = v := by
  constructor
  · intro h
    cases hanswer : hintAnswer aliases organizationId hint with
    | error e => simp [decision, hanswer] at h
    | ok answer =>
        cases answer with
        | none => simp [decision, hanswer] at h
        | some r =>
            rw [decision_of_answer hanswer] at h
            split_ifs at h with hstatus
            exact ⟨r, rfl, hstatus, Option.some.inj (Option.some.inj h)⟩
  · rintro ⟨r, hanswer, hstatus, rfl⟩
    rw [decision_of_answer hanswer, if_neg hstatus]

theorem decision_resolved {assetId : String} :
    decision aliases organizationId hint = some (some (.resolved, some assetId)) ↔
      HintResolves aliases organizationId hint assetId := by
  rw [decision_some]
  constructor
  · rintro ⟨r, hanswer, -, hverdict⟩
    exact ⟨r, hanswer, (Prod.mk.inj hverdict).1, (Prod.mk.inj hverdict).2⟩
  · rintro ⟨r, hanswer, hstatus, hasset⟩
    exact ⟨r, hanswer, by simp [hstatus], Prod.ext hstatus hasset⟩

theorem decision_ambiguous :
    decision aliases organizationId hint = some (some (.ambiguous, none)) ↔
      HintAmbiguous aliases organizationId hint := by
  rw [decision_some]
  constructor
  · rintro ⟨r, hanswer, -, hverdict⟩
    exact ⟨r, hanswer, (Prod.mk.inj hverdict).1⟩
  · rintro ⟨r, hanswer, hstatus⟩
    refine ⟨r, hanswer, by simp [hstatus], ?_⟩
    rcases hintAnswer_cases hanswer with ⟨a, ha⟩ | ha | ha
    · rw [(Prod.mk.inj ha).1] at hstatus
      cases hstatus
    · exact ha
    · rw [(Prod.mk.inj ha).1] at hstatus
      cases hstatus

/-- A hint that decides is refused, ambiguous or resolved. -/
theorem decision_cases {v : Option (AliasStatus × Option String)}
    (h : decision aliases organizationId hint = some v) :
    v = none ∨ v = some (.ambiguous, none) ∨ ∃ assetId, v = some (.resolved, some assetId) := by
  cases v with
  | none => exact Or.inl rfl
  | some v =>
      obtain ⟨r, hanswer, hstatus, rfl⟩ := decision_some.1 h
      rcases hintAnswer_cases hanswer with ⟨a, ha⟩ | ha | ha
      · exact Or.inr (Or.inr ⟨a, congrArg some ha⟩)
      · exact Or.inr (Or.inl (congrArg some ha))
      · exact absurd (Prod.mk.inj ha).1 hstatus

/-- A round of the loop: a hint that decides nothing is passed over. -/
theorem mapHintsLoop_cons (hint : Json) (rest : List Json) :
    (mapHintsLoop aliases organizationId (hint :: rest)).toOption.map MappingResult.verdict =
      (decision aliases organizationId hint).getD
        ((mapHintsLoop aliases organizationId rest).toOption.map MappingResult.verdict) := by
  unfold decision hintAnswer
  rw [mapHintsLoop]
  cases hint.get "namespace" with
  | error e => rfl
  | ok ns =>
      cases hint.get "value" with
      | error e => rfl
      | ok value =>
          simp only [except_ok_bind]
          split
          · rfl
          · cases reconcileAlias aliases ns value (some organizationId) with
            | error e => rfl
            | ok result =>
                cases hsettled : result.settled? with
                | none => simp [hsettled, pure, Except.pure]
                | some r => simp [hsettled, pure, Except.pure, Except.toOption]

/-- **The loop returns what the first deciding hint decides.** -/
theorem mappedTo_eq (hints : List Json) : mappedTo aliases organizationId hints =
    (hints.findSome? (decision aliases organizationId)).getD (some (.notFound, none)) := by
  have hloop : ∀ hints : List Json,
      (mapHintsLoop aliases organizationId hints).toOption.map MappingResult.verdict =
        (hints.findSome? (decision aliases organizationId)).getD (some (.notFound, none)) := by
    intro hints
    induction hints with
    | nil => rfl
    | cons hint rest ih =>
        rw [mapHintsLoop_cons, ih, List.findSome?_cons]
        cases decision aliases organizationId hint <;> rfl
  unfold mappedTo mapHints
  split
  · next hempty =>
      rw [List.isEmpty_iff.1 hempty]
      rfl
  · exact hloop hints

theorem hintsAgree_iff : HintsAgree aliases organizationId hints ↔
    Agree (decision aliases organizationId) hints := by
  constructor
  · intro h x hx y hy b c hb hc
    rcases decision_cases hb with rfl | rfl | ⟨a, rfl⟩
    · have hnone := h.refused x hx y hy (decision_refused.1 hb)
      rcases decision_cases hc with rfl | rfl | ⟨a, rfl⟩
      · rfl
      · exact absurd (decision_ambiguous.1 hc) hnone.1
      · exact absurd (decision_resolved.1 hc) (hnone.2 a)
    · rcases decision_cases hc with rfl | rfl | ⟨a, rfl⟩
      · exact absurd (decision_ambiguous.1 hb) (h.refused y hy x hx (decision_refused.1 hc)).1
      · rfl
      · exact absurd (decision_resolved.1 hc) (h.ambiguous x hx y hy (decision_ambiguous.1 hb) a)
    · rcases decision_cases hc with rfl | rfl | ⟨a', rfl⟩
      · exact absurd (decision_resolved.1 hb) ((h.refused y hy x hx (decision_refused.1 hc)).2 a)
      · exact absurd (decision_resolved.1 hb) (h.ambiguous y hy x hx (decision_ambiguous.1 hc) a)
      · rw [h.resolved x hx y hy a a' (decision_resolved.1 hb) (decision_resolved.1 hc)]
  · intro h
    refine ⟨fun x hx y hy a b ha hb => ?_, fun x hx y hy ha b hb => ?_, fun x hx y hy hr => ⟨?_, ?_⟩⟩
    · simpa using h x hx y hy _ _ (decision_resolved.2 ha) (decision_resolved.2 hb)
    · simpa using h x hx y hy _ _ (decision_ambiguous.2 ha) (decision_resolved.2 hb)
    · intro ha
      simpa using h x hx y hy _ _ (decision_refused.2 hr) (decision_ambiguous.2 ha)
    · intro a ha
      simpa using h x hx y hy _ _ (decision_refused.2 hr) (decision_resolved.2 ha)

/-- Hints that agree are mapped to what any of them decides. -/
theorem Agree.mappedTo_eq (h : Agree (decision aliases organizationId) hints) (hmem : hint ∈ hints)
    {v : Option (AliasStatus × Option String)}
    (hv : decision aliases organizationId hint = some v) :
    mappedTo aliases organizationId hints = v := by
  rw [VulnOpsHub.mappedTo_eq, h.findSome?_eq hmem hv]
  rfl

/-- The answer that all deciding hints give does not name an asset against any of them. -/
theorem Agree.neverGuesses (h : Agree (decision aliases organizationId) hints) :
    NeverGuesses aliases organizationId hints := by
  have hagree := hintsAgree_iff.2 h
  refine ⟨fun hints' hperm => ?_, fun assetId hmapped hint hmem => ?_, ?_⟩
  · rw [VulnOpsHub.mappedTo_eq, VulnOpsHub.mappedTo_eq, h.findSome?_perm hperm]
  · constructor
    · intro hambiguous
      rw [h.mappedTo_eq hmem (decision_ambiguous.2 hambiguous)] at hmapped
      cases hmapped
    · intro other hresolves
      rw [h.mappedTo_eq hmem (decision_resolved.2 hresolves)] at hmapped
      simpa using hmapped
  · rintro (⟨hint, hmem, hambiguous⟩ | ⟨hint, hmem, hint', hmem', assetId, other, hne, ha, hb⟩)
    · exact h.mappedTo_eq hmem (decision_ambiguous.2 hambiguous)
    · exact absurd (hagree.resolved hint hmem hint' hmem' assetId other ha hb) hne

/-- Hints whose order does not matter agree, unless one of them comes to the default of the loop. -/
theorem NeverGuesses.agree (h : NeverGuesses aliases organizationId hints) :
    Agree (decision aliases organizationId) hints := by
  refine agree_iff_perm.2 fun hints' hperm => ?_
  have horder := h.anyOrder hints' hperm
  rw [mappedTo_eq, mappedTo_eq] at horder
  -- no hint decides that nothing was found, so the default tells that there is no deciding hint
  have hne : ∀ hints : List Json,
      hints.findSome? (decision aliases organizationId) ≠ some (some (.notFound, none)) := by
    intro hints hfound
    obtain ⟨hint, -, hdecision⟩ := List.exists_of_findSome?_eq_some hfound
    rcases decision_cases hdecision with hcase | hcase | ⟨a, hcase⟩ <;> simp at hcase
  cases hfirst : hints'.findSome? (decision aliases organizationId) with
  | none =>
      cases hsecond : hints.findSome? (decision aliases organizationId) with
      | none => rfl
      | some v =>
          rw [hfirst, hsecond] at horder
          exact absurd (hsecond.trans (congrArg some horder.symm)) (hne hints)
  | some v =>
      cases hsecond : hints.findSome? (decision aliases organizationId) with
      | none =>
          rw [hfirst, hsecond] at horder
          exact absurd (hfirst.trans (congrArg some horder)) (hne hints')
      | some w =>
          rw [hfirst, hsecond] at horder
          exact congrArg some horder

/-- **The mapper does not guess exactly when no two hints decide differently.** -/
theorem neverGuesses_iff (aliases : List AssetAlias) (organizationId : String) (hints : List Json) :
    NeverGuesses aliases organizationId hints ↔ HintsAgree aliases organizationId hints :=
  ⟨fun h => hintsAgree_iff.2 h.agree, fun h => (hintsAgree_iff.1 h).neverGuesses⟩

end Hints

/-- The host name and the address of a finding, known as different assets. -/
def sampleConflict : List AssetAlias :=
  [⟨"alias_1", "ast_1", "hostname", "web-1", "org"⟩, ⟨"alias_2", "ast_2", "ip", "10.0.0.2", "org"⟩]

/-- Two hints that resolve to different assets: the first one in the list decides. -/
theorem first_hint_decides :
    ¬ @NeverGuesses asciiPython sqliteDriver sampleConflict "org"
      [.obj [("namespace", .str "hostname"), ("value", .str "web-1")],
        .obj [("namespace", .str "ip"), ("value", .str "10.0.0.2")]] := by
  intro h
  have hmapped := @NeverGuesses.ambiguous asciiPython sqliteDriver _ _ _ h (Or.inr
    ⟨_, List.mem_cons_self, _, List.mem_cons_of_mem _ List.mem_cons_self, "ast_1", "ast_2",
      by decide, ⟨_, rfl, rfl, rfl⟩, ⟨_, rfl, rfl, rfl⟩⟩)
  have hfirst : @mappedTo asciiPython sqliteDriver sampleConflict "org"
      [.obj [("namespace", .str "hostname"), ("value", .str "web-1")],
        .obj [("namespace", .str "ip"), ("value", .str "10.0.0.2")]]
      = some (.resolved, some "ast_1") := by
    decide +kernel
  rw [hfirst] at hmapped
  simp at hmapped

end VulnOpsHub
