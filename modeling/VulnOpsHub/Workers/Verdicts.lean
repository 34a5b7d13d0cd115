import VulnOpsHub.Workers.Answers

set_option autoImplicit false

/-! # What a handling leaves under a key

A refresh writes some columns of an exposure, its verdict, and leaves the others. After all rounds of
a handling the exposure under a key has the verdict of the last finding with that key, whatever it
was before; so handling an event again with the same answers changes no verdict. -/

namespace VulnOpsHub

/-! ## Verdicts -/

/-- The columns of an exposure that a refresh writes, but for the time. -/
structure Verdict where
  matchClass : MatchClass
  confidence : ℚ
  priority : Option Priority
  policyVersion : Option String
  state : ExposureState
  matchedRules : Option (List String)
deriving DecidableEq, Repr

namespace Exposure

def verdict (e : Exposure) : Verdict :=
  ⟨e.matchClass, e.confidence, e.priority, e.policyVersion, e.state, e.matchedRules⟩

/-- The exposure with another verdict, seen at a time. -/
def judged (e : Exposure) (v : Verdict) (now : Instant) : Exposure :=
  { e with
    matchClass := v.matchClass
    confidence := v.confidence
    priority := v.priority
    policyVersion := v.policyVersion
    state := v.state
    matchedRules := v.matchedRules
    lastObservedAt := now }

variable (e : Exposure) (v v' : Verdict) (now now' : Instant)

@[simp] theorem id_judged : (e.judged v now).id = e.id := rfl

@[simp] theorem key_judged : (e.judged v now).key = e.key := rfl

@[simp] theorem verdict_judged : (e.judged v now).verdict = v := rfl

/-- The last verdict stands. -/
@[simp] theorem judged_judged : (e.judged v now).judged v' now' = e.judged v' now' := rfl

/-- The same verdict again changes the time alone. -/
theorem judged_verdict : e.judged e.verdict now = { e with lastObservedAt := now } := rfl

end Exposure

section Verdicts

variable [Python]

/-- The verdict of a finding over the rows `h`. -/
def Finding.verdict (f : Finding) (s : Sources) (h : Hub) : Verdict where
  matchClass := f.result.matchClass
  confidence := f.result.confidence
  priority := some (f.priority s h)
  policyVersion := some RiskPolicyEngine.policyVersion
  state := exposureState f.result.matchClass
  matchedRules := some f.result.matchedRules

/-- A result that names its rules. -/
def Finding.Ruled (f : Finding) : Prop := f.result.matchedRules ≠ []

variable {s : Sources} {eventId : String} {f : Finding} {h h' : Hub}

/-- A finding that names its rules refreshes an exposure to its verdict. -/
theorem Finding.Ruled.refreshed_eq (hrules : f.Ruled) (env : CallEnv) (e : Exposure) :
    (f.args s eventId h).refreshed env e = e.judged (f.verdict s h) (env.clock 10) := by
  have hversion : nonEmpty (f.args s eventId h).policyVersion
      = some RiskPolicyEngine.policyVersion := nonEmpty_eq_some.2 ⟨rfl, by decide⟩
  have hmatched : (f.args s eventId h).matchedRules.filter (· ≠ [])
      = some f.result.matchedRules := by
    show (some f.result.matchedRules).filter (· ≠ []) = _
    simp [Finding.Ruled] at hrules
    simp [hrules]
  unfold UpsertArgs.refreshed
  rw [hversion, hmatched]
  rfl

theorem Finding.verdict_newExposure (f : Finding) (env : CallEnv) :
    ((f.args s eventId h).newExposure env).verdict = f.verdict s h := rfl

theorem SameInputs.verdict (hsame : SameInputs h h') (f : Finding) :
    f.verdict s h' = f.verdict s h := by
  unfold Finding.verdict
  rw [hsame.priority]

/-- The same answers give alike findings the same verdict. -/
theorem Finding.Alike.verdict_eq {g : Finding} {s' : Sources} (halike : f.Alike g)
    (hkev : ∀ id, s'.isKev h' id = s.isKev h id) (hepss : ∀ id, s'.epssFor id = s.epssFor id) :
    f.verdict s' h' = g.verdict s h := by
  have hid : f.vulnerabilityId = g.vulnerabilityId := congrArg ExposureKey.vulnerabilityId halike.key_eq
  have hrules : f.result.matchedRules = g.result.matchedRules := by
    have h := congrArg ExposureResult.matchedRules halike.result_eq
    exact h
  unfold Finding.verdict Finding.priority
  rw [halike.matchClass_eq, halike.confidence_eq, hrules, hid, hkev, hepss]

/-! ## The last finding -/

/-- The last of the findings with a key. -/
def lastUnder (key : ExposureKey) : List Finding → Option Finding
  | [] => none
  | f :: fs => (lastUnder key fs).or (if f.key = key then some f else none)

omit [Python] in
theorem lastUnder_eq_none {key : ExposureKey} {fs : List Finding} :
    lastUnder key fs = none ↔ ∀ f ∈ fs, f.key ≠ key := by
  induction fs with
  | nil => simp [lastUnder]
  | cons f fs ih => simp [lastUnder, ih, and_comm]

omit [Python] in
theorem mem_of_lastUnder {key : ExposureKey} {fs : List Finding} (hlast : lastUnder key fs = some f) :
    f ∈ fs ∧ f.key = key := by
  induction fs with
  | nil => cases hlast
  | cons g fs ih =>
      unfold lastUnder at hlast
      rcases Option.or_eq_some_iff.1 hlast with hrest | ⟨-, hhead⟩
      · exact ⟨List.mem_cons_of_mem g (ih hrest).1, (ih hrest).2⟩
      · split_ifs at hhead with hkey
        cases hhead
        exact ⟨List.mem_cons_self, hkey⟩

omit [Python] in
theorem lastUnder_eq_getLast? (key : ExposureKey) (fs : List Finding) :
    lastUnder key fs = (fs.filter fun f => f.key = key).getLast? := by
  induction fs with
  | nil => rfl
  | cons f fs ih =>
      rw [lastUnder, ih]
      by_cases hkey : f.key = key
      · rw [if_pos hkey, List.filter_cons_of_pos (by simpa using hkey), List.getLast?_cons]
        cases (fs.filter fun f => f.key = key).getLast? <;> rfl
      · rw [if_neg hkey, List.filter_cons_of_neg (by simpa using hkey), Option.or_none]

omit [Python] in
theorem lastUnder_append (key : ExposureKey) (fs gs : List Finding) :
    lastUnder key (fs ++ gs) = (lastUnder key gs).or (lastUnder key fs) := by
  induction fs with
  | nil => rw [List.nil_append, lastUnder, Option.or_none]
  | cons f fs ih => rw [List.cons_append, lastUnder, lastUnder, ih, Option.or_assoc]

omit [Python] in
/-- Of lists of findings that are alike the last ones are. -/
theorem lastUnder_alike {key : ExposureKey} {fs gs : List Finding}
    (halike : fs.map Finding.unnumbered = gs.map Finding.unnumbered) :
    (lastUnder key fs).map Finding.unnumbered = (lastUnder key gs).map Finding.unnumbered := by
  have hlast : ∀ fs, lastUnder key (fs.map Finding.unnumbered)
      = (lastUnder key fs).map Finding.unnumbered := by
    intro fs
    induction fs with
    | nil => rfl
    | cons f fs ih =>
        rw [List.map_cons, lastUnder, lastUnder, ih, Finding.key_unnumbered]
        split_ifs <;> simp
  rw [← hlast, halike, hlast]

variable {o : Handling} {i : ℕ} {fs : List Finding}

/-- A round gives the exposure under its key the verdict of its finding. -/
theorem Finding.Round.judges (hround : f.Round o eventId i h h') (hrules : f.Ruled) :
    ∃ e', h'.exposureAt f.key = some e' ∧ e'.verdict = f.verdict o.sources h ∧
      ∀ e, h.exposureAt f.key = some e → ∃ now, e' = e.judged (f.verdict o.sources h) now := by
  refine ⟨_, hround.exposureAt, ?_, fun e he => ⟨(o.env i).clock 10, ?_⟩⟩
  · unfold Finding.outcome UpsertArgs.outcome
    split
    · rw [hrules.refreshed_eq, Exposure.verdict_judged]
    · exact f.verdict_newExposure _
  · unfold Finding.outcome
    rw [he]
    exact hrules.refreshed_eq _ _

/-- **After all rounds** the exposure under a key has the verdict of the last finding with it, and
    everything else as it was, if it was there. -/
theorem Rounds.judge (hrounds : Rounds o eventId i fs h h') (hrules : ∀ g ∈ fs, g.Ruled)
    {key : ExposureKey} (hlast : lastUnder key fs = some f) :
    ∃ e', h'.exposureAt key = some e' ∧ e'.verdict = f.verdict o.sources h ∧
      ∀ e, h.exposureAt key = some e → ∃ now, e' = e.judged (f.verdict o.sources h) now := by
  induction hrounds with
  | nil => cases hlast
  | @cons i g fs h h₁ h' round rest ih =>
      have hg : g.Ruled := hrules g List.mem_cons_self
      have hrest : ∀ g ∈ fs, g.Ruled := fun g hg => hrules g (List.mem_cons_of_mem _ hg)
      unfold lastUnder at hlast
      rcases Option.or_eq_some_iff.1 hlast with hlater | ⟨hnone, hhead⟩
      · obtain ⟨e', he', hverdict, hkept⟩ := ih hrest hlater
        rw [round.sameInputs.verdict] at hverdict hkept
        refine ⟨e', he', hverdict, fun e he => ?_⟩
        -- the verdict of this round does not stand
        by_cases hkey : g.key = key
        · subst hkey
          obtain ⟨e₁, he₁, -, hjudged⟩ := round.judges hg
          obtain ⟨now, rfl⟩ := hjudged e he
          obtain ⟨later, rfl⟩ := hkept _ he₁
          exact ⟨later, rfl⟩
        · exact hkept e (by rw [round.exposureAt_of_ne (Ne.symm hkey), he])
      · split_ifs at hhead with hkey
        cases hhead
        subst hkey
        rw [rest.exposureAt_of_ne (lastUnder_eq_none.1 hnone)]
        exact round.judges hg

/-! ## The other rows -/

/-- A round leaves alone every exposure but the first under its key. -/
theorem Finding.Round.mem_exposures (hround : f.Round o eventId i h h') {e : Exposure}
    (he : e ∈ h.exposures.rows) (hne : h.exposureAt f.key ≠ some e) : e ∈ h'.exposures.rows := by
  obtain ⟨h₁, hstored, hexposures⟩ := hround.stored_eq
  rw [hexposures, (UpsertArgs.effect_of_flush hstored).exposures]
  unfold UpsertArgs.recorded
  rw [Finding.key_args]
  cases hexisting : h.exposures.rows.find? fun e => e.key = f.key with
  | none => exact List.mem_append_left _ he
  | some y =>
      refine List.mem_map.2 ⟨e, he, if_neg fun hid => hne ?_⟩
      rw [Table.eq_of_exposureId he (Hub.exposureAt_eq_some hexisting).1 hid]
      exact hexisting

/-- A handling leaves alone every exposure but the first ones under the keys of its findings. -/
theorem Rounds.mem_exposures (hrounds : Rounds o eventId i fs h h') {e : Exposure}
    (he : e ∈ h.exposures.rows)
    (hne : ∀ f ∈ fs, f.key = e.key → h.exposureAt e.key ≠ some e) : e ∈ h'.exposures.rows := by
  induction hrounds with
  | nil => exact he
  | @cons i g fs h h₁ h' round rest ih =>
      have hfirst : h.exposureAt g.key ≠ some e := by
        intro hat
        have hkey : e.key = g.key := (Hub.exposureAt_eq_some hat).2
        exact hne g List.mem_cons_self hkey.symm (by rw [hkey]; exact hat)
      refine ih (round.mem_exposures he hfirst) fun f hf hkey => ?_
      by_cases hg : g.key = e.key
      · rw [← hg, round.exposureAt]
        -- the first exposure under the key keeps its id
        intro hat
        cases hexisting : h.exposureAt g.key with
        | none =>
            have hno := List.find?_eq_none.1 hexisting e he
            simp [hg] at hno
        | some y =>
            have hid : y.id = e.id := by
              rw [← Option.some.inj hat]
              unfold Finding.outcome
              rw [hexisting]
              rfl
            obtain rfl := Table.eq_of_exposureId (Hub.exposureAt_eq_some hexisting).1 he hid
            exact hfirst hexisting
      · rw [round.exposureAt_of_ne (Ne.symm hg)]
        exact hne f (List.mem_cons_of_mem _ hf) hkey

/-- The findings of an event name their rules. -/
theorem ruled_of_findingsOf [Packaging] {event : OutboxEvent}
    (hfs : findingsOf o event h = .ok fs) : ∀ f ∈ fs, f.Ruled := by
  refine forall_of_findingsOf hfs ?_ ?_ ?_
  · exact fun _ _ _ _ => evaluate_rules
  · exact fun _ _ _ => evaluate_rules
  · intro fields records uuid
    show (wazuhAdjusted fields _ _).matchedRules ≠ []
    unfold wazuhAdjusted
    split_ifs
    · simp
    · exact evaluate_rules

end Verdicts

end VulnOpsHub
