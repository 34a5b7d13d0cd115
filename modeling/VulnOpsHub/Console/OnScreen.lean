import VulnOpsHub.Console.Stores
import Mathlib.Tactic.IntervalCases

set_option autoImplicit false

/-! # The case on screen

The page of a case shows what the store of `caseDetail.ts` holds, and the actions of the page are about
the case in the store. The store only knows clears: the responses of a fetch are stored whenever they
arrive, also when another case has been asked for since. -/

namespace VulnOpsHub.Console

/-! ## Cases of requests and responses -/

/-- The case a request is about. -/
def Request.caseId? : Request → Option String
  | .getCase _ caseId => some caseId
  | .getAllowed _ caseId => some caseId
  | .listRiskDecisions _ caseId => some caseId
  | .listVerifications _ caseId => some caseId
  | .transition _ caseId _ _ _ => some caseId
  | .createRiskDecision _ caseId _ => some caseId
  | .submitVerification _ caseId _ => some caseId
  | _ => none

/-- The response has the type of the call, and is about the case that was asked for. -/
def Request.fits : Request → Answer → Bool
  | .getCase _ caseId, .caseDetail detail => detail.id = caseId
  | .getAllowed _ caseId, .allowed targets => targets.all fun t => t.caseId = caseId
  | .listRiskDecisions _ caseId, .decisions items => items.all fun d => d.caseId = caseId
  | .listVerifications _ caseId, .verifications items => items.all fun v => v.caseId = caseId
  | r, a => r.typed a

/-- All that the store holds belongs to the case. -/
structure CaseDetailStore.BelongsTo (s : CaseDetailStore) (caseId : String) : Prop where
  detail : ∀ d ∈ s.detail, d.id = caseId
  allowed : ∀ t ∈ s.allowed, t.caseId = caseId
  decisions : ∀ d ∈ s.decisions, d.caseId = caseId
  verifications : ∀ v ∈ s.verifications, v.caseId = caseId

/-! ## Runs -/

/-- `transition`, `decide` or `verify`. -/
def CaseDetailAction.acts : CaseDetailAction → Bool
  | .transition _ _ => true
  | .decide _ => true
  | .verify _ => true
  | _ => false

abbrev DetailTab := Tab CaseDetailStore Request Answer

abbrev DetailEvent := Tab.Event CaseDetailAction Answer

/-- The actions, with responses about the cases asked for. -/
abbrev detailActions : Actions CaseDetailAction CaseDetailStore Request Answer :=
  caseDetailActions Request.fits

/-- The case a page navigates to: `fetchAll` as the page calls it. -/
def navigated : DetailEvent → Option String
  | .start (.fetchAll caseId) => some caseId
  | _ => none

/-- The case of the last `fetchAll` issued by navigation. -/
def lastNavigation (events : List DetailEvent) : Option String := (events.filterMap navigated).getLast?

/-- The case whose data a request fetches. -/
def Request.loads : Request → Option String
  | .getCase _ caseId => some caseId
  | _ => none

/-- The case for which an event brings the responses of a fetch. -/
def landing (t : DetailTab) : DetailEvent → Option String
  | .settle i (some _) => (t.routines[i]?).bind fun r => r.awaited.findSome? Request.loads
  | _ => none

/-- The cases for which the responses of a fetch arrive, in the order of their arrival. -/
def landings (t : DetailTab) : List DetailEvent → List String
  | [] => []
  | e :: rest =>
      (landing t e).toList ++ (t.step detailActions e).elim [] fun u => landings u rest

/-- A new tab. -/
def DetailTab.new (org : String) (generation : ℕ) : DetailTab :=
  .opened (.initial org generation)

/-- Whenever nothing is awaited, the store belongs to the case navigated to last; and an action that is
    started sends no request about another. -/
structure OnScreen (org : String) (generation : ℕ) (events : List DetailEvent) : Prop where
  settled : ∀ before after t c, events = before ++ after →
    (DetailTab.new org generation).run detailActions before = some t → t.Settled →
      lastNavigation before = some c → t.store.BelongsTo c
  sent : ∀ before a after t c, events = before ++ .start a :: after →
    (DetailTab.new org generation).run detailActions before = some t → a.acts = true →
      lastNavigation before = some c →
        ∀ r ∈ ((detailActions.body a).advance t.store).2.awaited, r.caseId? = some c

/-- The responses of a fetch that arrived last, if any did, are those for the case `c`. -/
def LastFor (c : String) (landed : List String) : Prop := ∀ x ∈ landed.getLast?, x = c

/-- Whenever nothing is awaited, and whenever an action is started, the fetch whose responses arrived
    last was for the case navigated to last. -/
structure InOrder (org : String) (generation : ℕ) (events : List DetailEvent) : Prop where
  settled : ∀ before after t c, events = before ++ after →
    (DetailTab.new org generation).run detailActions before = some t → t.Settled →
      lastNavigation before = some c → LastFor c (landings (.new org generation) before)
  acting : ∀ before a after t c, events = before ++ .start a :: after →
    (DetailTab.new org generation).run detailActions before = some t → a.acts = true →
      lastNavigation before = some c → LastFor c (landings (.new org generation) before)

/-! ## What a fetch stores -/

namespace CaseDetailStore

/-- The store holds what a fetch for the case brought, or nothing. -/
structure Shows (s : CaseDetailStore) (x : Option String) : Prop where
  detail : s.detail.map (·.id) = x
  belongs : ∀ c ∈ x, s.BelongsTo c
  blank : x = none → s.allowed = [] ∧ s.decisions = [] ∧ s.verifications = []

theorem Shows.belongsTo_iff {s : CaseDetailStore} {x : Option String} (h : s.Shows x) {c : String} :
    s.BelongsTo c ↔ ∀ y ∈ x, y = c := by
  constructor
  · intro hc y hy
    obtain ⟨d, hd, rfl⟩ := Option.map_eq_some_iff.1 (h.detail.trans hy)
    exact hc.detail d hd
  · intro hx
    cases x with
    | some y =>
        obtain rfl := hx y rfl
        exact h.belongs y rfl
    | none =>
        obtain ⟨ha, hd, hv⟩ := h.blank rfl
        have hdetail : s.detail = none := by simpa using h.detail
        constructor <;> simp [ha, hd, hv, hdetail]

/-- What the store holds of a case does not change with its other fields. -/
theorem Shows.congr {s t : CaseDetailStore} {x : Option String} (h : s.Shows x)
    (hdetail : t.detail = s.detail) (hallowed : t.allowed = s.allowed)
    (hdecisions : t.decisions = s.decisions) (hverifications : t.verifications = s.verifications) :
    t.Shows x := by
  refine ⟨hdetail ▸ h.detail, fun c hc => ?_, ?_⟩
  · obtain ⟨h1, h2, h3, h4⟩ := h.belongs c hc
    exact ⟨hdetail ▸ h1, hallowed ▸ h2, hdecisions ▸ h3, hverifications ▸ h4⟩
  · rw [hallowed, hdecisions, hverifications]
    exact h.blank

theorem shows_initial (org : String) (generation : ℕ) : (initial org generation).Shows none :=
  ⟨rfl, fun _ hc => (Option.not_mem_none _ hc).elim, fun _ => ⟨rfl, rfl, rfl⟩⟩

attribute [local simp] Request.fits

theorem fits_getCase {org c : String} {a : Answer} (h : Request.fits (.getCase org c) a = true) :
    ∃ d, a = .caseDetail d ∧ d.id = c := by
  cases a with
  | caseDetail d => exact ⟨d, rfl, by simpa using h⟩
  | _ => cases h

theorem fits_getAllowed {org c : String} {a : Answer}
    (h : Request.fits (.getAllowed org c) a = true) :
    ∃ targets, a = .allowed targets ∧ ∀ t ∈ targets, t.caseId = c := by
  cases a with
  | allowed targets => exact ⟨targets, rfl, by simpa using h⟩
  | _ => cases h

theorem fits_listRiskDecisions {org c : String} {a : Answer}
    (h : Request.fits (.listRiskDecisions org c) a = true) :
    ∃ items, a = .decisions items ∧ ∀ d ∈ items, d.caseId = c := by
  cases a with
  | decisions items => exact ⟨items, rfl, by simpa using h⟩
  | _ => cases h

theorem fits_listVerifications {org c : String} {a : Answer}
    (h : Request.fits (.listVerifications org c) a = true) :
    ∃ items, a = .verifications items ∧ ∀ v ∈ items, v.caseId = c := by
  cases a with
  | verifications items => exact ⟨items, rfl, by simpa using h⟩
  | _ => cases h

/-- The responses to the requests of a fetch are stored whole. -/
theorem shows_install {org c : String} {answers : List Answer}
    (h : Routine.answered Request.fits (caseRequests org c) answers = true) (s : CaseDetailStore) :
    (install answers s).Shows (some c) := by
  simp only [caseRequests, Routine.answered_cons, Routine.answered_nil] at h
  obtain ⟨a₁, _, rfl, h₁, a₂, _, rfl, h₂, a₃, _, rfl, h₃, a₄, _, rfl, h₄, rfl⟩ := h
  obtain ⟨detail, rfl, rfl⟩ := fits_getCase h₁
  obtain ⟨targets, rfl, hallowed⟩ := fits_getAllowed h₂
  obtain ⟨decisions, rfl, hdecisions⟩ := fits_listRiskDecisions h₃
  obtain ⟨verifications, rfl, hverifications⟩ := fits_listVerifications h₄
  refine ⟨rfl, fun x hx => ?_, fun hx => by cases hx⟩
  cases hx
  exact ⟨fun d hd => by cases hd; rfl, hallowed, hdecisions, hverifications⟩

end CaseDetailStore

/-! ## Waiting actions -/

/-- `finally` of a fetch. -/
abbrev loadedScript (generation : ℕ) : Script CaseDetailStore :=
  finish CaseDetailStore.generation (fun s => { s with loading := false }) generation

/-- A fetch for the case, awaiting its responses. -/
def loadScript (generation : ℕ) (org caseId : String) : Script CaseDetailStore :=
  .await (CaseDetailStore.caseRequests org caseId)
    (fun answers => unlessCleared CaseDetailStore.generation generation
      (.set (CaseDetailStore.install answers) (loadedScript generation)) (loadedScript generation))
    (loadedScript generation)

/-- An action about the case, awaiting the response to its request. -/
def actScript (generation : ℕ) (request : Request) (caseId : String) : Script CaseDetailStore :=
  .await [request]
    (fun _ => unlessCleared CaseDetailStore.generation generation
      (CaseDetailStore.fetchAll caseId) .done)
    .done

/-- What the actions are when they wait or have ended, in a store that is never cleared. -/
inductive Pending (generation : ℕ) : Script CaseDetailStore → Prop where
  | done : Pending generation .done
  | load (org caseId : String) : Pending generation (loadScript generation org caseId)
  | act (request : Request) (caseId : String) (h : request.loads = none) :
      Pending generation (actScript generation request caseId)

/-- The store shows the case `x`, and every action waits or has ended. -/
structure DetailTab.Shown (generation : ℕ) (x : Option String) (t : DetailTab) : Prop where
  current : t.store.generation = generation
  shows : t.store.Shows x
  pending : ∀ r ∈ t.routines, Pending generation r

/-- An action has run until it waits: the store shows the case `x`. -/
structure Waits (generation : ℕ) (x : Option String)
    (ran : CaseDetailStore × Script CaseDetailStore) : Prop where
  current : ran.1.generation = generation
  shows : ran.1.Shows x
  pending : Pending generation ran.2

section Steps

variable {generation : ℕ} {x : Option String} {s : CaseDetailStore}

theorem waits_done (hgen : s.generation = generation) (hs : s.Shows x) :
    Waits generation x (s, .done) := ⟨hgen, hs, .done⟩

theorem waits_fetchAll (hgen : s.generation = generation) (hs : s.Shows x) (caseId : String) :
    Waits generation x ((CaseDetailStore.fetchAll caseId).advance s) := by
  subst hgen
  exact ⟨rfl, hs.congr rfl rfl rfl rfl, .load s.org caseId⟩

theorem waits_refresh (hgen : s.generation = generation) (hs : s.Shows x) :
    Waits generation x (CaseDetailStore.refresh.advance s) := by
  simp only [CaseDetailStore.refresh, Routine.advance]
  cases s.detail with
  | none => exact waits_done hgen hs
  | some detail => exact waits_fetchAll hgen hs detail.id

theorem waits_act (hgen : s.generation = generation) (hs : s.Shows x)
    (request : String → CaseDetail → Request) (hrequest : ∀ org d, (request org d).loads = none) :
    Waits generation x ((CaseDetailStore.act request).advance s) := by
  simp only [CaseDetailStore.act, Routine.advance]
  cases s.detail with
  | none => exact waits_done hgen hs
  | some detail =>
      subst hgen
      exact ⟨rfl, hs, .act _ _ (hrequest s.org detail)⟩

/-- Until it first waits, an action stores nothing of a case. -/
theorem waits_start (hgen : s.generation = generation) (hs : s.Shows x) {a : CaseDetailAction}
    (ha : a ≠ .clear) : Waits generation x ((detailActions.body a).advance s) := by
  cases a with
  | clear => exact absurd rfl ha
  | fetchAll caseId => exact waits_fetchAll hgen hs caseId
  | refresh => exact waits_refresh hgen hs
  | transition target reason =>
      exact waits_act hgen hs (fun org d => .transition org d.id d.version target reason)
        fun _ _ => rfl
  | decide payload =>
      exact waits_act hgen hs (fun org d => .createRiskDecision org d.id payload) fun _ _ => rfl
  | verify payload =>
      exact waits_act hgen hs (fun org d => .submitVerification org d.id payload) fun _ _ => rfl
  | setOrg org => exact waits_done hgen (hs.congr rfl rfl rfl rfl)

theorem waits_loaded (hgen : s.generation = generation) (hs : s.Shows x) :
    Waits generation x ((loadedScript generation).advance s) := by
  subst hgen
  simp only [finish, Routine.advance, if_true]
  exact waits_done rfl (hs.congr rfl rfl rfl rfl)

/-- In the generation it was started in, an action goes on after the check. -/
theorem advance_unlessCleared (hgen : s.generation = generation) (k stop : Script CaseDetailStore) :
    (unlessCleared CaseDetailStore.generation generation k stop).advance s = k.advance s := by
  simp [unlessCleared, Routine.advance, hgen]

/-- The case for which a waiting action gets the responses of a fetch. -/
def loadedCase (r : Script CaseDetailStore) (reply : Option (List Answer)) : Option String :=
  if reply.isSome then r.awaited.findSome? Request.loads else none

/-- A fetch stores its responses when they arrive, and any other response or failure nothing. -/
theorem waits_settle (hgen : s.generation = generation) (hs : s.Shows x) {r k : Script CaseDetailStore}
    (hr : Pending generation r) {reply : Option (List Answer)}
    (hk : r.resumption Request.fits reply = some k) :
    Waits generation ((loadedCase r reply).or x) (k.advance s) := by
  cases hr with
  | done => cases reply <;> cases hk
  | load org caseId =>
      cases reply with
      | none =>
          cases hk
          exact waits_loaded hgen hs
      | some answers =>
          simp only [loadScript, Routine.resumption, Option.ite_none_right_eq_some,
            Option.some.injEq] at hk
          obtain ⟨hfits, rfl⟩ := hk
          have hinstall := CaseDetailStore.shows_install hfits s
          rw [advance_unlessCleared hgen]
          exact waits_loaded ((CaseDetailStore.install_generation answers s).trans hgen) hinstall
  | act request caseId hloads =>
      cases reply with
      | none =>
          cases hk
          exact waits_done hgen hs
      | some answers =>
          simp only [actScript, Routine.resumption, Option.ite_none_right_eq_some,
            Option.some.injEq] at hk
          obtain ⟨-, rfl⟩ := hk
          rw [advance_unlessCleared hgen]
          have hnone : loadedCase (actScript generation request caseId) (some answers) = none := by
            simp [loadedCase, actScript, Routine.awaited, hloads]
          rw [hnone]
          exact waits_fetchAll hgen hs caseId

end Steps

/-! ## Runs -/

namespace DetailTab

variable {generation : ℕ} {x : Option String} {t u : DetailTab}

theorem shown_new (org : String) : (new org generation).Shown generation none :=
  ⟨rfl, CaseDetailStore.shows_initial org generation, fun r hr => by cases hr⟩

theorem Shown.step (h : t.Shown generation x) {e : DetailEvent} (he : e ≠ .start .clear)
    (hstep : t.step detailActions e = some u) : u.Shown generation ((landing t e).or x) := by
  cases e with
  | start a =>
      cases hstep
      obtain ⟨hgen, hshows, hpending⟩ :=
        waits_start h.current h.shows (a := a) fun ha => he (ha ▸ rfl)
      refine ⟨hgen, hshows, fun r hr => ?_⟩
      rcases List.mem_append.1 hr with hr | hr
      · exact h.pending r hr
      · exact List.mem_singleton.1 hr ▸ hpending
  | settle i reply =>
      obtain ⟨r, k, hr, hk, rfl⟩ := Tab.step_settle.1 hstep
      obtain ⟨hgen, hshows, hpending⟩ :=
        waits_settle h.current h.shows (h.pending r (List.mem_of_getElem? hr)) hk
      have hlanding : landing t (.settle i reply) = loadedCase r reply := by
        cases reply <;> simp [landing, loadedCase, hr]
      rw [hlanding]
      refine ⟨hgen, hshows, fun q hq => ?_⟩
      rcases List.mem_or_eq_of_mem_set hq with hq | rfl
      · exact h.pending q hq
      · exact hpending

theorem getLast?_toList_append (a : Option String) (rest : List String) :
    (a.toList ++ rest).getLast? = rest.getLast?.or a := by
  cases a <;> simp [List.getLast?_cons]

/-- The store shows the case whose responses arrived last. -/
theorem Shown.run (h : t.Shown generation x) {events : List DetailEvent}
    (hclear : .start .clear ∉ events) (hrun : t.run detailActions events = some u) :
    u.Shown generation ((landings t events).getLast?.or x) := by
  induction events generalizing t x with
  | nil =>
      cases hrun
      exact h
  | cons e rest ih =>
      obtain ⟨v, hv, hrun⟩ := Option.bind_eq_some_iff.1 hrun
      rw [List.mem_cons, not_or] at hclear
      have hnext := ih (h.step (Ne.symm hclear.1) hv) hclear.2 hrun
      rw [landings, hv, Option.elim_some, getLast?_toList_append, Option.or_assoc]
      exact hnext

/-- In a run without clears, from a new tab. -/
theorem shown_run {org : String} {events : List DetailEvent} (hclear : .start .clear ∉ events)
    (hrun : (new org generation).run detailActions events = some t) :
    t.Shown generation (landings (new org generation) events).getLast? := by
  simpa using (shown_new org).run hclear hrun

end DetailTab

/-! ## The case on screen -/

/-- The request of an action is about the case in the store. -/
theorem sent_act_iff {s : CaseDetailStore} {x : Option String} (hs : s.Shows x)
    (request : String → CaseDetail → Request) (hrequest : ∀ org d, (request org d).caseId? = some d.id)
    {c : String} :
    (∀ r ∈ ((CaseDetailStore.act request).advance s).2.awaited, r.caseId? = some c) ↔
      ∀ y ∈ x, y = c := by
  rw [← hs.detail]
  simp only [CaseDetailStore.act, Routine.advance]
  cases s.detail with
  | none => simp [Routine.advance, Routine.awaited]
  | some detail => simp [Routine.advance, Routine.awaited, hrequest]

theorem sent_iff {s : CaseDetailStore} {x : Option String} (hs : s.Shows x) {a : CaseDetailAction}
    (ha : a.acts = true) {c : String} :
    (∀ r ∈ ((detailActions.body a).advance s).2.awaited, r.caseId? = some c) ↔ ∀ y ∈ x, y = c := by
  cases a with
  | transition target reason =>
      exact sent_act_iff hs (fun org d => .transition org d.id d.version target reason) fun _ _ => rfl
  | decide payload =>
      exact sent_act_iff hs (fun org d => .createRiskDecision org d.id payload) fun _ _ => rfl
  | verify payload =>
      exact sent_act_iff hs (fun org d => .submitVerification org d.id payload) fun _ _ => rfl
  | _ => cases ha

/-- The store and the actions are about the case navigated to last exactly as long as the responses of
    the fetches arrive in such an order that those for this case are the last. -/
theorem onScreen_iff {org : String} {generation : ℕ} {events : List DetailEvent}
    (hclear : .start .clear ∉ events) :
    OnScreen org generation events ↔ InOrder org generation events := by
  have hshown : ∀ before after t, events = before ++ after →
      (DetailTab.new org generation).run detailActions before = some t →
        DetailTab.Shown generation (landings (.new org generation) before).getLast? t := by
    rintro before after t rfl hrun
    exact DetailTab.shown_run (fun hmem => hclear (List.mem_append_left _ hmem)) hrun
  constructor
  · intro h
    refine ⟨fun before after t c he hrun hsettled hc => ?_, fun before a after t c he hrun ha hc => ?_⟩
    · exact (hshown _ _ t he hrun).shows.belongsTo_iff.1 (h.settled _ _ t c he hrun hsettled hc)
    · exact (sent_iff (hshown _ _ t he hrun).shows ha).1 (h.sent _ a _ t c he hrun ha hc)
  · intro h
    refine ⟨fun before after t c he hrun hsettled hc => ?_, fun before a after t c he hrun ha hc => ?_⟩
    · exact (hshown _ _ t he hrun).shows.belongsTo_iff.2 (h.settled _ _ t c he hrun hsettled hc)
    · exact (sent_iff (hshown _ _ t he hrun).shows ha).2 (h.acting _ a _ t c he hrun ha hc)

/-- The responses of a fetch for the case. -/
def sampleAnswers (caseId : String) : List Answer :=
  [.caseDetail ⟨caseId, 1, none, none, none⟩, .allowed [⟨"closed", caseId⟩], .decisions [],
    .verifications []]

/-- From one case to another, whose responses arrive first. -/
def overtaken : List DetailEvent :=
  [.start (.fetchAll "a"), .start (.fetchAll "b"), .settle 1 (some (sampleAnswers "b")),
    .settle 0 (some (sampleAnswers "a"))]

/-- Then the page for `b` shows `a`, and closes it. -/
theorem not_onScreen_overtaken :
    ¬ OnScreen "acme" 0 (overtaken ++ [.start (.transition "closed" none)]) := by
  intro h
  have hsent := h.sent overtaken (.transition "closed" none) [] _ "b" rfl rfl rfl rfl
    (.transition "acme" "a" 1 "closed" none) (List.mem_singleton_self _)
  exact absurd hsent (by decide)

/-- From one case to another, whose responses arrive last; then the page closes it. -/
def inTurn : List DetailEvent :=
  [.start (.fetchAll "a"), .start (.fetchAll "b"), .settle 0 (some (sampleAnswers "a")),
    .settle 1 (some (sampleAnswers "b")), .start (.transition "closed" none)]

/-- The page for `b` shows `b`, and closes it. -/
theorem onScreen_inTurn : OnScreen "acme" 0 inTurn := by
  have hprefixes : ∀ before : List DetailEvent, before <+: inTurn →
      ∃ n ≤ 5, before = inTurn.take n := fun before h =>
    ⟨before.length, h.length_le, List.prefix_iff_eq_take.1 h⟩
  refine (onScreen_iff (by simp [inTurn])).2 ⟨?_, ?_⟩
  · intro before after t c he hrun hsettled hc
    obtain ⟨n, hn, rfl⟩ := hprefixes before ⟨after, he.symm⟩
    interval_cases n
    · cases hc
    · rintro x ⟨⟩
    · rintro x ⟨⟩
    · -- the responses for `b` are awaited
      cases hrun
      exact absurd (hsettled _ (List.mem_of_getElem? (i := 1) rfl)) (List.cons_ne_nil _ _)
    · cases hc
      rintro x ⟨⟩
      rfl
    · cases hc
      rintro x ⟨⟩
      rfl
  · intro before a after t c he hrun ha hc
    obtain ⟨n, hn, rfl⟩ := hprefixes before ⟨_, he.symm⟩
    interval_cases n
    · cases he
      cases ha
    · cases he
      cases ha
    · cases he
    · cases he
    · cases hc
      rintro x ⟨⟩
      rfl
    · cases he

end VulnOpsHub.Console
