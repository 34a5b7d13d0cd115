import VulnOpsHub.Workers.Verdicts
import VulnOpsHub.Api.Exposures

set_option autoImplicit false

/-! # Reviews and replays

An event may be handled again after its exposures have been reviewed. The handler judges them as
before, so what a review has decided is kept exactly when it decided on none of them. -/

namespace VulnOpsHub

section Reviews

variable [Python]

/-! ## Sequences of reviews -/

/-- The rows after some reviews. -/
def reviewAll : List (ReviewRequest × CallEnv) → Hub → Hub
  | [], h => h
  | (r, env) :: rest, h => reviewAll rest ((reviewExposure r env).runDb h)

/-- One of the reviews decides on the exposure with an id. -/
def ReviewDecides (id : String) (decision : ReviewDecision) : List (ReviewRequest × CallEnv) → Hub → Prop
  | [], _ => False
  | (r, env) :: rest, h =>
      ((reviewExposure r env).run (Session.fresh h)).1
          = .returned (.reviewed id decision.state decision.matchClass) ∨
        ReviewDecides id decision rest ((reviewExposure r env).runDb h)

omit [Python] in
theorem reviewed_not_reviewable (decision : ReviewDecision) (e : Exposure) :
    reviewable (reviewed decision e).state = false := by
  cases decision <;> rfl

omit [Python] in
theorem ReviewDecision.state_injective : Function.Injective ReviewDecision.state := by
  intro d d' h
  cases d <;> cases d' <;> first | rfl | cases h

/-- Reviews change neither ids nor keys. -/
theorem reviewAll_rows (rs : List (ReviewRequest × CallEnv)) (h : Hub) :
    ∃ g : Exposure → Exposure, (∀ x, (g x).id = x.id ∧ (g x).key = x.key) ∧
      (reviewAll rs h).exposures.rows = h.exposures.rows.map g := by
  induction rs generalizing h with
  | nil => exact ⟨id, fun _ => ⟨rfl, rfl⟩, by rw [List.map_id]; rfl⟩
  | cons x rest ih =>
      obtain ⟨g, hg, hrows⟩ := ih ((reviewExposure x.1 x.2).runDb h)
      rcases reviewExposure_effect x.1 x.2 h with ⟨decision, e, -, heffect⟩ | ⟨-, hsame⟩
      · refine ⟨fun y => g (if y.id = e.id then
          (ExposurePatch.ofChange e (reviewed decision e)).toRow.apply y else y), ?_, ?_⟩
        · intro y
          dsimp only
          split
          · exact ⟨(hg _).1, (hg _).2⟩
          · exact hg y
        · refine hrows.trans ?_
          rw [heffect.exposures]
          exact List.map_map
      · refine ⟨g, hg, ?_⟩
        rw [hsame] at hrows
        exact (congrArg (fun h => (reviewAll rest h).exposures.rows) hsame).trans hrows

/-- The first exposure under a key is the same one after reviews. -/
theorem reviewAll_exposureAt (rs : List (ReviewRequest × CallEnv)) (h : Hub) {key : ExposureKey}
    {e : Exposure} (he : h.exposureAt key = some e) :
    ∃ e', (reviewAll rs h).exposureAt key = some e' ∧
      (reviewAll rs h).exposure? e.id = some e' := by
  obtain ⟨g, hg, hrows⟩ := reviewAll_rows rs h
  have hkeys : ((fun x : Exposure => decide (x.key = key)) ∘ g)
      = fun x : Exposure => decide (x.key = key) := by
    funext x
    simp [(hg x).2]
  have hat : (reviewAll rs h).exposureAt key = some (g e) := by
    have hfind : h.exposures.rows.find? (fun x => x.key = key) = some e := he
    unfold Hub.exposureAt
    rw [hrows, List.find?_map, hkeys, hfind]
    rfl
  have hmem := (Hub.exposureAt_eq_some hat).1
  exact ⟨g e, hat, (hg e).1 ▸ Table.find?_key_of_mem hmem⟩

/-- What reviews do to an exposure: nothing, or what the one of them that decides on it does. -/
theorem reviewAll_exposure? (rs : List (ReviewRequest × CallEnv)) (h : Hub) {id : String}
    {e : Exposure} (he : h.exposure? id = some e) :
    ((∀ d, ¬ ReviewDecides id d rs h) → (reviewAll rs h).exposure? id = some e) ∧
      ∀ d, ReviewDecides id d rs h →
        (reviewAll rs h).exposure? id = some (reviewed d e) ∧ reviewable e.state = true := by
  induction rs generalizing h e with
  | nil => exact ⟨fun _ => he, fun _ hd => hd.elim⟩
  | cons x rest ih =>
      rcases reviewExposure_effect x.1 x.2 h with ⟨decision, e₀, hanswer, heffect⟩ | ⟨hno, hsame⟩
      · have hlater := heffect.exposure? id
        by_cases hid : id = e₀.id
        · -- the exposure can be reviewed no more
          have hfound : h.exposure? e₀.id = some e₀ :=
            Table.find?_key_of_mem (Table.mem_of_find? heffect.found)
          rw [hid, hfound] at he
          obtain rfl := Option.some.inj he
          rw [if_pos hid] at hlater
          obtain ⟨hkept, hagain⟩ := ih _ hlater
          have hdone : ∀ d, ¬ ReviewDecides id d rest ((reviewExposure x.1 x.2).runDb h) := by
            intro d hd
            have hreviewable := (hagain d hd).2
            rw [reviewed_not_reviewable] at hreviewable
            cases hreviewable
          refine ⟨fun hnone => absurd (Or.inl (hid ▸ hanswer)) (hnone decision), ?_⟩
          rintro d (hd | hd)
          · rw [hanswer] at hd
            injection hd with hd
            injection hd with _ hstate _
            rw [← ReviewDecision.state_injective hstate]
            exact ⟨hkept hdone, heffect.reviewable⟩
          · exact absurd hd (hdone d)
        · rw [if_neg hid, he] at hlater
          obtain ⟨hkept, hagain⟩ := ih _ hlater
          refine ⟨fun hnone => hkept fun d hd => hnone d (Or.inr hd), ?_⟩
          rintro d (hd | hd)
          · rw [hanswer] at hd
            injection hd with hd
            injection hd with hsame _ _
            exact absurd hsame.symm hid
          · exact hagain d hd
      · have hlater : ((reviewExposure x.1 x.2).runDb h).exposure? id = some e := by
          rw [hsame]
          exact he
        obtain ⟨hkept, hagain⟩ := ih _ hlater
        refine ⟨fun hnone => hkept fun d hd => hnone d (Or.inr hd), ?_⟩
        rintro d (hd | hd)
        · exact absurd hd (hno _ _ _)
        · exact hagain d hd

/-- Reviews write exposures, and note it. -/
theorem reviewAll_frame (rs : List (ReviewRequest × CallEnv)) (h : Hub) :
    ∃ exposures audits, reviewAll rs h = { h with exposures := exposures, auditEvents := audits } := by
  induction rs generalizing h with
  | nil => exact ⟨_, _, rfl⟩
  | cons x rest ih =>
      obtain ⟨exposures, audits, hrest⟩ := ih ((reviewExposure x.1 x.2).runDb h)
      rcases reviewExposure_effect x.1 x.2 h with ⟨decision, e, -, heffect⟩ | ⟨-, hsame⟩
      · obtain ⟨exposures', audits', hframe⟩ := heffect.frame
        refine ⟨exposures, audits, hrest.trans ?_⟩
        rw [hframe]
      · refine ⟨exposures, audits, hrest.trans ?_⟩
        rw [hsame]

/-! ## Replays -/

/-- What the reviews decided is kept when the rows `h₂` they leave become `h₃`: every exposure is as
    it was, but for the time it was last seen at, and no case is opened for one that was ruled
    out. -/
structure ReviewsKept (rs : List (ReviewRequest × CallEnv)) (h₁ h₂ h₃ : Hub) : Prop where
  exposures : ∀ e ∈ h₂.exposures.rows, ∃ now,
    { e with lastObservedAt := now } ∈ h₃.exposures.rows
  cases : ∀ id, ReviewDecides id .notAffected rs h₁ →
    ∀ c ∈ h₃.cases.rows, h₂.case? c.id = none → id ∉ c.exposures

variable {o o' : Handling} {eventId : String} {fs fs' : List Finding} {h h₁ h₃ : Hub}
  {rs : List (ReviewRequest × CallEnv)}

omit [Python] in
/-- An exposure that can be reviewed has the class of no decision. -/
theorem matchClass_ne_of_reviewable {matchClass : MatchClass}
    (h : reviewable (exposureState matchClass) = true) (d : ReviewDecision) :
    d.matchClass ≠ matchClass := by
  rintro rfl
  cases d <;> cases h

/-- A handling and another, with reviews in between. -/
structure Replay (o o' : Handling) (eventId : String) (fs fs' : List Finding)
    (rs : List (ReviewRequest × CallEnv)) (h h₁ h₃ : Hub) : Prop where
  first : Rounds o eventId 0 fs h h₁
  again : Rounds o' eventId 0 fs' (reviewAll rs h₁) h₃
  ruled : ∀ f ∈ fs, f.Ruled
  ruledAgain : ∀ f ∈ fs', f.Ruled
  alike : fs'.map Finding.unnumbered = fs.map Finding.unnumbered
  kev : ∀ id, o'.sources.isKev (reviewAll rs h₁) id = o.sources.isKev h id
  epss : ∀ id, o'.sources.epssFor id = o.sources.epssFor id

namespace Replay

/-- Both leave the exposure under a key of a finding with the same verdict. -/
theorem verdicts (hr : Replay o o' eventId fs fs' rs h h₁ h₃) {key : ExposureKey}
    (hkey : ∃ f ∈ fs', f.key = key) :
    ∃ (v : Verdict) (e₁ e₂ : Exposure) (now : Instant), h₁.exposureAt key = some e₁ ∧
      e₁.verdict = v ∧ e₁.state = exposureState e₁.matchClass ∧
      (reviewAll rs h₁).exposureAt key = some e₂ ∧
      (reviewAll rs h₁).exposure? e₁.id = some e₂ ∧
      h₃.exposureAt key = some (e₂.judged v now) := by
  cases hlast' : lastUnder key fs' with
  | none =>
      obtain ⟨f, hf, hfkey⟩ := hkey
      exact absurd hfkey (lastUnder_eq_none.1 hlast' f hf)
  | some f' =>
      have halike : (lastUnder key fs').map Finding.unnumbered
          = (lastUnder key fs).map Finding.unnumbered := lastUnder_alike hr.alike
      rw [hlast'] at halike
      obtain ⟨f, hlast, hff'⟩ := Option.map_eq_some_iff.1 halike.symm
      have hsame : Finding.Alike f' f := hff'.symm
      obtain ⟨e₁, he₁, hverdict, -⟩ := hr.first.judge hr.ruled hlast
      obtain ⟨e₂, he₂, hid⟩ := reviewAll_exposureAt rs h₁ he₁
      obtain ⟨e₃, he₃, -, hkept⟩ := hr.again.judge hr.ruledAgain hlast'
      obtain ⟨now, rfl⟩ := hkept e₂ he₂
      rw [hsame.verdict_eq hr.kev hr.epss] at he₃
      refine ⟨_, e₁, e₂, now, he₁, hverdict, ?_, he₂, hid, he₃⟩
      have hstate := congrArg Verdict.state hverdict
      have hclass := congrArg Verdict.matchClass hverdict
      exact hstate.trans (congrArg exposureState hclass.symm)

omit [Python] in
theorem exists_key_of_alike (halike : fs'.map Finding.unnumbered = fs.map Finding.unnumbered)
    {f : Finding} (hf : f ∈ fs') : ∃ g ∈ fs, g.key = f.key := by
  have hmem : f.unnumbered ∈ fs.map Finding.unnumbered := halike ▸ List.mem_map_of_mem hf
  obtain ⟨g, hg, hgf⟩ := List.mem_map.1 hmem
  exact ⟨g, hg, Finding.Alike.key_eq hgf⟩

/-- None of the exposures that the handling has left under its keys was decided on. -/
def Undecided (fs : List Finding) (rs : List (ReviewRequest × CallEnv)) (h₁ : Hub) : Prop :=
  ∀ f ∈ fs, ∀ e, h₁.exposureAt f.key = some e → ∀ d, ¬ ReviewDecides e.id d rs h₁

theorem kept_of_undecided (hr : Replay o o' eventId fs fs' rs h h₁ h₃)
    (hundecided : Undecided fs rs h₁) : ReviewsKept rs h₁ (reviewAll rs h₁) h₃ where
  exposures := by
    intro e he
    by_cases hfirst : ∃ f ∈ fs', f.key = e.key ∧ (reviewAll rs h₁).exposureAt e.key = some e
    · obtain ⟨f, hf, hkey, hat⟩ := hfirst
      obtain ⟨v, e₁, e₂, now, he₁, hverdict, -, he₂, hid, he₃⟩ := hr.verdicts ⟨f, hf, hkey⟩
      obtain rfl := Option.some.inj (hat.symm.trans he₂)
      obtain ⟨g, hg, hgkey⟩ := exists_key_of_alike hr.alike hf
      have hnot := hundecided g hg e₁ (by rw [hgkey, hkey]; exact he₁)
      have hsame := (reviewAll_exposure? rs h₁ (Hub.exposure?_of_exposureAt he₁)).1 hnot
      obtain rfl := Option.some.inj (hid.symm.trans hsame)
      rw [← hverdict, Exposure.judged_verdict] at he₃
      exact ⟨now, (Hub.exposureAt_eq_some he₃).1⟩
    · refine ⟨e.lastObservedAt, hr.again.mem_exposures he fun f hf hkey hat => hfirst ?_⟩
      exact ⟨f, hf, hkey, hat⟩
  cases := by
    intro id hdecides c hc hnew hmem
    obtain ⟨f, hf, e₃, he₃, hlists⟩ := hr.again.of_new_case hc hnew
    obtain ⟨v, e₁, e₂, now, he₁, -, -, -, hid, he₃'⟩ := hr.verdicts ⟨f, hf, rfl⟩
    obtain rfl := Option.some.inj (he₃.symm.trans he₃')
    obtain ⟨g, hg, hgkey⟩ := exists_key_of_alike hr.alike hf
    have hid₁ : id = e₁.id := by
      rw [hlists] at hmem
      have hid₂ : id = e₂.id := List.mem_singleton.1 hmem
      have hkey := Table.key_of_find? hid
      exact hid₂.trans hkey
    exact hundecided g hg e₁ (by rw [hgkey]; exact he₁) _ (hid₁ ▸ hdecides)

theorem undecided_of_kept (hr : Replay o o' eventId fs fs' rs h h₁ h₃)
    (hkept : ReviewsKept rs h₁ (reviewAll rs h₁) h₃) : Undecided fs rs h₁ := by
  intro f hf e he d hdecides
  obtain ⟨g, hg, hgkey⟩ := exists_key_of_alike hr.alike.symm hf
  obtain ⟨v, e₁, e₂, now, he₁, hverdict, hstate, -, hid, he₃⟩ := hr.verdicts ⟨g, hg, hgkey⟩
  obtain rfl := Option.some.inj (he₁.symm.trans he)
  obtain ⟨hreviewed, hreviewable⟩ :=
    (reviewAll_exposure? rs h₁ (Hub.exposure?_of_exposureAt he)).2 d hdecides
  obtain rfl := Option.some.inj (hid.symm.trans hreviewed)
  obtain ⟨later, hrow⟩ := hkept.exposures _ (Table.mem_of_find? hreviewed)
  have hsame := Table.eq_of_exposureId hrow (Hub.exposureAt_eq_some he₃).1 rfl
  have hclass : d.matchClass = v.matchClass := congrArg Exposure.matchClass hsame
  rw [hstate] at hreviewable
  refine matchClass_ne_of_reviewable hreviewable d (hclass.trans ?_)
  rw [← hverdict]
  rfl

end Replay

variable [Packaging]

/-- **Reviews and replays.** After a handling of an event and some reviews the event is handled
    again, with the same answers. What the reviewers decided is kept exactly when they decided on
    none of the exposures of the event. -/
theorem replay_keeps_reviews_iff {event : OutboxEvent}
    {handler : Handling → OutboxEvent → HubProg String}
    (hhandler : handlerOf event.eventType = some handler) {summary summary' : String}
    {t t' : Session Hub}
    (hfirst : (handler o event).run (Session.fresh h) = (.returned summary, t))
    (hagain : (handler o' event).run (Session.fresh (reviewAll rs t.db)) = (.returned summary', t'))
    (hanswers : SameAnswers o.sources h o'.sources (reviewAll rs t.db)) :
    ReviewsKept rs t.db (reviewAll rs t.db) t'.db ↔
      ∀ fs, findingsOf o event h = .ok fs → ∀ f ∈ fs, ∀ e, t.db.exposureAt f.key = some e →
        ∀ d, ¬ ReviewDecides e.id d rs t.db := by
  obtain ⟨fs, h₁, hfs, rfl, hrounds⟩ := rounds_of_returned hhandler hfirst
  obtain ⟨fs', h₃, hfs', rfl, hrounds'⟩ := rounds_of_returned hhandler hagain
  have hoccurrences : (reviewAll rs h₁).occurrences = h.occurrences := by
    obtain ⟨exposures, audits, hframe⟩ := reviewAll_frame rs h₁
    rw [hframe]
    exact hrounds.sameInputs.occurrences
  have hsame : SameAnswers o.sources h o'.sources (reviewAll rs h₁) := hanswers
  have halike : (findingsOf o' event (reviewAll rs h₁)).map (List.map Finding.unnumbered)
      = (findingsOf o event h).map (List.map Finding.unnumbered) :=
    findingsOf_alike hsame hoccurrences
  have hfound : findingsOf o' event (reviewAll rs h₁) = .ok fs' := hfs'
  rw [hfs, hfound] at halike
  have hr : Replay o o' event.id fs fs' rs h h₁ h₃ :=
    { first := hrounds
      again := hrounds'
      ruled := ruled_of_findingsOf hfs
      ruledAgain := ruled_of_findingsOf hfs'
      alike := Except.ok.inj halike
      kev := hanswers.kev
      epss := hanswers.epss }
  refine ⟨fun hkept fs₀ hfs₀ => ?_, fun hundecided => ?_⟩
  · rw [hfs] at hfs₀
    cases hfs₀
    exact hr.undecided_of_kept hkept
  · exact hr.kept_of_undecided (hundecided fs hfs)

end Reviews

/-- A vulnerability without entries: a candidate. -/
def sampleVague : Sources := sampleSources [sampleAdvisory []]

/-- A reviewer rules the exposure out. -/
def sampleReview : ReviewRequest × CallEnv :=
  (⟨"default", "exp_7", .obj [("decision", .str "not_affected"), ("reason", .str "not in use")],
    "reviewer"⟩, (sampleHandling sampleVague).env 1)

/-- The rows after the bill of materials has been handled. -/
def sampleHandled : Hub :=
  (@handleSbomProcessed asciiPython dottedPackaging (sampleHandling sampleVague)
    sampleSbomEvent).runDb sampleInventory

theorem sampleVague_run : ∃ summary t, (@handleSbomProcessed asciiPython dottedPackaging
    (sampleHandling sampleVague) sampleSbomEvent).run (Session.fresh sampleInventory)
      = (.returned summary, t) ∧ t.db = sampleHandled := by
  have hreturned : ((@handleSbomProcessed asciiPython dottedPackaging
      (sampleHandling sampleVague) sampleSbomEvent).run (Session.fresh sampleInventory)).1.isReturned
        = true := by decide +kernel
  obtain ⟨summary, t, hrun⟩ := Program.exists_run_of_isReturned hreturned
  exact ⟨summary, t, hrun, by rw [sampleHandled, Program.runDb, hrun]⟩

theorem sampleVague_answers (h h' : Hub) :
    @SameAnswers asciiPython sampleVague h sampleVague h' :=
  @SameAnswers.mk asciiPython _ _ _ _ (fun _ => rfl) (fun _ => rfl) (fun _ => rfl) (fun _ => rfl)

/-- The handler takes the decision back. -/
theorem review_not_kept : ¬ ∀ (_ : Python) (_ : Packaging) (o o' : Handling) (event : OutboxEvent)
    (h : Hub) (rs : List (ReviewRequest × CallEnv))
    (handler : Handling → OutboxEvent → HubProg String) (summary summary' : String)
    (t t' : Session Hub), handlerOf event.eventType = some handler →
    (handler o event).run (Session.fresh h) = (.returned summary, t) →
    (handler o' event).run (Session.fresh (reviewAll rs t.db)) = (.returned summary', t') →
    SameAnswers o.sources h o'.sources (reviewAll rs t.db) →
    ReviewsKept rs t.db (reviewAll rs t.db) t'.db := by
  intro h
  obtain ⟨summary, t, hrun, hdb⟩ := sampleVague_run
  have hreturned : ((@handleSbomProcessed asciiPython dottedPackaging (sampleHandling sampleVague)
      sampleSbomEvent).run (Session.fresh (@reviewAll asciiPython [sampleReview] sampleHandled))).1.isReturned
        = true := by decide +kernel
  have hruledOut : ∃ e ∈ (@reviewAll asciiPython [sampleReview] sampleHandled).exposures.rows,
      e.matchClass = .notAffected := by decide +kernel
  have hcandidate : ∀ e ∈ ((@handleSbomProcessed asciiPython dottedPackaging
      (sampleHandling sampleVague) sampleSbomEvent).run (Session.fresh
        (@reviewAll asciiPython [sampleReview] sampleHandled))).2.db.exposures.rows,
      e.matchClass = .candidate := by decide +kernel
  obtain ⟨summary', t', hagain⟩ := Program.exists_run_of_isReturned hreturned
  rw [hagain] at hcandidate
  rw [← hdb] at hagain hruledOut
  have hkept := h asciiPython dottedPackaging _ _ sampleSbomEvent sampleInventory [sampleReview] _ _
    _ t t' rfl hrun hagain (sampleVague_answers _ _)
  obtain ⟨e, he, hnotAffected⟩ := hruledOut
  obtain ⟨now, hrow⟩ := @ReviewsKept.exposures asciiPython _ _ _ _ hkept e he
  have hclass := hcandidate _ hrow
  change e.matchClass = .candidate at hclass
  rw [hnotAffected] at hclass
  cases hclass

/-- A candidate that was there before. -/
def sampleEarlier : Exposure where
  id := "exp_old"
  organizationId := "default"
  assetId := none
  componentOccurrenceId := none
  vulnerabilityId := "CVE-2020-1"
  detectionContext := "wazuh:9"
  matchClass := .candidate
  confidence := 0
  priority := none
  policyVersion := none
  state := .candidate
  matchedRules := none
  evidenceRefs := none
  limitations := none
  matcherVersion := none
  firstObservedAt := 0
  lastObservedAt := 0
  createdAt := 0

def sampleBusy : Hub := { sampleInventory with exposures := ⟨[sampleEarlier], by decide⟩ }

/-- A request that decides nothing. -/
def sampleRefused : ReviewRequest × CallEnv :=
  (⟨"default", "exp_7", .obj [("decision", .str "later"), ("reason", .str "no time")], "reviewer"⟩,
    (sampleHandling sampleVague).env 1)

/-- A review of the earlier candidate. -/
def sampleDismissal : ReviewRequest × CallEnv :=
  (⟨"default", "exp_old", .obj [("decision", .str "not_affected"), ("reason", .str "not in use")],
    "reviewer"⟩, (sampleHandling sampleVague).env 2)

/-- The handling of the bill of materials over some rows. -/
def sampleSbomHandling (h : Hub) : Outcome PyError String × Session Hub :=
  (@handleSbomProcessed asciiPython dottedPackaging (sampleHandling sampleVague)
    sampleSbomEvent).run (Session.fresh h)

theorem sampleSbomHandling_returned {h : Hub} (hreturned : (sampleSbomHandling h).1.isReturned = true) :
    ∃ summary, sampleSbomHandling h = (.returned summary, (sampleSbomHandling h).2) := by
  obtain ⟨summary, hsummary⟩ := Outcome.eq_returned_of_isReturned hreturned
  exact ⟨summary, Prod.ext hsummary rfl⟩

/-- A review that is refused, and one of another exposure, are no matter to the handler. -/
theorem replay_keeps_reviews_iff_apart : ∃ t t' : Session Hub,
    @ReviewsKept asciiPython [sampleRefused, sampleDismissal] t.db
      (@reviewAll asciiPython [sampleRefused, sampleDismissal] t.db) t'.db ∧
    (t'.db.exposure? "exp_old").map (·.matchClass) = some .notAffected ∧
    t'.db.exposures.rows.length = 2 := by
  let _ := asciiPython
  let _ := dottedPackaging
  let t := (sampleSbomHandling sampleBusy).2
  let t' := (sampleSbomHandling (reviewAll [sampleRefused, sampleDismissal] t.db)).2
  obtain ⟨⟨hreturned, hreturned'⟩, hrows, hfindings, hrefused, hruledOut⟩ :
      ((sampleSbomHandling sampleBusy).1.isReturned = true ∧
        (sampleSbomHandling (reviewAll [sampleRefused, sampleDismissal] t.db)).1.isReturned = true) ∧
      ((t'.db.exposure? "exp_old").map (·.matchClass) = some .notAffected ∧
        t'.db.exposures.rows.length = 2) ∧
      (((findingsOf (sampleHandling sampleVague) sampleSbomEvent sampleBusy).toOption.getD []).all
        fun f => (t.db.exposureAt f.key).all fun e => e.id ≠ "exp_old") = true ∧
      ((reviewExposure sampleRefused.1 sampleRefused.2).run (Session.fresh t.db)).1 = .returned
        (.problem 422 "invalid_decision" "decision must be confirmed or not_affected") ∧
      ((reviewExposure sampleDismissal.1 sampleDismissal.2).run (Session.fresh
        ((reviewExposure sampleRefused.1 sampleRefused.2).runDb t.db))).1
          = .returned (.reviewed "exp_old" .notAffected .notAffected) := by
    decide +kernel
  obtain ⟨summary, hfirst⟩ := sampleSbomHandling_returned hreturned
  obtain ⟨summary', hagain⟩ := sampleSbomHandling_returned hreturned'
  refine ⟨t, t', (@replay_keeps_reviews_iff asciiPython (sampleHandling sampleVague)
    (sampleHandling sampleVague) sampleBusy [sampleRefused, sampleDismissal] dottedPackaging
    sampleSbomEvent _ rfl _ _ t t' hfirst hagain (sampleVague_answers _ _)).2
    fun fs hfs f hf e he d hdecides => ?_, hrows⟩
  rw [hfs] at hfindings
  have hother : e.id ≠ "exp_old" := by
    have hall := List.all_eq_true.1 hfindings f hf
    rw [he] at hall
    exact of_decide_eq_true hall
  rcases hdecides with hdecides | hdecides | hnever
  · cases hrefused.symm.trans hdecides
  · have hreviewed := hruledOut.symm.trans hdecides
    injection hreviewed with hreviewed
    injection hreviewed with hid _ _
    exact hother hid.symm
  · exact hnever

end VulnOpsHub
