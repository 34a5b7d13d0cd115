import VulnOpsHub.Cases.Steps
import VulnOpsHub.Workers.Crew

set_option autoImplicit false

/-! # One open case for an exposure

One orchestrator is the only creator of cases; its process may die between two commits, analysts
work on the cases, and new evidence comes in. `CaseInv` holds in every state of such a run: no two
open cases are about one exposure. And once an event is delivered, its exposures have their case. -/

namespace VulnOpsHub

/-! ## References -/

/-- The case refers to the exposure: it lists it, or a link connects them. -/
def Hub.References (h : Hub) (c : RemediationCase) (exposureId : String) : Prop :=
  exposureId ∈ c.exposures ∨ ∃ l ∈ h.links.rows, l.caseId = c.id ∧ l.exposureId = exposureId

/-- An open case that refers to the exposure. -/
structure Hub.OpenFor (h : Hub) (exposureId : String) (c : RemediationCase) : Prop where
  mem : c ∈ h.cases.rows
  isOpen : c.status ≠ .closed
  refers : h.References c exposureId

theorem Hub.exists_openFor {h : Hub} {organizationId exposureId : String}
    (hcovered : h.covered organizationId exposureId = true) : ∃ c, h.OpenFor exposureId c := by
  unfold Hub.covered at hcovered
  rcases Bool.or_eq_true_iff.1 hcovered with hlinked | hlisted
  · obtain ⟨l, hl, hid, hopen⟩ : ∃ l ∈ h.links.rows, l.exposureId = exposureId ∧
        (h.case? l.caseId).any (·.status ≠ .closed) = true := by
      simpa [Hub.linked] using hlinked
    cases hc : h.case? l.caseId with
    | none =>
        rw [hc] at hopen
        cases hopen
    | some c =>
        rw [hc] at hopen
        have hstatus : c.status ≠ .closed := by simpa using hopen
        exact ⟨c, Table.mem_of_find? hc, hstatus, Or.inr ⟨l, hl, (Table.key_of_find? hc).symm, hid⟩⟩
  · obtain ⟨c, hc, -, hstatus, hlists⟩ : ∃ c ∈ h.cases.rows, c.organizationId = organizationId ∧
        c.status ≠ .closed ∧ exposureId ∈ c.exposures := by
      simpa [Hub.listed] using hlisted
    exact ⟨c, hc, hstatus, Or.inl hlists⟩

/-! ## The invariant -/

/-- Cases list exposures of their organization, links follow the lists, and no two open cases list
    one exposure. -/
structure CaseInv (h : Hub) : Prop where
  listed : ∀ c ∈ h.cases.rows, ∀ x ∈ c.exposures,
    ∃ e, h.exposure? x = some e ∧ e.organizationId = c.organizationId
  linked : ∀ l ∈ h.links.rows, ∃ c, h.case? l.caseId = some c ∧ l.exposureId ∈ c.exposures
  unique : ∀ c ∈ h.cases.rows, ∀ c' ∈ h.cases.rows, c.status ≠ .closed → c'.status ≠ .closed →
    ∀ x ∈ c.exposures, x ∈ c'.exposures → c = c'

/-- No case refers to an exposure it does not list. -/
theorem CaseInv.lists {h : Hub} (hinv : CaseInv h) {c : RemediationCase} {x : String}
    (hc : c ∈ h.cases.rows) (hrefers : h.References c x) : x ∈ c.exposures := by
  rcases hrefers with hlists | ⟨l, hl, hcase, rfl⟩
  · exact hlists
  · obtain ⟨c', hc', hlists⟩ := hinv.linked l hl
    have hfound : h.case? c.id = some c := Table.find?_key_of_mem hc
    rw [hcase, hfound] at hc'
    obtain rfl := Option.some.inj hc'
    exact hlists

theorem CaseInv.openFor_unique {h : Hub} (hinv : CaseInv h) {x : String} {c c' : RemediationCase}
    (hc : h.OpenFor x c) (hc' : h.OpenFor x c') : c = c' :=
  hinv.unique c hc.mem c' hc'.mem hc.isOpen hc'.isOpen x (hinv.lists hc.mem hc.refers)
    (hinv.lists hc'.mem hc'.refers)

/-- Exposures stay under their ids and their keys. -/
def Hub.KeepsExposures (h h' : Hub) : Prop :=
  ∀ id e, h.exposure? id = some e → ∃ e', h'.exposure? id = some e' ∧ e'.key = e.key

theorem Hub.keepsExposures_of_eq {h h' : Hub} (hexposures : h'.exposures = h.exposures) :
    h.KeepsExposures h' := by
  intro id e he
  refine ⟨e, ?_, rfl⟩
  unfold Hub.exposure? at he ⊢
  rw [hexposures, he]

/-- What a step that opens no case does to the cases: none is about anything else, and none that
    was closed is open. -/
structure Hub.OpensNothing (h h' : Hub) : Prop where
  subjects : ∀ id, (h'.case? id).map RemediationCase.subject
    = (h.case? id).map RemediationCase.subject
  closed : ∀ id c c', h.case? id = some c → h'.case? id = some c' → c.status = .closed →
    c'.status = .closed

theorem Hub.opensNothing_of_eq {h h' : Hub} (hcases : h'.cases = h.cases) : h.OpensNothing h' := by
  have hcase : h'.case? = h.case? := by
    funext id
    unfold Hub.case?
    rw [hcases]
  refine ⟨fun id => by rw [hcase], fun id c c' hc hc' hclosed => ?_⟩
  rw [hcase, hc] at hc'
  exact Option.some.inj hc' ▸ hclosed

/-- The case that was there before. -/
theorem Hub.OpensNothing.before {h h' : Hub} (hsame : h.OpensNothing h') {c' : RemediationCase}
    (hc' : c' ∈ h'.cases.rows) : ∃ c ∈ h.cases.rows, c.id = c'.id ∧ c.subject = c'.subject ∧
      (c'.status ≠ .closed → c.status ≠ .closed) := by
  have hfound : h'.case? c'.id = some c' := Table.find?_key_of_mem hc'
  have hsubject := hsame.subjects c'.id
  rw [hfound] at hsubject
  cases hc : h.case? c'.id with
  | none =>
      rw [hc] at hsubject
      cases hsubject
  | some c =>
      rw [hc] at hsubject
      refine ⟨c, Table.mem_of_find? hc, Table.key_of_find? hc, (Option.some.inj hsubject).symm, ?_⟩
      exact fun hopen hclosed => hopen (hsame.closed _ c c' hc hfound hclosed)

/-- **A step that opens no case keeps the invariant.** -/
theorem CaseInv.mono {h h' : Hub} (hinv : CaseInv h) (hexposures : h.KeepsExposures h')
    (hcases : h.OpensNothing h') (hlinks : h'.links = h.links) : CaseInv h' := by
  refine ⟨fun c' hc' x hx => ?_, fun l hl => ?_, fun c₁ h₁ c₂ h₂ hopen₁ hopen₂ x hx₁ hx₂ => ?_⟩
  · obtain ⟨c, hc, -, hsubject, -⟩ := hcases.before hc'
    obtain ⟨horganization, hlists⟩ := Prod.mk.inj hsubject
    obtain ⟨e, he, heorg⟩ := hinv.listed c hc x (hlists ▸ hx)
    obtain ⟨e', he', hkey⟩ := hexposures x e he
    have horg : e'.organizationId = e.organizationId := congrArg ExposureKey.organizationId hkey
    exact ⟨e', he', by rw [horg, heorg, horganization]⟩
  · rw [hlinks] at hl
    obtain ⟨c, hc, hlists⟩ := hinv.linked l hl
    have hsubject := hcases.subjects l.caseId
    rw [hc] at hsubject
    obtain ⟨c', hc', heq⟩ := Option.map_eq_some_iff.1 hsubject
    have hsame : c'.exposures = c.exposures := (Prod.mk.inj heq).2
    exact ⟨c', hc', hsame ▸ hlists⟩
  · obtain ⟨b₁, hb₁, hid₁, hsubject₁, hb₁open⟩ := hcases.before h₁
    obtain ⟨b₂, hb₂, hid₂, hsubject₂, hb₂open⟩ := hcases.before h₂
    have hlists₁ : b₁.exposures = c₁.exposures := (Prod.mk.inj hsubject₁).2
    have hlists₂ : b₂.exposures = c₂.exposures := (Prod.mk.inj hsubject₂).2
    have heq := hinv.unique b₁ hb₁ b₂ hb₂ (hb₁open hopen₁) (hb₂open hopen₂) x (hlists₁ ▸ hx₁)
      (hlists₂ ▸ hx₂)
    have hfound₁ : h'.case? c₁.id = some c₁ := Table.find?_key_of_mem h₁
    have hfound₂ : h'.case? c₂.id = some c₂ := Table.find?_key_of_mem h₂
    rw [← hid₁, heq, hid₂, hfound₂] at hfound₁
    exact (Option.some.inj hfound₁).symm

/-! ## A handling -/

section Rounds

variable [Python] {o : Handling} {eventId : String} {i : ℕ} {f : Finding} {fs : List Finding}
  {e : Exposure} {h h₁ h' : Hub}

theorem Finding.Stored.caseInv (hstored : f.Stored o eventId i h h') (hinv : CaseInv h) :
    CaseInv h' :=
  have heffect := UpsertArgs.effect_of_flush hstored
  hinv.mono (fun _ _ => heffect.exposure?_kept) (Hub.opensNothing_of_eq heffect.cases_eq)
    heffect.links_eq

/-- Two cases after the second transaction. -/
theorem OpenedEffect.caseInv {case : RemediationCase} (he : OpenedEffect o i f e h h' case)
    (heligible : Eligible o e h) (hfound : h.exposure? e.id = some e) (hinv : CaseInv h) :
    CaseInv h' := by
  obtain ⟨db, rfl⟩ := he.frame
  obtain ⟨horganization, -, hlists⟩ := he.case_lists
  have hrows := he.cases
  -- no open case lists the exposure: it would be of the same organization
  have hnone : ∀ c ∈ h.cases.rows, c.status ≠ .closed → e.id ∉ c.exposures := by
    intro c hc hopen hmem
    obtain ⟨e', he', heorg⟩ := hinv.listed c hc e.id hmem
    obtain rfl := Option.some.inj (he'.symm.trans hfound)
    have hlisted : h.listed e'.organizationId e'.id = true := by
      unfold Hub.listed
      rw [List.any_eq_true]
      exact ⟨c, hc, by simp [heorg, hopen, hmem]⟩
    rw [heligible.unlisted] at hlisted
    cases hlisted
  refine ⟨fun c hc x hx => ?_, fun l hl => ?_, fun c₁ hc₁ c₂ hc₂ hopen₁ hopen₂ x hx₁ hx₂ => ?_⟩
  · rw [hrows] at hc
    rcases List.mem_append.1 hc with hc | hc
    · exact hinv.listed c hc x hx
    · obtain rfl := List.mem_singleton.1 hc
      rw [hlists] at hx
      obtain rfl := List.mem_singleton.1 hx
      exact ⟨e, hfound, horganization.symm⟩
  · obtain ⟨c, hc, hmem⟩ := hinv.linked l hl
    refine ⟨c, Table.find?_eq_some.2 ⟨?_, Table.key_of_find? hc⟩, hmem⟩
    rw [hrows]
    exact List.mem_append_left _ (Table.mem_of_find? hc)
  · rw [hrows] at hc₁ hc₂
    rcases List.mem_append.1 hc₁ with hold₁ | hnew₁ <;>
      rcases List.mem_append.1 hc₂ with hold₂ | hnew₂
    · exact hinv.unique c₁ hold₁ c₂ hold₂ hopen₁ hopen₂ x hx₁ hx₂
    · rw [List.mem_singleton.1 hnew₂, hlists] at hx₂
      obtain rfl := List.mem_singleton.1 hx₂
      exact absurd hx₁ (hnone c₁ hold₁ hopen₁)
    · rw [List.mem_singleton.1 hnew₁, hlists] at hx₁
      obtain rfl := List.mem_singleton.1 hx₁
      exact absurd hx₂ (hnone c₂ hold₂ hopen₂)
    · rw [List.mem_singleton.1 hnew₁, List.mem_singleton.1 hnew₂]

theorem Finding.Opened.caseInv (hopened : f.Opened o i e h h')
    (hfound : h.exposureAt f.key = some e) (hinv : CaseInv h) : CaseInv h' := by
  obtain ⟨case, heffect⟩ := hopened.effect
  exact heffect.caseInv hopened.eligible (Hub.exposure?_of_exposureAt hfound) hinv

omit [Python] in
theorem LinkedEffect.case? (he : LinkedEffect o i f e h h') (id : String) :
    h'.case? id = (h.case? id).map (ticketed o i f) :=
  Table.find?_of_rows_map (id_ticketed o i f) he.cases id

omit [Python] in
theorem LinkedEffect.opensNothing (he : LinkedEffect o i f e h h') : h.OpensNothing h' := by
  refine ⟨fun id => ?_, fun id c c' hc hc' hclosed => ?_⟩
  · rw [he.case?]
    cases h.case? id with
    | none => rfl
    | some c =>
        have hkept := caseKept_ticketed o i f c
        simp [RemediationCase.subject, hkept.organizationId, hkept.exposures]
  · rw [he.case?, hc] at hc'
    obtain rfl := Option.some.inj hc'
    rw [(caseKept_ticketed o i f c).status, hclosed]

omit [Python] in
/-- A link to a case that lists its exposure. -/
theorem LinkedEffect.caseInv_of_lists {case : RemediationCase} (he : LinkedEffect o i f e h h')
    (hcase : h.case? (caseId (o.env i)) = some case) (hlists : e.id ∈ case.exposures)
    (hinv : CaseInv h) : CaseInv h' := by
  have hlinked := he.case? (caseId (o.env i))
  rw [hcase] at hlinked
  have hkept : CaseInv { h' with links := h.links } :=
    hinv.mono (Hub.keepsExposures_of_eq he.exposures_eq)
      ⟨he.opensNothing.subjects, he.opensNothing.closed⟩ rfl
  refine ⟨hkept.listed, fun l hl => ?_, hkept.unique⟩
  rw [he.links] at hl
  rcases List.mem_append.1 hl with hl | hl
  · exact hkept.linked l hl
  · obtain rfl := List.mem_singleton.1 hl
    refine ⟨_, hlinked, ?_⟩
    rw [(caseKept_ticketed o i f case).exposures]
    exact hlists

/-- The case that a round has opened is there, and lists the exposure. -/
theorem OpenedEffect.case? {case : RemediationCase} (hopened : OpenedEffect o i f e h h' case) :
    h'.case? (caseId (o.env i)) = some case ∧ e.id ∈ case.exposures := by
  obtain ⟨-, -, hlists⟩ := hopened.case_lists
  refine ⟨Table.find?_eq_some.2 ⟨?_, hopened.id_eq⟩, hlists ▸ List.mem_singleton.2 rfl⟩
  rw [hopened.cases]
  exact List.mem_append_right _ (List.mem_singleton.2 rfl)

/-- The link connects the exposure to a case that lists it. -/
theorem LinkedEffect.caseInv {case : RemediationCase} (hopened : OpenedEffect o i f e h h₁ case)
    (he : LinkedEffect o i f e h₁ h') (hinv : CaseInv h₁) : CaseInv h' :=
  he.caseInv_of_lists hopened.case?.1 hopened.case?.2 hinv

/-- **A round keeps the invariant.** -/
theorem Finding.Round.caseInv (hround : f.Round o eventId i h h') (hinv : CaseInv h) :
    CaseInv h' := by
  cases hround with
  | declined stored _ _ => exact stored.caseInv hinv
  | opened stored found _ opened linked =>
      obtain ⟨case, heffect⟩ := opened.effect
      exact linked.effect.caseInv heffect (opened.caseInv found (stored.caseInv hinv))

/-- And so does a handling, wherever its process dies. -/
theorem Passes.caseInv (hpasses : Passes o eventId i fs h h') (hinv : CaseInv h) : CaseInv h' := by
  induction hpasses with
  | start => exact hinv
  | stored hstored => exact hstored.caseInv hinv
  | opened hstored found _ hopened => exact hopened.caseInv found (hstored.caseInv hinv)
  | next round _ ih => exact ih (round.caseInv hinv)

/-! ## What a handling covers -/

omit [Python] in
theorem Hub.covered_iff {organizationId exposureId : String} :
    h.covered organizationId exposureId = true ↔
      (∃ l ∈ h.links.rows, l.exposureId = exposureId ∧
        ∃ c, h.case? l.caseId = some c ∧ c.status ≠ .closed) ∨
      ∃ c ∈ h.cases.rows, c.organizationId = organizationId ∧ c.status ≠ .closed ∧
        exposureId ∈ c.exposures := by
  simp [Hub.covered, Hub.linked, Hub.listed, Option.any_eq_true]

/-- A round keeps the links there are. -/
theorem Finding.Round.link_kept (hround : f.Round o eventId i h h') {l : CaseExposure}
    (hl : l ∈ h.links.rows) : l ∈ h'.links.rows := by
  cases hround with
  | declined stored _ _ =>
      rw [(UpsertArgs.effect_of_flush stored).links_eq]
      exact hl
  | opened stored _ _ opened linked =>
      obtain ⟨case, heffect⟩ := opened.effect
      obtain ⟨db, rfl⟩ := heffect.frame
      rw [linked.effect.links]
      refine List.mem_append_left _ ?_
      rw [← (UpsertArgs.effect_of_flush stored).links_eq] at hl
      exact hl

/-- An exposure that has its case keeps it. -/
theorem Finding.Round.covered_kept (hround : f.Round o eventId i h h')
    {organizationId exposureId : String} (hcovered : h.covered organizationId exposureId = true) :
    h'.covered organizationId exposureId = true := by
  rcases Hub.covered_iff.1 hcovered with ⟨l, hl, hid, c, hc, hopen⟩ | ⟨c, hc, horg, hopen, hlists⟩
  · obtain ⟨c', hc', hkept⟩ := hround.case_kept hc
    exact Hub.covered_iff.2 (Or.inl ⟨l, hround.link_kept hl, hid, c', hc', hkept.status ▸ hopen⟩)
  · have hfound : h.case? c.id = some c := Table.find?_key_of_mem hc
    obtain ⟨c', hc', hkept⟩ := hround.case_kept hfound
    exact Hub.covered_iff.2 (Or.inr ⟨c', Table.mem_of_find? hc', hkept.organizationId.trans horg,
      hkept.status ▸ hopen, hkept.exposures ▸ hlists⟩)

theorem Rounds.covered_kept (hrounds : Rounds o eventId i fs h h')
    {organizationId exposureId : String} (hcovered : h.covered organizationId exposureId = true) :
    h'.covered organizationId exposureId = true := by
  induction hrounds with
  | nil => exact hcovered
  | cons round rest ih => exact ih (round.covered_kept hcovered)

/-- A round that may open a case leaves one, for a class that opens cases. -/
theorem Finding.Round.covered (hround : f.Round o eventId i h h') (hopens : f.opensCase = true)
    (henabled : o.settings.caseAutoCreateEnabled = true) {e : Exposure}
    (he : h'.exposureAt f.key = some e) (hclass : e.matchClass ∈ caseClasses) :
    h'.covered e.organizationId e.id = true := by
  cases hround with
  | declined stored found declined =>
      obtain rfl := Option.some.inj (found.symm.trans he)
      by_contra hnot
      exact declined ⟨hopens, eligible_iff.2 ⟨henabled, hclass, by simpa using hnot⟩⟩
  | opened stored found _ opened linked =>
      unfold Hub.exposureAt at he found
      rw [linked.effect.exposures_eq, opened.exposures_eq] at he
      obtain rfl := Option.some.inj (found.symm.trans he)
      obtain ⟨case, heffect⟩ := opened.effect
      obtain ⟨horganization, hnew, hlists⟩ := heffect.case_lists
      have hkept := caseKept_ticketed o i f case
      refine Hub.covered_iff.2 (Or.inr ⟨ticketed o i f case, ?_, ?_, ?_, ?_⟩)
      · rw [linked.effect.cases, heffect.cases]
        exact List.mem_map_of_mem (List.mem_append_right _ (List.mem_singleton.2 rfl))
      · rw [hkept.organizationId, horganization]
      · rw [hkept.status, hnew]
        decide
      · rw [hkept.exposures, hlists]
        exact List.mem_singleton.2 rfl

/-- **A handling leaves a case for every exposure of its findings** whose class opens cases by then;
    the last finding under its key has given it that class. -/
theorem Rounds.covered (hrounds : Rounds o eventId i fs h h')
    (hopens : ∀ f ∈ fs, f.opensCase = true) (henabled : o.settings.caseAutoCreateEnabled = true)
    {e : Exposure} (hf : f ∈ fs) (he : h'.exposureAt f.key = some e)
    (hclass : e.matchClass ∈ caseClasses) : h'.covered e.organizationId e.id = true := by
  induction hrounds generalizing f with
  | nil => cases hf
  | @cons i g fs h h₁ h' round rest ih =>
      by_cases hlater : ∃ f' ∈ fs, f'.key = f.key
      · obtain ⟨f', hf', hkey⟩ := hlater
        rw [← hkey] at he
        exact ih (fun f'' hf'' => hopens f'' (List.mem_cons_of_mem _ hf'')) hf' he
      · have hsame : h'.exposureAt f.key = h₁.exposureAt f.key :=
          rest.exposureAt_of_ne fun f' hf' hkey => hlater ⟨f', hf', hkey⟩
        rcases List.mem_cons.1 hf with rfl | hf
        · rw [hsame] at he
          exact rest.covered_kept (round.covered (hopens _ List.mem_cons_self) henabled he hclass)
        · exact absurd ⟨f, hf, rfl⟩ hlater

end Rounds

/-! ## Runs -/

/-- What others may do to the rows in between: new evidence, another inventory, reviews. -/
structure Hub.Receives (h h' : Hub) : Prop where
  cases : h'.cases = h.cases
  links : h'.links = h.links
  exposures : h.KeepsExposures h'

section Runs

variable [Python] [Packaging]

/-- The runs of one orchestrator: it handles events, its process may die on the way, analysts work
    on the cases but reopen none, and new evidence comes in. -/
inductive Orchestrator.SoloRun (o : Orchestrator) (start : Hub) : ℕ → Hub → Prop where
  | start : o.SoloRun start 0 start
  | processed {tick : ℕ} {h : Hub} {event : OutboxEvent} (run : o.SoloRun start tick h)
      (mem : event ∈ h.outboxEvents.rows)
      (claim : claimable o.settings.maxAttempts event = true) :
      o.SoloRun start (tick + 1) (o.worker.processEvent tick event h).after
  | died {tick : ℕ} {h h' : Hub} {event : OutboxEvent}
      {handler : Handling → OutboxEvent → HubProg String} (run : o.SoloRun start tick h)
      (mem : event ∈ h.outboxEvents.rows)
      (claim : claimable o.settings.maxAttempts event = true)
      (handled : handlerOf event.eventType = some handler)
      (crashed : (handler (o.handling tick) event).Crashed h h') : o.SoloRun start (tick + 1) h'
  | served {tick : ℕ} {h : Hub} {c : Call} (run : o.SoloRun start tick h)
      (other : ∀ a, c.op ≠ .createCase a)
      (closed : ∀ id case case', h.case? id = some case → case.status = .closed →
        (c.run h.view).case? id = some case' → case'.status = .closed) :
      o.SoloRun start tick (h.put (c.run h.view))
  | received {tick : ℕ} {h h' : Hub} (run : o.SoloRun start tick h) (receives : h.Receives h') :
      o.SoloRun start tick h'

variable {o : Orchestrator} {start h h' : Hub} {tick : ℕ} {event : OutboxEvent}

omit [Python] [Packaging] in
theorem CaseInv.sameButOutbox (hinv : CaseInv h) (hsame : h.SameButOutbox h') : CaseInv h' := by
  obtain ⟨t, rfl⟩ := hsame
  exact ⟨hinv.listed, hinv.linked, hinv.unique⟩

theorem Orchestrator.Leads.caseInv (hleads : o.Leads tick event h h') (hinv : CaseInv h) :
    CaseInv h' := by
  rcases hleads with rfl | ⟨fs, -, hpasses⟩
  · exact hinv
  · exact hpasses.caseInv hinv

/-- **The invariant holds in every state of a run.** -/
theorem Orchestrator.SoloRun.caseInv (hcases : start.cases.rows = [])
    (hlinks : start.links.rows = []) (hrun : o.SoloRun start tick h) : CaseInv h := by
  induction hrun with
  | start => exact ⟨by simp [hcases], by simp [hlinks], by simp [hcases]⟩
  | @processed tick h event run mem claim ih =>
      obtain ⟨h₁, hleads, hsame⟩ := o.processEvent_leads tick event h
      exact (hleads.caseInv ih).sameButOutbox hsame
  | died run mem claim handled crashed ih => exact (crashed_leads handled crashed).caseInv ih
  | @served tick h c run other closed ih =>
      have hkept : h.OpensNothing (h.put (c.run h.view)) :=
        ⟨Call.run_sameSubjects h.view c other,
          fun id case case' hc hc' hst => closed id case case' hc hst hc'⟩
      exact ih.mono (Hub.keepsExposures_of_eq rfl) hkept rfl
  | received run receives ih =>
      exact ih.mono receives.exposures (Hub.opensNothing_of_eq receives.cases) receives.links

/-- What a delivered event leaves: the exposures it has touched are those of its findings, and each
    of them whose class opens cases has exactly one open case. -/
structure CasesComplete (fs : List Finding) (before after : Hub) : Prop where
  touched : ∀ key, after.exposureAt key ≠ before.exposureAt key → ∃ f ∈ fs, f.key = key
  covered : ∀ f ∈ fs, ∃ e, after.exposureAt f.key = some e ∧
    (e.matchClass ∈ caseClasses → ∃! c, after.OpenFor e.id c)

theorem Orchestrator.SoloRun.casesComplete (henabled : o.settings.caseAutoCreateEnabled = true)
    (hinv : CaseInv (o.worker.processEvent tick event h).after)
    (htype : event.eventType = "vulnops.sbom.processed.v1")
    (hcompleted : (o.worker.processEvent tick event h).completed = true) :
    ∃ fs, findingsOf (o.handling tick) event h = .ok fs ∧
      CasesComplete fs h (o.worker.processEvent tick event h).after := by
  have hhandler : handlerOf event.eventType = some handleSbomProcessed := by
    unfold handlerOf
    rw [if_pos htype]
  obtain ⟨fs, h₁, hfs, hrounds, hsame⟩ := Orchestrator.rounds_of_completed hhandler hcompleted
  refine ⟨fs, hfs, ?_⟩
  unfold findingsOf at hfs
  rw [if_pos htype] at hfs
  have hopens : ∀ f ∈ fs, f.opensCase = true := by
    intro f hf
    obtain ⟨_, _, _, _, rfl⟩ := mem_sbomFound hfs hf
    rfl
  obtain ⟨t, hafter⟩ := hsame
  rw [hafter] at hinv ⊢
  refine ⟨fun key hne => ?_, fun f hf => ?_⟩
  · by_contra hnone
    exact hne (hrounds.exposureAt_of_ne fun f hf hkey => hnone ⟨f, hf, hkey⟩)
  · obtain ⟨pre, post, rfl⟩ := List.append_of_mem hf
    obtain ⟨h₂, h₃, -, hround, hpost⟩ := hrounds.split
    obtain ⟨e, he, -⟩ := hpost.exposureAt_id hround.exposureAt
    refine ⟨e, he, fun hclass => ?_⟩
    have hcovered := hrounds.covered hopens henabled hf he hclass
    obtain ⟨c, hc⟩ := Hub.exists_openFor hcovered
    have hopen : ({ h₁ with outboxEvents := t } : Hub).OpenFor e.id c := ⟨hc.mem, hc.isOpen, hc.refers⟩
    exact ⟨c, hopen, fun c' hc' => hinv.openFor_unique hc' hopen⟩

/-- **One open case for an exposure.** In every state of a run no two open cases refer to one
    exposure, and a delivered bill of materials leaves each of its exposures whose class opens cases
    with exactly one. -/
theorem openCase_unique (o : Orchestrator) (start : Hub)
    (henabled : o.settings.caseAutoCreateEnabled = true) (hcases : start.cases.rows = [])
    (hlinks : start.links.rows = []) {tick : ℕ} {h : Hub} (hrun : o.SoloRun start tick h) :
    (∀ x c c', h.OpenFor x c → h.OpenFor x c' → c = c') ∧
    ∀ event ∈ h.outboxEvents.rows, claimable o.settings.maxAttempts event = true →
      event.eventType = "vulnops.sbom.processed.v1" →
      (o.worker.processEvent tick event h).completed = true →
      ∃ fs, findingsOf (o.handling tick) event h = .ok fs ∧
        CasesComplete fs h (o.worker.processEvent tick event h).after := by
  refine ⟨fun x c c' => (hrun.caseInv hcases hlinks).openFor_unique, ?_⟩
  intro event hmem hclaim htype hcompleted
  exact Orchestrator.SoloRun.casesComplete henabled
    ((hrun.processed hmem hclaim).caseInv hcases hlinks) htype hcompleted

end Runs

/-! ## A crash between an exposure and its case -/

/-- An event about that package waits. -/
def sampleWaiting : Hub :=
  { sampleInventory with outboxEvents := sampleBare.outboxEvents }

/-- The rows after the first commit of its handling. -/
def sampleInterrupted : Hub :=
  ((@handleSbomProcessed asciiPython dottedPackaging (sampleOrchestrator.handling 0)
    sampleSbomEvent).commits (Session.fresh sampleWaiting)).headD sampleWaiting

theorem sampleInterrupted_outbox : sampleInterrupted.outboxEvents.rows = [sampleSbomEvent] := rfl

/-- The process dies there, and the event is handled again and delivered. -/
theorem openCase_unique_interrupted :
    (∀ x c c', sampleInterrupted.OpenFor x c → sampleInterrupted.OpenFor x c' → c = c') ∧
    ∃ fs after, @findingsOf asciiPython dottedPackaging (sampleOrchestrator.handling 1)
      sampleSbomEvent sampleInterrupted = .ok fs ∧ after.cases.rows.length = 1 ∧
      CasesComplete fs sampleInterrupted after := by
  have hcrashed : (@handleSbomProcessed asciiPython dottedPackaging (sampleOrchestrator.handling 0)
      sampleSbomEvent).Crashed sampleWaiting sampleInterrupted := by
    have hhead : ∀ (dbs : List Hub) (h : Hub), dbs.headD h ∈ h :: dbs := by
      intro dbs h
      cases dbs <;> simp
    exact hhead _ _
  have hcompleted : ((@Orchestrator.worker asciiPython dottedPackaging
      sampleOrchestrator).processEvent 1 sampleSbomEvent sampleInterrupted).completed = true := by
    decide +kernel
  have hopened : ((@Orchestrator.worker asciiPython dottedPackaging
      sampleOrchestrator).processEvent 1 sampleSbomEvent
        sampleInterrupted).after.cases.rows.length = 1 := by decide +kernel
  have hrun : @Orchestrator.SoloRun asciiPython dottedPackaging sampleOrchestrator sampleWaiting 1
      sampleInterrupted :=
    @Orchestrator.SoloRun.died asciiPython dottedPackaging _ _ _ _ _ sampleSbomEvent _
      (@Orchestrator.SoloRun.start asciiPython dottedPackaging _ _) (List.mem_singleton.2 rfl) rfl
      rfl hcrashed
  obtain ⟨hunique, hcomplete⟩ := @openCase_unique asciiPython dottedPackaging sampleOrchestrator
    sampleWaiting rfl rfl rfl _ _ hrun
  obtain ⟨fs, hfs, hcases⟩ := hcomplete sampleSbomEvent
    (by rw [sampleInterrupted_outbox]; exact List.mem_singleton.2 rfl) rfl rfl hcompleted
  exact ⟨hunique, fs, _, hfs, hopened, hcases⟩

end VulnOpsHub
