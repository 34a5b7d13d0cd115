import VulnOpsHub.Workers.Runs

set_option autoImplicit false

/-! # What each transaction changes

The effects of the three transactions of a round, table by table, and of a whole round on the
exposures: the one under the finding's key is as the finding says, and no other changes. -/

namespace VulnOpsHub

/-! ## Statements of the case workflow -/

/-- The cases after a statement. -/
def Write.onCases (rows : List RemediationCase) : Write → List RemediationCase
  | .insertCase c => rows ++ [c]
  | .updateCase id p => rows.map fun c => if c.id = id then p.toRow.apply c else c
  | _ => rows

theorem Write.apply_cases {w : Write} {db db' : Db} (h : w.apply db = some db') :
    db'.cases.rows = w.onCases db.cases.rows := by
  cases w with
  | insertCase c =>
      simp only [Write.apply] at h
      split at h
      · cases h
      · obtain ⟨t, ht, rfl⟩ := Option.map_eq_some_iff.1 h
        exact Table.rows_insert ht
  | updateCase id p => cases h; rfl
  | updateDecision id p => cases h; rfl
  | _ => obtain ⟨t, -, rfl⟩ := Option.map_eq_some_iff.1 h; rfl

theorem flush_cases {ws : List Write} {db db' : Db} (h : Store.flush ws db = some db') :
    db'.cases.rows = ws.foldl (fun rows w => w.onCases rows) db.cases.rows := by
  induction ws generalizing db with
  | nil => cases h; rfl
  | cons w ws ih =>
      obtain ⟨db₁, hw, hws⟩ := Store.flush_cons h
      rw [ih hws, Write.apply_cases hw, List.foldl_cons]

section Effects

variable [Python] {o : Handling} {eventId : String} {i : ℕ} {f : Finding} {e : Exposure}
  {h h₁ h' : Hub}

/-! ## The case -/

/-- The effect of the second transaction. -/
structure OpenedEffect (o : Handling) (i : ℕ) (f : Finding) (e : Exposure) (h h' : Hub)
    (case : RemediationCase) : Prop where
  frame : ∃ db, h' = h.put db
  case_eq : ∃ owner, ownerOf (caseArgs o e f.componentLabel) (o.env i) h = .returned owner ∧
    case = newCase (caseArgs o e f.componentLabel) (o.env i) owner
  cases : h'.cases.rows = h.cases.rows ++ [case]
  audits : h'.auditEvents.rows = h.auditEvents.rows ++ createdAudit (o.env i) case ::
    if case.ownershipEscalated then [escalationAudit (o.env i) case] else []
  outbox : h'.outboxEvents.rows = h.outboxEvents.rows ++ [createdOutbox (o.env i) case]

theorem Finding.Opened.effect (hopened : f.Opened o i e h h') :
    ∃ case, OpenedEffect o i f e h h' case := by
  obtain ⟨owner, howner, hflush⟩ := hopened.created
  obtain ⟨db, hdb, rfl⟩ := flush_core _ hflush
  refine ⟨_, ⟨db, rfl⟩, ⟨owner, howner, rfl⟩, ?_, ?_, ?_⟩
  · show db.cases.rows = _
    rw [flush_cases hdb]
    unfold createdRows
    split <;> rfl
  · show db.auditEvents.rows = _
    rw [(flush_effect hdb).auditEvents]
    unfold createdRows
    split <;> rfl
  · show db.outboxEvents.rows = _
    rw [(flush_effect hdb).outboxEvents]
    unfold createdRows
    split <;> rfl

/-- A case is opened under an id that was free. -/
theorem OpenedEffect.case?_none {case : RemediationCase} (he : OpenedEffect o i f e h h' case) :
    h.case? case.id = none :=
  Table.find?_of_rows_append he.cases

theorem OpenedEffect.id_eq {case : RemediationCase} (he : OpenedEffect o i f e h h' case) :
    case.id = caseId (o.env i) := by
  obtain ⟨owner, -, rfl⟩ := he.case_eq
  rfl

/-- The new case lists its exposure, and is open. -/
theorem OpenedEffect.case_lists {case : RemediationCase} (he : OpenedEffect o i f e h h' case) :
    case.organizationId = e.organizationId ∧ case.status = .new ∧ case.exposures = [e.id] := by
  obtain ⟨owner, -, rfl⟩ := he.case_eq
  exact ⟨rfl, rfl, rfl⟩

/-! ## The link -/

omit [Python] in
/-- A case as the link's transaction leaves it. -/
def ticketed (o : Handling) (i : ℕ) (f : Finding) (c : RemediationCase) : RemediationCase :=
  match nonEmpty f.ticket with
  | none => c
  | some ticket =>
      if c.id = caseId (o.env i) then
        { c with externalTicketId := some ticket, updatedAt := (o.env i).clock 10 }
      else c

omit [Python] in
/-- The audit row of a ticket, if there is one. -/
def ticketAudits (o : Handling) (i : ℕ) (f : Finding) (e : Exposure) : List AuditEvent :=
  match nonEmpty f.ticket with
  | none => []
  | some _ => [ticketAudit (o.env i) e (caseId (o.env i)) f.provenance]

/-- The effect of the third transaction. -/
structure LinkedEffect (o : Handling) (i : ℕ) (f : Finding) (e : Exposure) (h h' : Hub) : Prop where
  frame : ∃ db t, h' = { h.put db with links := t }
  links : h'.links.rows = h.links.rows ++ [caseLink (o.env i) (caseId (o.env i)) e.id]
  cases : h'.cases.rows = h.cases.rows.map (ticketed o i f)
  audits : h'.auditEvents.rows = h.auditEvents.rows ++ ticketAudits o i f e
  outbox : h'.outboxEvents.rows = h.outboxEvents.rows

omit [Python] in
theorem Finding.Linked.effect (hlinked : f.Linked o i e h h') : LinkedEffect o i f e h h' := by
  obtain ⟨h₁, hlink, hrest⟩ := Store.flush_cons hlinked
  obtain ⟨t, ht, rfl⟩ := Option.map_eq_some_iff.1 hlink
  have hlinks := Table.rows_insert ht
  unfold ticketWrites at hrest
  cases hticket : nonEmpty f.ticket with
  | none =>
      rw [hticket] at hrest
      cases hrest
      have hsame : ticketed o i f = id := by
        funext c
        simp [ticketed, hticket]
      refine ⟨⟨h.view, t, rfl⟩, hlinks, ?_, ?_, rfl⟩
      · rw [hsame, List.map_id]
      · simp [ticketAudits, hticket]
  | some ticket =>
      rw [hticket] at hrest
      obtain ⟨db, hdb, rfl⟩ := flush_core [.updateCase _ _, .insertAudit _] hrest
      refine ⟨⟨db, t, rfl⟩, hlinks, ?_, ?_, ?_⟩
      · show db.cases.rows = _
        rw [flush_cases hdb]
        refine List.map_congr_left fun c _ => ?_
        simp [ticketed, hticket, CasePatch.toRow]
      · show db.auditEvents.rows = _
        rw [(flush_effect hdb).auditEvents]
        unfold ticketAudits
        rw [hticket]
        rfl
      · show db.outboxEvents.rows = _
        rw [(flush_effect hdb).outboxEvents]
        exact List.append_nil _

omit [Python] in
@[simp] theorem id_ticketed (o : Handling) (i : ℕ) (f : Finding) (c : RemediationCase) :
    (ticketed o i f c).id = c.id := by
  unfold ticketed
  split
  · rfl
  · split <;> rfl

/-- What handlers leave of a case as it is. -/
structure CaseKept (c c' : RemediationCase) : Prop where
  id : c'.id = c.id
  organizationId : c'.organizationId = c.organizationId
  status : c'.status = c.status
  priority : c'.priority = c.priority
  exposures : c'.exposures = c.exposures

omit [Python] in
theorem CaseKept.refl (c : RemediationCase) : CaseKept c c := ⟨rfl, rfl, rfl, rfl, rfl⟩

omit [Python] in
theorem CaseKept.trans {c c₁ c' : RemediationCase} (hfirst : CaseKept c c₁)
    (hsecond : CaseKept c₁ c') : CaseKept c c' where
  id := hsecond.id.trans hfirst.id
  organizationId := hsecond.organizationId.trans hfirst.organizationId
  status := hsecond.status.trans hfirst.status
  priority := hsecond.priority.trans hfirst.priority
  exposures := hsecond.exposures.trans hfirst.exposures

omit [Python] in
/-- A ticket changes nothing else. -/
theorem caseKept_ticketed (o : Handling) (i : ℕ) (f : Finding) (c : RemediationCase) :
    CaseKept c (ticketed o i f c) := by
  unfold ticketed
  split
  · exact .refl c
  · split
    · exact ⟨rfl, rfl, rfl, rfl, rfl⟩
    · exact .refl c

/-! ## Exposures -/

omit [Python] in
theorem LinkedEffect.exposures_eq (he : LinkedEffect o i f e h h') : h'.exposures = h.exposures := by
  obtain ⟨db, t, rfl⟩ := he.frame
  rfl

/-- The exposure under a finding's key, as its round leaves it. -/
def Finding.outcome (o : Handling) (eventId : String) (i : ℕ) (f : Finding) (h : Hub) : Exposure :=
  (f.args o.sources eventId h).outcome (o.env i) (h.exposureAt f.key)

theorem Finding.Round.stored_eq (hround : f.Round o eventId i h h') :
    ∃ h₁, f.Stored o eventId i h h₁ ∧ h'.exposures = h₁.exposures := by
  cases hround with
  | declined stored _ _ => exact ⟨h', stored, rfl⟩
  | opened stored _ _ opened linked =>
      exact ⟨_, stored, by rw [linked.effect.exposures_eq, opened.exposures_eq]⟩

/-- **A round leaves the exposure of its finding as the finding says.** -/
theorem Finding.Round.exposureAt (hround : f.Round o eventId i h h') :
    h'.exposureAt f.key = some (f.outcome o eventId i h) := by
  obtain ⟨h₁, hstored, hexposures⟩ := hround.stored_eq
  have hat := (UpsertArgs.effect_of_flush hstored).exposureAt_key
  unfold Hub.exposureAt at hat ⊢
  rw [hexposures]
  exact hat

/-- It leaves the others alone. -/
theorem Finding.Round.exposureAt_of_ne (hround : f.Round o eventId i h h') {key : ExposureKey}
    (hne : key ≠ f.key) : h'.exposureAt key = h.exposureAt key := by
  obtain ⟨h₁, hstored, hexposures⟩ := hround.stored_eq
  have hat := (UpsertArgs.effect_of_flush hstored).exposureAt_of_ne hne
  unfold Hub.exposureAt at hat ⊢
  rw [hexposures]
  exact hat

omit [Python] in
@[simp] theorem UpsertArgs.matchClass_outcome (a : UpsertArgs) (env : CallEnv)
    (existing : Option Exposure) : (a.outcome env existing).matchClass = a.matchClass := by
  cases existing <;> rfl

omit [Python] in
@[simp] theorem UpsertArgs.state_outcome (a : UpsertArgs) (env : CallEnv)
    (existing : Option Exposure) :
    (a.outcome env existing).state = exposureState a.matchClass := by
  cases existing <;> rfl

omit [Python] in
@[simp] theorem UpsertArgs.confidence_outcome (a : UpsertArgs) (env : CallEnv)
    (existing : Option Exposure) : (a.outcome env existing).confidence = a.confidence := by
  cases existing <;> rfl

/-- The priority of a finding over the rows `h`. -/
def Finding.priority (f : Finding) (s : Sources) (h : Hub) : Priority :=
  priorityOf f.vulnerabilityId f.result.matchClass f.result.confidence
    (s.isKev h f.vulnerabilityId) (s.epssFor f.vulnerabilityId)

@[simp] theorem Finding.priority_outcome (o : Handling) (eventId : String) (i : ℕ) (f : Finding)
    (h : Hub) : (f.outcome o eventId i h).priority = some (f.priority o.sources h) := by
  unfold Finding.outcome
  cases h.exposureAt f.key <;> rfl

@[simp] theorem Finding.matchClass_outcome (o : Handling) (eventId : String) (i : ℕ) (f : Finding)
    (h : Hub) : (f.outcome o eventId i h).matchClass = f.result.matchClass :=
  UpsertArgs.matchClass_outcome _ _ _

@[simp] theorem Finding.state_outcome (o : Handling) (eventId : String) (i : ℕ) (f : Finding)
    (h : Hub) : (f.outcome o eventId i h).state = exposureState f.result.matchClass :=
  UpsertArgs.state_outcome _ _ _

/-- The exposure a round goes on with is the one it has stored. -/
theorem Finding.Stored.exposureAt (hstored : f.Stored o eventId i h h₁) :
    h₁.exposureAt f.key = some (f.outcome o eventId i h) :=
  (UpsertArgs.effect_of_flush hstored).exposureAt_key

/-- A case that a round opens has the priority of its exposure, and lists it. -/
theorem Finding.Round.of_new_case (hround : f.Round o eventId i h h') {c : RemediationCase}
    (hc : c ∈ h'.cases.rows) (hnew : h.case? c.id = none) :
    c.priority = (f.priority o.sources h).value ∧
      c.exposures = [(f.outcome o eventId i h).id] := by
  have hold : c.id ∉ h.cases.rows.map (·.id) := by
    intro hmem
    obtain ⟨x, hx, hid⟩ := List.mem_map.1 hmem
    have hfind : h.case? x.id = some x := Table.find?_key_of_mem hx
    rw [hid, hnew] at hfind
    cases hfind
  cases hround with
  | declined stored _ _ =>
      rw [(UpsertArgs.effect_of_flush stored).cases_eq] at hc
      exact absurd (List.mem_map_of_mem hc) hold
  | opened stored found _ opened linked =>
      obtain ⟨case, heffect⟩ := opened.effect
      obtain rfl := Option.some.inj (stored.exposureAt.symm.trans found)
      rw [linked.effect.cases, heffect.cases, (UpsertArgs.effect_of_flush stored).cases_eq] at hc
      obtain ⟨x, hx, rfl⟩ := List.mem_map.1 hc
      rw [id_ticketed] at hold
      rcases List.mem_append.1 hx with hx | hx
      · exact absurd (List.mem_map_of_mem hx) hold
      · obtain rfl := List.mem_singleton.1 hx
        obtain ⟨owner, -, rfl⟩ := heffect.case_eq
        have hkept := caseKept_ticketed o i f
        rw [(hkept _).priority, (hkept _).exposures]
        simp [newCase, caseArgs]

/-- A round keeps the cases there are. -/
theorem Finding.Round.case_kept (hround : f.Round o eventId i h h') {id : String}
    {c : RemediationCase} (hc : h.case? id = some c) :
    ∃ c', h'.case? id = some c' ∧ CaseKept c c' := by
  cases hround with
  | declined stored _ _ =>
      refine ⟨c, ?_, .refl c⟩
      unfold Hub.case?
      rw [(UpsertArgs.effect_of_flush stored).cases_eq]
      exact hc
  | opened stored _ _ opened linked =>
      obtain ⟨case, heffect⟩ := opened.effect
      obtain ⟨hmem, hkey⟩ := Table.find?_eq_some.1 hc
      have hkept := caseKept_ticketed o i f c
      refine ⟨ticketed o i f c, Table.find?_eq_some.2 ⟨?_, hkept.id.trans hkey⟩, hkept⟩
      rw [linked.effect.cases, heffect.cases, (UpsertArgs.effect_of_flush stored).cases_eq]
      exact List.mem_map_of_mem (List.mem_append_left _ hmem)

/-! ## The rest -/

/-- What no handler writes is the same. -/
structure SameInputs (h h' : Hub) : Prop where
  occurrences : h'.occurrences = h.occurrences
  assets : h'.assets = h.assets
  services : h'.services = h.services
  assertions : h'.assertions = h.assertions

omit [Python] in
theorem SameInputs.refl (h : Hub) : SameInputs h h := ⟨rfl, rfl, rfl, rfl⟩

omit [Python] in
theorem SameInputs.trans (hfirst : SameInputs h h₁) (hsecond : SameInputs h₁ h') :
    SameInputs h h' where
  occurrences := hsecond.occurrences.trans hfirst.occurrences
  assets := hsecond.assets.trans hfirst.assets
  services := hsecond.services.trans hfirst.services
  assertions := hsecond.assertions.trans hfirst.assertions

theorem Finding.Stored.sameInputs (hstored : f.Stored o eventId i h h') : SameInputs h h' := by
  obtain ⟨t, m, rfl⟩ := (UpsertArgs.effect_of_flush hstored).frame
  exact ⟨rfl, rfl, rfl, rfl⟩

theorem Finding.Opened.sameInputs (hopened : f.Opened o i e h h') : SameInputs h h' := by
  obtain ⟨case, heffect⟩ := hopened.effect
  obtain ⟨db, rfl⟩ := heffect.frame
  exact ⟨rfl, rfl, rfl, rfl⟩

omit [Python] in
theorem Finding.Linked.sameInputs (hlinked : f.Linked o i e h h') : SameInputs h h' := by
  obtain ⟨db, t, rfl⟩ := hlinked.effect.frame
  exact ⟨rfl, rfl, rfl, rfl⟩

theorem Finding.Round.sameInputs (hround : f.Round o eventId i h h') : SameInputs h h' := by
  cases hround with
  | declined stored _ _ => exact stored.sameInputs
  | opened stored _ _ opened linked =>
      exact stored.sameInputs.trans (opened.sameInputs.trans linked.sameInputs)

omit [Python] in
/-- With the same assertions a vulnerability is in the catalogue or not. -/
theorem SameInputs.isKev (hsame : SameInputs h h') (s : Sources) (vulnerabilityId : String) :
    s.isKev h' vulnerabilityId = s.isKev h vulnerabilityId := by
  have hpersisted : h'.kevPersisted = h.kevPersisted := by
    funext cveId
    unfold Hub.kevPersisted
    rw [hsame.assertions]
  unfold Sources.isKev
  rw [hpersisted]

theorem SameInputs.priority (hsame : SameInputs h h') (f : Finding) (s : Sources) :
    f.priority s h' = f.priority s h := by
  unfold Finding.priority
  rw [hsame.isKev]

/-! ## Runs -/

variable {fs pre post : List Finding}

theorem Rounds.sameInputs (hrounds : Rounds o eventId i fs h h') : SameInputs h h' := by
  induction hrounds with
  | nil => exact .refl _
  | cons round rest ih => exact round.sameInputs.trans ih

/-- The round of one of the findings. -/
theorem Rounds.split (hrounds : Rounds o eventId i (pre ++ f :: post) h h') :
    ∃ h₁ h₂, Rounds o eventId i pre h h₁ ∧ f.Round o eventId (i + pre.length) h₁ h₂ ∧
      Rounds o eventId (i + pre.length + 1) post h₂ h' := by
  induction pre generalizing i h with
  | nil =>
      cases hrounds with
      | cons round rest => exact ⟨h, _, .nil i h, round, rest⟩
  | cons g pre ih =>
      cases hrounds with
      | cons round rest =>
          obtain ⟨h₁, h₂, hpre, hround, hpost⟩ := ih rest
          have hlength : i + 1 + pre.length = i + (g :: pre).length := by
            rw [List.length_cons]
            omega
          rw [hlength] at hround hpost
          exact ⟨h₁, h₂, .cons round hpre, hround, hpost⟩

theorem Rounds.case_kept (hrounds : Rounds o eventId i fs h h') {id : String}
    {c : RemediationCase} (hc : h.case? id = some c) :
    ∃ c', h'.case? id = some c' ∧ CaseKept c c' := by
  induction hrounds generalizing c with
  | nil => exact ⟨c, hc, .refl c⟩
  | cons round rest ih =>
      obtain ⟨c₁, hc₁, hfirst⟩ := round.case_kept hc
      obtain ⟨c', hc', hsecond⟩ := ih hc₁
      exact ⟨c', hc', hfirst.trans hsecond⟩

/-- The first exposure under a key keeps its id. -/
theorem Finding.Round.exposureAt_id (hround : f.Round o eventId i h h') {key : ExposureKey}
    {e : Exposure} (he : h.exposureAt key = some e) :
    ∃ e', h'.exposureAt key = some e' ∧ e'.id = e.id := by
  by_cases hkey : key = f.key
  · subst hkey
    refine ⟨_, hround.exposureAt, ?_⟩
    unfold Finding.outcome
    rw [he]
    rfl
  · exact ⟨e, by rw [hround.exposureAt_of_ne hkey, he], rfl⟩

theorem Rounds.exposureAt_id (hrounds : Rounds o eventId i fs h h') {key : ExposureKey}
    {e : Exposure} (he : h.exposureAt key = some e) :
    ∃ e', h'.exposureAt key = some e' ∧ e'.id = e.id := by
  induction hrounds generalizing e with
  | nil => exact ⟨e, he, rfl⟩
  | cons round rest ih =>
      obtain ⟨e₁, he₁, hfirst⟩ := round.exposureAt_id he
      obtain ⟨e', he', hsecond⟩ := ih he₁
      exact ⟨e', he', hsecond.trans hfirst⟩

/-- A case that a handling opens lists the exposure under the key of one of its findings. -/
theorem Rounds.of_new_case (hrounds : Rounds o eventId i fs h h') {c : RemediationCase}
    (hc : c ∈ h'.cases.rows) (hnew : h.case? c.id = none) :
    ∃ g ∈ fs, ∃ e, h'.exposureAt g.key = some e ∧ c.exposures = [e.id] := by
  induction hrounds with
  | @nil i h =>
      have hfind : h.case? c.id = some c := Table.find?_key_of_mem hc
      rw [hnew] at hfind
      cases hfind
  | @cons i g fs h h₁ h' round rest ih =>
      cases hfirst : h₁.case? c.id with
      | none =>
          obtain ⟨f, hf, e, he, hlists⟩ := ih hc hfirst
          exact ⟨f, List.mem_cons_of_mem _ hf, e, he, hlists⟩
      | some c₁ =>
          obtain ⟨c', hc', hkept⟩ := rest.case_kept hfirst
          have hfind : h'.case? c.id = some c := Table.find?_key_of_mem hc
          obtain rfl := Option.some.inj (hfind.symm.trans hc')
          obtain ⟨hmem, -⟩ := Table.find?_eq_some.1 hfirst
          obtain ⟨e, he, hid⟩ := rest.exposureAt_id round.exposureAt
          refine ⟨g, List.mem_cons_self, e, he, ?_⟩
          rw [hkept.exposures, (round.of_new_case hmem (by rw [← hkept.id]; exact hnew)).2, hid]

/-- Exposures under other keys stay as they are. -/
theorem Rounds.exposureAt_of_ne (hrounds : Rounds o eventId i fs h h') {key : ExposureKey}
    (hne : ∀ f ∈ fs, f.key ≠ key) : h'.exposureAt key = h.exposureAt key := by
  induction hrounds with
  | nil => rfl
  | cons round rest ih =>
      rw [ih fun g hg => hne g (List.mem_cons_of_mem _ hg),
        round.exposureAt_of_ne (hne _ List.mem_cons_self).symm]

/-! ## Where a handling leads -/

theorem Finding.Stored.unique (hfirst : f.Stored o eventId i h h₁)
    (hsecond : f.Stored o eventId i h h') : h₁ = h' :=
  Option.some.inj (hfirst.symm.trans hsecond)

theorem Finding.Opened.unique (hfirst : f.Opened o i e h h₁) (hsecond : f.Opened o i e h h') :
    h₁ = h' := by
  obtain ⟨owner, howner, hflush⟩ := hfirst.created
  obtain ⟨owner', howner', hflush'⟩ := hsecond.created
  obtain rfl : owner = owner' := by
    injection howner.symm.trans howner'
  exact Option.some.inj (hflush.symm.trans hflush')

omit [Python] in
theorem Finding.Linked.unique (hfirst : f.Linked o i e h h₁) (hsecond : f.Linked o i e h h') :
    h₁ = h' := Option.some.inj (hfirst.symm.trans hsecond)

/-- From the same rows a round leads to the same rows. -/
theorem Finding.Round.unique (hfirst : f.Round o eventId i h h₁)
    (hsecond : f.Round o eventId i h h') : h₁ = h' := by
  cases hfirst with
  | declined stored found declined =>
      cases hsecond with
      | declined stored' _ _ => exact stored.unique stored'
      | opened stored' found' opens' opened' _ =>
          obtain rfl := stored.unique stored'
          obtain rfl := Option.some.inj (found.symm.trans found')
          exact absurd ⟨opens', opened'.eligible⟩ declined
  | opened stored found opens opened linked =>
      cases hsecond with
      | declined stored' found' declined' =>
          obtain rfl := stored.unique stored'
          obtain rfl := Option.some.inj (found.symm.trans found')
          exact absurd ⟨opens, opened.eligible⟩ declined'
      | opened stored' found' _ opened' linked' =>
          obtain rfl := stored.unique stored'
          obtain rfl := Option.some.inj (found.symm.trans found')
          obtain rfl := opened.unique opened'
          exact linked.unique linked'

theorem Rounds.unique (hfirst : Rounds o eventId i fs h h₁) (hsecond : Rounds o eventId i fs h h') :
    h₁ = h' := by
  induction hfirst with
  | nil =>
      cases hsecond
      rfl
  | cons round rest ih =>
      cases hsecond with
      | cons round' rest' =>
          obtain rfl := round.unique round'
          exact ih rest'

/-- An open case is there for the exposure: by a link, or by the list of the case. -/
def Hub.covered (h : Hub) (organizationId exposureId : String) : Bool :=
  h.linked exposureId || h.listed organizationId exposureId

omit [Python] in
theorem Hub.covered_congr {organizationId exposureId : String} (hcases : h'.cases = h.cases)
    (hlinks : h'.links = h.links) :
    h'.covered organizationId exposureId = h.covered organizationId exposureId := by
  unfold Hub.covered Hub.linked Hub.listed Hub.case?
  rw [hcases, hlinks]

omit [Python] in
theorem eligible_iff : Eligible o e h ↔ o.settings.caseAutoCreateEnabled = true ∧
    e.matchClass ∈ caseClasses ∧ h.covered e.organizationId e.id = false := by
  unfold Hub.covered
  rw [Bool.or_eq_false_iff]
  exact ⟨fun hel => ⟨hel.enabled, hel.matchClass, hel.unlinked, hel.unlisted⟩,
    fun ⟨henabled, hclass, hunlinked, hunlisted⟩ => ⟨henabled, hclass, hunlinked, hunlisted⟩⟩

/-- The id a finding's exposure goes by: the one it has, or a new one. -/
def Finding.exposureId (o : Handling) (i : ℕ) (f : Finding) (h : Hub) : String :=
  ((h.exposureAt f.key).map (·.id)).getD ((o.env i).rowId "exp_" 12 7)

@[simp] theorem Finding.id_outcome (o : Handling) (eventId : String) (i : ℕ) (f : Finding)
    (h : Hub) : (f.outcome o eventId i h).id = f.exposureId o i h := by
  unfold Finding.outcome Finding.exposureId
  cases h.exposureAt f.key <;> rfl

@[simp] theorem Finding.organizationId_outcome (o : Handling) (eventId : String) (i : ℕ)
    (f : Finding) (h : Hub) : (f.outcome o eventId i h).organizationId = f.organizationId := by
  unfold Finding.outcome
  cases hat : h.exposureAt f.key with
  | none => rfl
  | some e =>
      have hkey := (Hub.exposureAt_eq_some hat).2
      exact congrArg ExposureKey.organizationId hkey

/-- A round opens a case exactly when its finding wants one and none is there. -/
theorem Finding.Round.opens_iff (hround : f.Round o eventId i h h') :
    (∃ c ∈ h'.cases.rows, h.case? c.id = none) ↔ f.opensCase = true ∧
      o.settings.caseAutoCreateEnabled = true ∧ f.result.matchClass ∈ caseClasses ∧
      h.covered f.organizationId (f.exposureId o i h) = false := by
  have heligible : ∀ {h₁}, f.Stored o eventId i h h₁ → (Eligible o (f.outcome o eventId i h) h₁ ↔
      o.settings.caseAutoCreateEnabled = true ∧ f.result.matchClass ∈ caseClasses ∧
        h.covered f.organizationId (f.exposureId o i h) = false) := by
    intro h₁ hstored
    have heffect := UpsertArgs.effect_of_flush hstored
    rw [eligible_iff, Hub.covered_congr heffect.cases_eq heffect.links_eq]
    simp
  cases hround with
  | declined stored found declined =>
      obtain rfl := Option.some.inj (stored.exposureAt.symm.trans found)
      rw [heligible stored] at declined
      refine ⟨?_, fun hopens => absurd hopens declined⟩
      rintro ⟨c, hc, hnew⟩
      rw [(UpsertArgs.effect_of_flush stored).cases_eq] at hc
      have hfind : h.case? c.id = some c := Table.find?_key_of_mem hc
      rw [hnew] at hfind
      cases hfind
  | opened stored found opens opened linked =>
      obtain rfl := Option.some.inj (stored.exposureAt.symm.trans found)
      refine ⟨fun _ => ⟨opens, (heligible stored).1 opened.eligible⟩, fun _ => ?_⟩
      obtain ⟨case, heffect⟩ := opened.effect
      have hcases := (UpsertArgs.effect_of_flush stored).cases_eq
      refine ⟨ticketed o i f case, ?_, ?_⟩
      · rw [linked.effect.cases, heffect.cases]
        exact List.mem_map_of_mem (List.mem_append_right _ (List.mem_singleton.2 rfl))
      · have hnone := heffect.case?_none
        rw [id_ticketed]
        unfold Hub.case? at hnone ⊢
        rwa [hcases] at hnone

end Effects

end VulnOpsHub
