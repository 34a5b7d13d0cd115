import VulnOpsHub.Workers.Tenants
import VulnOpsHub.Workers.Uniqueness

set_option autoImplicit false

/-! # Workers and organizations

A handler works for the organization that the payload of its event names, and for that one alone. So
in every interleaving of any number of workers, the rows of an organization change only if a worker
takes up one of its events (`tenants_apart`), and every exposure that is added has evidence of an event
of its organization (`exposures_backed`). -/

namespace VulnOpsHub

/-! ## Handlers -/

/-- The organization a handler works for: the one its payload names, if it names one. -/
def OutboxEvent.organizationId (event : OutboxEvent) : String :=
  match event.payload.orEmpty.get "organization_id" >>= fun organization =>
      organization.textOr "default" with
  | .ok organizationId => organizationId
  | .error _ => "default"

/-- A program of a worker that changes its event alone. -/
theorem updateEvent_works {only refs : String → Prop} {id : String} {p : OutboxPatch}
    (hp : p.deliveredAt ≠ some none) (h : Hub) : h.Works only refs (h.updateEvent id p) := by
  have hwrite : (HubWrite.updateOutbox id p).apply h = some (h.updateEvent id p) := rfl
  have hfor : ∀ mine, (HubWrite.updateOutbox id p).For mine h := fun _ => hp
  refine Hub.Within.works ⟨⟨((hfor "").within hwrite).toKept, fun other _ => rfl⟩, ?_⟩ rfl
  exact (hfor "").waiting hwrite

theorem completeEvent_works {only refs : String → Prop} (event : OutboxEvent) (now : Instant)
    (h : Hub) : (completeEvent event now).Wp Hub.Kept (Hub.Works only refs) (fun _ s => Clean s)
      (Session.fresh h) := by
  unfold completeEvent
  refine Program.wp_add_bind (Program.wp_commitAll (fun _ _ _ => ⟨rfl, rfl⟩) fun t t' _ hflush => ?_)
  cases hflush
  exact ⟨updateEvent_works (by simp) t, rfl, rfl⟩

theorem failEvent_works {only refs : String → Prop} (event : OutboxEvent) (s : Session Hub) :
    (failEvent event).Wp Hub.Kept (Hub.Works only refs) (fun _ s => Clean s) s := by
  unfold failEvent
  refine Program.wp_rollbackAll_bind (Program.wp_lookup_bind (fun _ _ _ => ⟨rfl, rfl⟩)
    fun t stored _ _ => Program.wp_add_bind ?_)
  refine Program.wp_commitAll (fun _ _ _ => ⟨rfl, rfl⟩) fun u u' _ hflush => ?_
  cases hflush
  exact ⟨updateEvent_works (by simp) u, rfl, rfl⟩

/-- Two ways to the same continuation. -/
theorem exists_of_ite_bind {α β : Type} {p : Prop} [Decidable p] {x y : Except PyError α}
    {f : α → Except PyError β} {b : β} (h : (if p then x >>= f else y >>= f) = .ok b) :
    ∃ a, f a = .ok b := by
  split at h
  · obtain ⟨a, -, ha⟩ := except_bind_eq_ok.1 h
    exact ⟨a, ha⟩
  · obtain ⟨a, -, ha⟩ := except_bind_eq_ok.1 h
    exact ⟨a, ha⟩

section Handlers

variable [Python] [Packaging] {o : Handling} {event : OutboxEvent} {fs : List Finding}

omit [Python] [Packaging] in
theorem organizationId_eq {organization : Json} {organizationId : String}
    (hget : event.payload.orEmpty.get "organization_id" = .ok organization)
    (htext : organization.textOr "default" = .ok organizationId) :
    event.organizationId = organizationId := by
  unfold OutboxEvent.organizationId
  rw [hget, except_ok_bind, htext]

omit [Packaging] in
theorem organizationId_of_dojoFields {fields : DojoFields}
    (hdecode : DojoFields.decode event.payload.orEmpty = .ok (.inr fields)) :
    fields.organizationId = event.organizationId := by
  unfold DojoFields.decode at hdecode
  obtain ⟨findingId, -, hdecode⟩ := except_bind_eq_ok.1 hdecode
  obtain ⟨mapping, -, hdecode⟩ := except_bind_eq_ok.1 hdecode
  obtain ⟨status, -, hdecode⟩ := except_bind_eq_ok.1 hdecode
  split_ifs at hdecode
  · cases hdecode
  obtain ⟨cve, -, hdecode⟩ := except_bind_eq_ok.1 hdecode
  split_ifs at hdecode
  · cases hdecode
  obtain ⟨scanMetadata, -, hdecode⟩ := except_bind_eq_ok.1 hdecode
  obtain ⟨scanner, -, hdecode⟩ := except_bind_eq_ok.1 hdecode
  obtain ⟨_, hdecode⟩ := exists_of_ite_bind hdecode
  obtain ⟨scanType, -, hdecode⟩ := except_bind_eq_ok.1 hdecode
  obtain ⟨_, hdecode⟩ := exists_of_ite_bind hdecode
  obtain ⟨cveText, -, hdecode⟩ := except_bind_eq_ok.1 hdecode
  obtain ⟨organization, hget, hdecode⟩ := except_bind_eq_ok.1 hdecode
  obtain ⟨organizationId, htext, hdecode⟩ := except_bind_eq_ok.1 hdecode
  simp only [except_bind_eq_ok] at hdecode
  obtain ⟨_, -, _, -, _, -, _, -, _, -, _, -, _, -, _, -, _, -, _, -, _, -, hfields⟩ := hdecode
  cases hfields
  exact (organizationId_eq hget htext).symm

omit [Packaging] in
theorem organizationId_of_wazuhFields {fields : WazuhFields}
    (hdecode : WazuhFields.decode event.payload.orEmpty = .ok (.inr fields)) :
    fields.organizationId = event.organizationId := by
  unfold WazuhFields.decode at hdecode
  obtain ⟨agent, -, hdecode⟩ := except_bind_eq_ok.1 hdecode
  obtain ⟨cve, -, hdecode⟩ := except_bind_eq_ok.1 hdecode
  dsimp only at hdecode
  by_cases hcve : (!cve.truthy || cve.isOneOf ["unknown"]) = true
  · rw [if_pos hcve] at hdecode
    cases hdecode
  rw [if_neg hcve] at hdecode
  obtain ⟨package, -, hdecode⟩ := except_bind_eq_ok.1 hdecode
  obtain ⟨derivation, -, hdecode⟩ := except_bind_eq_ok.1 hdecode
  obtain ⟨mapping, -, hdecode⟩ := except_bind_eq_ok.1 hdecode
  obtain ⟨cveText, -, hdecode⟩ := except_bind_eq_ok.1 hdecode
  obtain ⟨organization, hget, hdecode⟩ := except_bind_eq_ok.1 hdecode
  obtain ⟨organizationId, htext, hdecode⟩ := except_bind_eq_ok.1 hdecode
  simp only [except_bind_eq_ok] at hdecode
  obtain ⟨_, -, _, -, _, -, _, -, _, -, _, -, _, -, _, -, _, -, hfields⟩ := hdecode
  cases hfields
  exact (organizationId_eq hget htext).symm

/-- What `_handle_sbom_processed` records is for the organization of its event. -/
theorem handleSbomProcessed_works (h : Hub) :
    (handleSbomProcessed o event).Wp Hub.Kept
      (Hub.Works (· = event.organizationId) (· = event.id)) (fun _ s => Clean s)
      (Session.fresh h) := by
  unfold handleSbomProcessed
  dsimp only
  refine Program.wp_ofExcept_bind (fun _ _ => ⟨rfl, rfl⟩) fun document _ => ?_
  refine Program.wp_ofExcept_bind (fun _ _ => ⟨rfl, rfl⟩) fun sbomId? _ => ?_
  cases sbomId? with
  | none => exact Program.wp_ret.2 ⟨rfl, rfl⟩
  | some sbomId =>
      refine Program.wp_select_bind fun t _ => ?_
      refine Program.wp_ofExcept_bind (fun _ _ => ⟨rfl, rfl⟩) fun records _ => ?_
      generalize sbomMatches _ records = ms
      refine Program.wp_ofExcept_bind (fun _ _ => ⟨rfl, rfl⟩) fun organizationId horganization => ?_
      have hfs : ∀ f ∈ sbomFindings o organizationId sbomId ms,
          f.organizationId = event.organizationId := by
        intro f hf
        obtain ⟨⟨m, i⟩, hm, rfl⟩ := List.mem_map.1 hf
        split_ifs at horganization with hnone
        · rw [hnone] at hm
          cases hm
        · obtain ⟨organization, hget, htext⟩ := except_bind_eq_ok.1 horganization
          exact (organizationId_eq hget htext).symm
      refine Program.wp_bind (Program.wp_mono (fun out s hs => ?_) (recordFindings_works hfs t))
      cases out with
      | returned _ => exact Program.wp_ret.2 hs
      | raised e => exact hs
      | failed => exact hs

theorem organizationId_of_dojoFound (hfs : dojoFound o event = .ok fs) :
    ∀ f ∈ fs, f.organizationId = event.organizationId := by
  intro f hf
  unfold dojoFound at hfs
  obtain ⟨decoded, hdecode, hfs⟩ := except_bind_eq_ok.1 hfs
  cases decoded with
  | inl summary =>
      cases hfs
      cases hf
  | inr fields =>
      obtain ⟨records, -, hfs⟩ := except_bind_eq_ok.1 hfs
      cases hfs
      rw [List.mem_singleton.1 hf]
      exact organizationId_of_dojoFields hdecode

theorem organizationId_of_wazuhFound (hfs : wazuhFound o event = .ok fs) :
    ∀ f ∈ fs, f.organizationId = event.organizationId := by
  intro f hf
  unfold wazuhFound at hfs
  obtain ⟨decoded, hdecode, hfs⟩ := except_bind_eq_ok.1 hfs
  cases decoded with
  | inl summary =>
      cases hfs
      cases hf
  | inr fields =>
      obtain ⟨records, -, hfs⟩ := except_bind_eq_ok.1 hfs
      cases hfs
      rw [List.mem_singleton.1 hf]
      exact organizationId_of_wazuhFields hdecode

/-- **A handler** keeps to the organization of its event, whatever the others do. -/
theorem handler_works {handler : Handling → OutboxEvent → HubProg String}
    (hhandler : handlerOf event.eventType = some handler) (h : Hub) :
    ((handler o event).map fun _ => ()).Wp Hub.Kept
      (Hub.Works (· = event.organizationId) (· = event.id)) (fun _ s => Clean s)
      (Session.fresh h) := by
  refine Program.wp_map.2 ?_
  unfold handlerOf at hhandler
  split_ifs at hhandler
  · cases hhandler
    exact handleSbomProcessed_works h
  · cases hhandler
    exact wp_handleDefectdojoIngested (Q := fun _ s => Clean s) (fun _ _ => ⟨rfl, rfl⟩)
      fun fs hfs => recordFindings_works (organizationId_of_dojoFound hfs) h
  · cases hhandler
    exact wp_handleWazuhIngested (Q := fun _ s => Clean s) (fun _ _ => ⟨rfl, rfl⟩)
      fun fs hfs => recordFindings_works (organizationId_of_wazuhFound hfs) h

end Handlers

/-! ## Crews -/

theorem organizationId_congr {r e : OutboxEvent} (h : r.payload = e.payload) :
    r.organizationId = e.organizationId := by
  unfold OutboxEvent.organizationId
  rw [h]

/-- What a worker may commit while it is busy with an event. -/
def Member.works (m : Member) (event : OutboxEvent) : Hub → Hub → Prop :=
  match m.phase with
  | .handling => Hub.Works (· = event.organizationId) (· = event.id)
  | _ => Hub.Works (fun _ => False) fun _ => False

theorem Member.works_cases (m : Member) (event : OutboxEvent) :
    (m.phase = .handling ∧
      m.works event = Hub.Works (· = event.organizationId) (· = event.id)) ∨
      m.works event = Hub.Works (fun _ => False) fun _ => False := by
  unfold works
  split
  · next hphase => exact .inl ⟨hphase, rfl⟩
  · exact .inr rfl

section Crews

variable [Python] [Packaging]

/-- A worker between two statements that handles events of organizations in `only`. -/
structure Member.Tenanted (only : String → Prop) (db : Hub) (m : Member) : Prop where
  stored : ∀ e ∈ m.held, ∃ r ∈ db.outboxEvents.rows,
    r.id = e.id ∧ r.eventType = e.eventType ∧ r.payload = e.payload
  idle : m.phase = .idle → Clean (m.session db)
  handling : ∀ e rest, m.phase = .handling → m.held = e :: rest →
    only e.organizationId ∧ (handlerOf e.eventType).isSome = true
  going : ∀ e rest, m.phase ≠ .idle → m.held = e :: rest →
    m.prog.Ready Hub.Kept (m.works e) (fun _ s => Clean s) (m.session db)

/-- An exposure of an organization is there with evidence of one of its events. -/
def Hub.Backed (h : Hub) (id organizationId : String) : Prop :=
  ∃ event ∈ h.outboxEvents.rows, event.organizationId = organizationId ∧
    (handlerOf event.eventType).isSome = true ∧ (event.id ≠ "" → h.seen id event.id = true)

namespace Crew

/-- If the step takes up an event that has a handler, it is one of an organization in `only`. -/
def TakesOnly (only : String → Prop) (s : Crew) : Act → Prop
  | .take i => ∀ m ∈ s.members[i]?, ∀ event ∈ m.held.head?,
      (handlerOf event.eventType).isSome = true → only event.organizationId
  | _ => True

instance (only : String → Prop) [DecidablePred only] (s : Crew) :
    (a : Act) → Decidable (s.TakesOnly only a)
  | .take i => inferInstanceAs (Decidable (∀ m ∈ s.members[i]?, _))
  | .claim _ => inferInstanceAs (Decidable True)
  | .run _ => inferInstanceAs (Decidable True)
  | .crash _ => inferInstanceAs (Decidable True)

/-- Only rows of organizations in `only` have changed since `start`, and only exposures with evidence
    have been added. -/
structure Tenanted (only : String → Prop) (start : Hub) (s : Crew) : Prop where
  members : Each (fun _ m => m.Tenanted only s.db) s.members
  apart : start.Apart only s.db
  backed : ∀ id o, s.db.exposureOrg id = some o → start.exposureOrg id = some o ∨ s.db.Backed id o

end Crew

section Members

variable {only : String → Prop} {db db' : Hub} {m : Member} {event : OutboxEvent}
  {rest : List OutboxEvent}

theorem Hub.Backed.kept {id o : String} (h : db.Backed id o) (hkept : db.Kept db') :
    db'.Backed id o := by
  obtain ⟨event, hevent, rfl, hhandler, hseen⟩ := h
  obtain ⟨event', hevent', hid, htype, hpayload⟩ := hkept.events event hevent
  refine ⟨event', hevent', organizationId_congr hpayload, by rw [htype, hhandler], fun hne => ?_⟩
  rw [hid] at hne ⊢
  exact hkept.seen id _ (hseen hne)

/-- The others have committed. -/
theorem Member.Tenanted.kept (hm : m.Tenanted only db) (hkept : db.Kept db') :
    m.Tenanted only db' := by
  refine ⟨fun e he => ?_, hm.idle, hm.handling, fun e rest hbusy hheld => ?_⟩
  · obtain ⟨r, hr, hid, htype, hpayload⟩ := hm.stored e he
    obtain ⟨r', hr', hid', htype', hpayload'⟩ := hkept.events r hr
    exact ⟨r', hr', hid'.trans hid, htype'.trans htype, hpayload'.trans hpayload⟩
  · exact (hm.going e rest hbusy hheld).interfere (fun h₁ h₂ => h₁.trans h₂) hkept

/-- What a worker commits is within `only`, and its exposures are backed. -/
theorem Member.Tenanted.commits (hm : m.Tenanted only db) (hheld : m.held = event :: rest)
    (hworks : m.works event db db') : db.Within only db' ∧
      ∀ id o, db'.exposureOrg id = some o → db.exposureOrg id = some o ∨ db'.Backed id o := by
  rcases m.works_cases event with ⟨hphase, heq⟩ | heq
  · rw [heq] at hworks
    obtain ⟨honly, hhandler⟩ := hm.handling event rest hphase hheld
    refine ⟨hworks.toWithin.mono fun o ho => ho ▸ honly, fun id o hid => ?_⟩
    rcases hworks.backed id o hid with hold | ⟨rfl, ref, rfl, hseen⟩
    · exact .inl hold
    · obtain ⟨r, hr, hrid, htype, hpayload⟩ := hm.stored event (hheld ▸ List.mem_cons_self)
      obtain ⟨r', hr', hrid', htype', hpayload'⟩ := hworks.events r hr
      refine .inr ⟨r', hr', organizationId_congr (hpayload'.trans hpayload), ?_, ?_⟩
      · rw [htype', htype, hhandler]
      · rw [hrid', hrid]
        exact hseen
  · rw [heq] at hworks
    refine ⟨hworks.toWithin.mono fun _ ho => ho.elim, fun id o hid => ?_⟩
    exact (hworks.backed id o hid).imp_right fun h => h.1.elim

/-- A worker that begins with the first event it holds. -/
theorem Member.Tenanted.begin (hm : m.Tenanted only db) (hidle : m.phase = .idle)
    (hheld : m.held = event :: rest)
    (honly : (handlerOf event.eventType).isSome = true → only event.organizationId) :
    (m.begin event).Tenanted only db := by
  have hsession := (hm.idle hidle).session_eq
  unfold Member.begin
  cases hhandler : handlerOf event.eventType with
  | none =>
      refine ⟨hm.stored, by simp [Member.complete], by simp [Member.complete], fun e rest' _ _ => ?_⟩
      show Program.Ready _ _ _ (completeEvent event _) (m.session db)
      rw [hsession]
      exact .of_wp Hub.Kept.refl (completeEvent_works event _ db)
  | some handler =>
      have hsome : (handlerOf event.eventType).isSome = true := by
        rw [hhandler]
        rfl
      refine ⟨hm.stored, by simp, fun e rest' _ he => ?_, fun e rest' _ he => ?_⟩
      · obtain rfl : e = event := (List.cons.inj (he.symm.trans hheld)).1
        exact ⟨honly hsome, hsome⟩
      · obtain rfl : e = event := (List.cons.inj (he.symm.trans hheld)).1
        show Program.Ready _ _ _ ((handler m.handling e).map fun _ => ()) (m.session db)
        rw [hsession]
        exact .of_wp Hub.Kept.refl (handler_works hhandler db)

/-- A worker that closes its session. -/
theorem Member.Tenanted.closed (only : String → Prop) (db : Hub) (m : Member) :
    m.closed.Tenanted only db :=
  ⟨fun _ he => absurd he List.not_mem_nil, fun _ => ⟨rfl, rfl⟩, by simp [Member.closed],
    by simp [Member.closed]⟩

/-- A worker whose program has ended. -/
theorem Member.Tenanted.afterEnd {out : Outcome PyError Unit} (hm : m.Tenanted only db)
    (hbusy : m.phase ≠ .idle) (hheld : m.held = event :: rest) (hret : m.prog = .ret out) :
    (m.afterEnd event rest out).Tenanted only db := by
  have hgoing := hm.going event rest hbusy hheld
  rw [hret] at hgoing
  obtain ⟨d, -, hclean⟩ := hgoing.ended
  have hsession : m.session db = Session.fresh db := Clean.session_eq hclean
  have hclosed : m.closed.Tenanted only db := .closed only db m
  unfold Member.afterEnd
  split
  · split
    · refine ⟨hm.stored, by simp [Member.complete], by simp [Member.complete], fun e rest' _ _ => ?_⟩
      show Program.Ready _ _ _ (completeEvent event _) (m.session db)
      rw [hsession]
      exact .of_wp Hub.Kept.refl (completeEvent_works event _ db)
    · refine ⟨hm.stored, by simp [Member.fail], by simp [Member.fail], fun e rest' _ _ => ?_⟩
      exact .of_wp Hub.Kept.refl (failEvent_works event _)
  · split
    · refine ⟨fun e he => hm.stored e ?_, fun _ => hclean, by simp, by simp⟩
      rw [hheld]
      exact List.mem_cons_of_mem _ he
    · exact hclosed
  · exact hclosed

end Members

namespace Crew

section Steps

variable {only : String → Prop} {start : Hub} {s s' : Crew}

/-- A worker moves over rows it has changed within `only`; the others stay as they are. -/
theorem Tenanted.moved {i : ℕ} {m m' : Member} (hs : s.Tenanted only start)
    (hi : s.members[i]? = some m) (hmembers : s'.members = s.members.set i m')
    (hdb : s.db.Apart only s'.db)
    (hbacked : ∀ id o, s'.db.exposureOrg id = some o → s.db.exposureOrg id = some o ∨
      s'.db.Backed id o)
    (hm : m'.Tenanted only s'.db) : s'.Tenanted only start := by
  refine ⟨?_, hs.apart.trans hdb, fun id o hid => ?_⟩
  · rw [hmembers]
    exact hs.members.set hi hm fun j n _ _ hn => hn.kept hdb.toKept
  · rcases hbacked id o hid with hbefore | hnew
    · exact (hs.backed id o hbefore).imp_right fun h => h.kept hdb.toKept
    · exact .inr hnew

/-- **What a step commits** is within `only`, and its exposures are backed. -/
theorem Stepped.within {a : Act} (h : Stepped s a s') (hs : s.Tenanted only start) :
    s.db.Within only s'.db ∧ ∀ id o, s'.db.exposureOrg id = some o →
      s.db.exposureOrg id = some o ∨ s'.db.Backed id o := by
  cases h with
  | @turn i m event rest t member busy held free next =>
      have hm := hs.members i m member
      obtain ⟨-, hdb⟩ := (hm.going event rest busy held).next Hub.Kept.refl next
      rcases hdb with hsame | ⟨-, hworks⟩
      · have hsame' : (s.afterTurn i m t).db = s.db := hsame
        rw [hsame']
        exact ⟨.refl _ _, fun _ _ => .inl⟩
      · exact hm.commits held hworks
  | _ => exact ⟨.refl _ _, fun _ _ => .inl⟩

/-- **A step** changes rows of organizations in `only` alone. -/
theorem Stepped.tenanted {a : Act} (h : Stepped s a s') (honly : s.TakesOnly only a)
    (hs : s.Tenanted only start) : s'.Tenanted only start := by
  obtain ⟨hwithin, hbacked⟩ := h.within hs
  cases h with
  | @claim i m member idle held =>
      have hm := hs.members i m member
      refine hs.moved member rfl hwithin.toApart hbacked ⟨fun e he => ?_, hm.idle, ?_, ?_⟩
      · exact ⟨e, (mem_claimed he).1, rfl, rfl, rfl⟩
      · intro e rest hphase
        exact absurd (idle.symm.trans hphase) (by simp)
      · intro e rest hbusy
        exact absurd idle hbusy
  | @take i m event rest member idle held =>
      have hhead : m.held.head? = some event := by rw [held]; rfl
      exact hs.moved member rfl hwithin.toApart hbacked
        ((hs.members i m member).begin idle held (honly m member event hhead))
  | @ended i m event rest out member busy held ret =>
      exact hs.moved member rfl hwithin.toApart hbacked
        ((hs.members i m member).afterEnd busy held ret)
  | @turn i m event rest t member busy held free next =>
      have hm := hs.members i m member
      obtain ⟨hready, -⟩ := (hm.going event rest busy held).next Hub.Kept.refl next
      refine hs.moved member rfl hwithin.toApart hbacked ⟨(hm.kept hwithin.toKept).stored,
        fun hidle => absurd hidle busy, hm.handling, fun e rest' _ he => ?_⟩
      obtain rfl : e = event := (List.cons.inj (he.symm.trans held)).1
      exact hready
  | @crash i m member => exact hs.moved member rfl hwithin.toApart hbacked (.closed only s.db m)

theorem tenanted_start (only : String → Prop) (workers : List Orchestrator) (db : Hub) :
    (Crew.start workers db).Tenanted only db := by
  refine ⟨fun i m hi => ?_, .refl _ _, fun _ _ => .inl⟩
  obtain ⟨worker, -, rfl⟩ := List.mem_map.1 (List.mem_of_getElem? hi)
  exact ⟨fun _ he => absurd he List.not_mem_nil, fun _ => ⟨rfl, rfl⟩, by simp [Member.initial],
    by simp [Member.initial]⟩

end Steps

/-- **A run** changes rows of organizations in `only` alone. -/
theorem Run.tenanted {only : String → Prop} {workers : List Orchestrator} {db : Hub} {s : Crew}
    (hrun : Run (TakesOnly only) (Crew.start workers db) s) : s.Tenanted only db := by
  induction hrun with
  | start => exact tenanted_start only workers db
  | step run a ok next ih => exact (stepped next).tenanted ok ih

/-- **Tenants stay apart**: in every interleaving of any number of workers that take up only events of
    organizations in `only` (events without a handler aside), the exposures, evidence, cases, links,
    clocks, decisions, verifications and audit rows of every other organization stay as they are. -/
theorem tenants_apart (only : String → Prop) (workers : List Orchestrator) (db : Hub) {s : Crew}
    (hrun : Run (TakesOnly only) (start workers db) s) (other : String) (hother : ¬ only other) :
    s.db.tenant other = db.tenant other :=
  hrun.tenanted.apart.tenant other hother

theorem takesOnly_true (s : Crew) (a : Act) : s.TakesOnly (fun _ => True) a := by
  cases a with
  | take i => exact fun _ _ _ _ _ => trivial
  | claim i => trivial
  | run i => trivial
  | crash i => trivial

/-- **No exposure without evidence**: in every interleaving of any number of workers, an exposure that
    was not there at the start has evidence that names an event of the outbox (if that has an id)
    which a handler is there for and whose organization is that of the exposure. -/
theorem exposures_backed (workers : List Orchestrator) (db : Hub) {s : Crew}
    (hrun : Run (fun _ _ => True) (start workers db) s) {e : Exposure}
    (he : e ∈ s.db.exposures.rows) : (∃ e₀ ∈ db.exposures.rows, e₀.id = e.id ∧
      e₀.organizationId = e.organizationId) ∨
    ∃ event ∈ s.db.outboxEvents.rows, event.organizationId = e.organizationId ∧
      (handlerOf event.eventType).isSome = true ∧ (event.id ≠ "" →
        ∃ m ∈ s.db.evidence.rows, m.exposureId = e.id ∧ m.evidenceRef = some event.id) := by
  have htenanted := (hrun.mono fun s a _ => takesOnly_true s a).tenanted
  have horg : s.db.exposureOrg e.id = some e.organizationId := by
    unfold Hub.exposureOrg Hub.exposure?
    rw [show s.db.exposures.find? e.id = some e from Table.find?_key_of_mem he]
    rfl
  rcases htenanted.backed e.id _ horg with hbefore | ⟨event, hevent, horganization, hhandler, hseen⟩
  · obtain ⟨e₀, he₀, horg₀⟩ := Option.map_eq_some_iff.1 hbefore
    exact .inl ⟨e₀, Table.mem_of_find? he₀, Table.key_of_find? he₀, horg₀⟩
  · refine .inr ⟨event, hevent, horganization, hhandler, fun hne => ?_⟩
    obtain ⟨m, hm, hmatch⟩ := List.any_eq_true.1 (hseen hne)
    exact ⟨m, hm, of_decide_eq_true hmatch⟩

end Crew

end Crews

/-! ## Two organizations -/

/-- An exposure of another organization than the one the bill of materials is about. -/
def sampleForeign : Exposure where
  id := "exp_0"
  organizationId := "org_2"
  assetId := none
  componentOccurrenceId := none
  vulnerabilityId := "CVE-2026-1234"
  detectionContext := "wazuh:3"
  matchClass := .confirmed
  confidence := 1
  priority := none
  policyVersion := none
  state := .active
  matchedRules := none
  evidenceRefs := none
  limitations := none
  matcherVersion := none
  firstObservedAt := 0
  lastObservedAt := 0
  createdAt := 0

def sampleTenants : Hub := { sampleWaiting with exposures := ⟨[sampleForeign], by decide⟩ }

/-- A worker handles the event, and marks it. -/
def sampleHandledAlone : List Act := [.claim 0, .take 0] ++ List.replicate 21 (.run 0)

theorem tenants_apart_handled : ∃ s, @Crew.Run asciiPython dottedPackaging
    (@Crew.TakesOnly asciiPython dottedPackaging (· = "default"))
    (.start [sampleOrchestrator] sampleTenants) s ∧
    s.db.exposures.rows.map (·.organizationId) = ["org_2", "default"] ∧
    s.db.tenant "org_2" = sampleTenants.tenant "org_2" := by
  have hacts : ((@Crew.runActs asciiPython dottedPackaging
      (fun s a => decide (@Crew.TakesOnly asciiPython dottedPackaging (· = "default") s a))
      (.start [sampleOrchestrator] sampleTenants) sampleHandledAlone).any fun s =>
        s.db.exposures.rows.map (·.organizationId) = ["org_2", "default"]) = true := by
    decide +kernel
  obtain ⟨s, hs, hrows⟩ := (Option.any_eq_true _ _).1 hacts
  have hrun := @Crew.Run.of_acts asciiPython dottedPackaging
    (@Crew.TakesOnly asciiPython dottedPackaging (· = "default")) _ _ _ _ _
    (@Crew.Run.start asciiPython dottedPackaging _ _) hs
  exact ⟨s, hrun, of_decide_eq_true hrows,
    @Crew.tenants_apart asciiPython dottedPackaging _ _ _ _ hrun "org_2" (by decide)⟩

theorem exposures_backed_handled : ∃ s, @Crew.Run asciiPython dottedPackaging (fun _ _ => True)
    (.start [sampleOrchestrator] sampleWaiting) s ∧ ∃ e ∈ s.db.exposures.rows,
    ∃ event ∈ s.db.outboxEvents.rows, event.organizationId = e.organizationId ∧
      ∃ m ∈ s.db.evidence.rows, m.exposureId = e.id ∧ m.evidenceRef = some event.id := by
  have hacts : ((@Crew.runActs asciiPython dottedPackaging (fun _ _ => decide True)
      (.start [sampleOrchestrator] sampleWaiting) sampleHandledAlone).any fun s =>
        s.db.exposures.rows ≠ [] ∧ ∀ event ∈ s.db.outboxEvents.rows, event.id ≠ "") = true := by
    decide +kernel
  obtain ⟨s, hs, hrows⟩ := (Option.any_eq_true _ _).1 hacts
  obtain ⟨hexposures, hids⟩ := of_decide_eq_true hrows
  have hrun := @Crew.Run.of_acts asciiPython dottedPackaging _ _ _ _ _ _
    (@Crew.Run.start asciiPython dottedPackaging _ _) hs
  obtain ⟨e, he⟩ := List.exists_mem_of_ne_nil _ hexposures
  refine ⟨s, hrun, e, he, ?_⟩
  rcases @Crew.exposures_backed asciiPython dottedPackaging _ _ _ hrun e he with
    ⟨e₀, he₀, -⟩ | ⟨event, hevent, horganization, -, hevidence⟩
  · cases he₀
  · exact ⟨event, hevent, horganization, hevidence (hids event hevent)⟩

end VulnOpsHub
