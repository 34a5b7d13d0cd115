import VulnOpsHub.Workers.Boundaries

set_option autoImplicit false

/-! # What a delivered event has left

An event is marked as delivered when its handler has run to completion. By then every finding of the
event has an exposure under its key, with the event as evidence, and keeps it: in every interleaving
of any number of workers, whichever of them die (`delivered_recorded`).

`Hub.Stays` is what every commit of every program keeps, so that each handler can rely on it. -/

namespace VulnOpsHub

/-! ## What every commit keeps -/

/-- Exposures stay under their keys, and the packages as they are. -/
structure Hub.Stays (h h' : Hub) : Prop extends h.Kept h' where
  keys : ∀ e ∈ h.exposures.rows, ∃ e' ∈ h'.exposures.rows, e'.id = e.id ∧ e'.key = e.key
  occurrences : h'.occurrences = h.occurrences

/-- An exposure is there under the key, and the event is evidence of it. -/
def Hub.Has (h : Hub) (key : ExposureKey) (ref : String) : Prop :=
  ∃ e ∈ h.exposures.rows, e.key = key ∧ (ref ≠ "" → h.seen e.id ref = true)

section Stays

variable {h h₁ h' : Hub}

theorem Hub.Stays.refl (h : Hub) : h.Stays h := ⟨.refl h, fun e he => ⟨e, he, rfl, rfl⟩, rfl⟩

theorem Hub.Stays.trans (h₁₂ : h.Stays h₁) (h₂₃ : h₁.Stays h') : h.Stays h' := by
  refine ⟨h₁₂.toKept.trans h₂₃.toKept, fun e he => ?_, h₂₃.occurrences.trans h₁₂.occurrences⟩
  obtain ⟨e₁, he₁, hid₁, hkey₁⟩ := h₁₂.keys e he
  obtain ⟨e', he', hid', hkey'⟩ := h₂₃.keys e₁ he₁
  exact ⟨e', he', hid'.trans hid₁, hkey'.trans hkey₁⟩

theorem Hub.Has.stays {key : ExposureKey} {ref : String} (hhas : h.Has key ref)
    (hstays : h.Stays h') : h'.Has key ref := by
  obtain ⟨e, he, rfl, hseen⟩ := hhas
  obtain ⟨e', he', hid, hkey⟩ := hstays.keys e he
  refine ⟨e', he', hkey, fun hne => ?_⟩
  rw [hid]
  exact hstays.seen _ _ (hseen hne)

/-- Cases stay with their organizations. -/
theorem Write.caseOrg_kept {w : Write} {db : Db} (hdb : w.apply h.view = some db) (id o : String)
    (hid : h.caseOrg id = some o) : (h.put db).caseOrg id = some o := by
  cases w with
  | insertCase c =>
      simp only [Write.apply] at hdb
      split_ifs at hdb
      obtain ⟨t, ht, rfl⟩ := Option.map_eq_some_iff.1 hdb
      exact (orgWithin_insert ht rfl).kept id o hid
  | updateCase id' p =>
      cases hdb
      exact (orgAt_update RemediationCase.organizationId h.cases id' (p := p.toRow) (fun _ => rfl)
        id).trans hid
  | updateDecision id' p =>
      cases hdb
      exact hid
  | _ =>
      obtain ⟨t, -, rfl⟩ := Option.map_eq_some_iff.1 hdb
      exact hid

/-- **Whatever a statement is**, exposures stay under their keys. -/
theorem HubWrite.stays {w : HubWrite} (happly : w.apply h = some h') : h.Stays h' := by
  have hgrows := HubWrite.grows happly
  cases w with
  | core w =>
      obtain ⟨db, hdb, rfl⟩ := Option.map_eq_some_iff.1 happly
      exact ⟨⟨hgrows, fun _ _ hid => hid, Write.caseOrg_kept hdb⟩, fun e he => ⟨e, he, rfl, rfl⟩, rfl⟩
  | insertExposure e =>
      obtain ⟨t, ht, rfl⟩ := Option.map_eq_some_iff.1 happly
      refine ⟨⟨hgrows, (orgWithin_insert ht rfl).kept, fun _ _ hid => hid⟩,
        fun e he => ⟨e, ?_, rfl, rfl⟩, rfl⟩
      rw [Table.rows_insert ht]
      exact List.mem_append_left _ he
  | updateExposure id p =>
      cases happly
      refine ⟨⟨hgrows, fun id' o hid => ?_, fun _ _ hid => hid⟩, fun e he => ?_, rfl⟩
      · exact (orgAt_update Exposure.organizationId h.exposures id (p := p.toRow) (fun _ => rfl) id').trans hid
      · refine ⟨_, List.mem_map_of_mem he, ?_⟩
        split <;> exact ⟨rfl, rfl⟩
  | updateOutbox id p =>
      cases happly
      exact ⟨⟨hgrows, fun _ _ hid => hid, fun _ _ hid => hid⟩, fun e he => ⟨e, he, rfl, rfl⟩, rfl⟩
  | _ =>
      obtain ⟨t, -, rfl⟩ := Option.map_eq_some_iff.1 happly
      exact ⟨⟨hgrows, fun _ _ hid => hid, fun _ _ hid => hid⟩, fun e he => ⟨e, he, rfl, rfl⟩, rfl⟩

theorem stays_of_flush (ws : List HubWrite) (h h' : Hub) (hflush : Store.flush ws h = some h') :
    h.Stays h' := by
  induction ws generalizing h with
  | nil =>
      cases hflush
      exact .refl _
  | cons w ws ih =>
      obtain ⟨h₁, happly, hrest⟩ := Store.flush_cons hflush
      exact (HubWrite.stays happly).trans (ih h₁ hrest)

end Stays

/-! ## What a handler leaves -/

section Upserts

variable {h h' : Hub} {env : CallEnv} {key : ExposureKey} {ref : String}

/-- What is staged leaves an exposure under the key, with the event as evidence. -/
def Leaves (key : ExposureKey) (ref : String) (h : Hub) (ws : List HubWrite) : Prop :=
  ∀ t, h.Stays t → ∀ t', Store.flush ws t = some t' → t'.Has key ref

/-- The exposure a call of `upsert_exposure` writes, and evidence of it unless it is there. -/
theorem leaves_write {a : UpsertArgs} {existing : Option Exposure} (ms : List MatchEvidence)
    (hexisting : ∀ e, existing = some e → ∃ e' ∈ h.exposures.rows, e'.id = e.id ∧ e'.key = a.key)
    (hms : ∀ m ∈ ms, m.exposureId = a.exposureId env existing)
    (hseen : ref ≠ "" → h.seen (a.exposureId env existing) ref = true ∨
      ∃ m ∈ ms, m.evidenceRef = some ref) :
    Leaves a.key ref h (a.write env existing :: ms.map .insertEvidence) := by
  intro t ht t' hflush
  obtain ⟨t₁, happly, hflush⟩ := Store.flush_cons hflush
  have hrow : ∃ e ∈ t₁.exposures.rows, e.id = a.exposureId env existing ∧ e.key = a.key := by
    cases existing with
    | none =>
        obtain ⟨rows, hrows, rfl⟩ := Option.map_eq_some_iff.1 happly
        refine ⟨a.newExposure env, ?_, rfl, rfl⟩
        rw [Table.rows_insert hrows]
        exact List.mem_append_right _ (List.mem_singleton_self _)
    | some e =>
        obtain ⟨e', he', hid, hkey⟩ := hexisting e rfl
        obtain ⟨e₁, he₁, hid₁, hkey₁⟩ := (ht.trans (HubWrite.stays happly)).keys e' he'
        exact ⟨e₁, he₁, hid₁.trans hid, hkey₁.trans hkey⟩
  have hstays := (HubWrite.stays happly).trans (stays_of_flush _ _ _ hflush)
  obtain ⟨rows, rfl, hrows⟩ := UpsertArgs.flush_insertEvidence hflush
  obtain ⟨e, he, hid, hkey⟩ := hrow
  refine ⟨e, he, hkey, fun hne => ?_⟩
  rw [hid]
  rcases hseen hne with hseen | ⟨m, hm, href⟩
  · exact hstays.seen _ _ (ht.seen _ _ hseen)
  · unfold Hub.seen
    rw [hrows, List.any_append, Bool.or_eq_true]
    exact .inr (List.any_eq_true.2 ⟨m, hm, by simp [hms m hm, href]⟩)

theorem upsertExposure_leaves {a : UpsertArgs} {h : Hub} (href : a.evidenceRef = some ref)
    {Q : Outcome PyError (String × Bool) → Session Hub → Prop}
    (hdone : ∀ t id created ws, Leaves a.key ref t ws → Q (.returned (id, created)) ⟨t, [], ws⟩) :
    (upsertExposure a env).Wp Hub.Stays Hub.Stays Q (Session.fresh h) := by
  unfold upsertExposure
  refine Program.wp_select_bind fun t _ => Program.wp_add_bind ?_
  simp only [Session.fresh, sessionView, List.foldl_nil, List.nil_append]
  have hexisting : ∀ e, t.exposureAt a.key = some e →
      ∃ e' ∈ t.exposures.rows, e'.id = e.id ∧ e'.key = a.key := by
    intro e he
    obtain ⟨hmem, hkey⟩ := Hub.exposureAt_eq_some he
    exact ⟨e, hmem, rfl, hkey⟩
  generalize t.exposureAt a.key = existing at hexisting
  cases hevidence : nonEmpty a.evidenceRef with
  | none =>
      refine Program.wp_ret.2 (hdone t _ _ _ (leaves_write [] hexisting
        (fun _ hm => absurd hm List.not_mem_nil) fun hne => ?_))
      rw [nonEmpty_eq_some.2 ⟨href, hne⟩] at hevidence
      cases hevidence
  | some r =>
      obtain rfl : r = ref := Option.some.inj ((nonEmpty_eq_some.1 hevidence).1.symm.trans href)
      refine Program.wp_select_bind fun u hu => ?_
      have hexisting : ∀ e, existing = some e →
          ∃ e' ∈ u.exposures.rows, e'.id = e.id ∧ e'.key = a.key := by
        intro e he
        obtain ⟨e', he', hid, hkey⟩ := hexisting e he
        obtain ⟨e₁, he₁, hid₁, hkey₁⟩ := hu.keys e' he'
        exact ⟨e₁, he₁, hid₁.trans hid, hkey₁.trans hkey⟩
      have hview : (sessionView [] [a.write env existing] u).seen (a.exposureId env existing) r
          = u.seen (a.exposureId env existing) r := overlay_write_seen _ _ _ _ _ _
      dsimp only
      rw [hview]
      split
      · next hseen =>
          exact Program.wp_ret.2 (hdone u _ _ _ (leaves_write [] hexisting
            (fun _ hm => absurd hm List.not_mem_nil) fun _ => .inl hseen))
      · refine Program.wp_add_bind (Program.wp_ret.2 (hdone u _ _ _ ?_))
        exact leaves_write [_] hexisting (fun m hm => by rw [List.mem_singleton.1 hm]; rfl)
          fun _ => .inr ⟨_, List.mem_cons_self, href⟩

end Upserts

section Handlers

variable [Python] {o : Handling} {eventId : String}

/-- A round leaves the exposure of its finding. -/
theorem recordFinding_leaves (i : ℕ) (f : Finding) (h : Hub) :
    (recordFinding o eventId i f).Wp Hub.Stays Hub.Stays
      (fun out s => out.isReturned = true → s.db.Has f.key eventId) (Session.fresh h) := by
  unfold recordFinding priorityFor
  simp only [Program.bind_assoc]
  refine Program.wp_select_bind fun t _ => ?_
  show Program.Wp _ _ (upsertExposure (f.args o.sources eventId t) (o.env i) >>= _) _
    (Session.fresh t)
  refine Program.wp_bind (upsertExposure_leaves rfl fun u id created ws hleaves => ?_)
  refine Program.wp_commitAll_bind (fun v _ _ hout => by cases hout) fun v v' hv hflush => ?_
  have hhas : v'.Has f.key eventId := hleaves v hv v' hflush
  refine ⟨stays_of_flush _ _ _ hflush, ?_⟩
  -- whatever follows keeps it
  exact Program.wp_of_kept Hub.Stays.refl Hub.Stays.trans stays_of_flush _
    fun out s hs _ => hhas.stays hs

/-- It ends with an empty transaction, over rows that have been kept. -/
theorem recordFinding_ends (i : ℕ) (f : Finding) (h : Hub) :
    (recordFinding o eventId i f).Wp Hub.Stays Hub.Stays
      (fun out s => Clean s ∧ h.Stays s.db ∧ (out.isReturned = true → s.db.Has f.key eventId))
      (Session.fresh h) := by
  have hworks : (recordFinding o eventId i f).Wp Hub.Kept
      (Hub.Works (· = f.organizationId) (· = eventId)) (fun _ s => Clean s) (Session.fresh h) :=
    recordFinding_works i rfl h
  exact Program.wp_mono_guar (fun _ _ hguar => hguar.2)
    (Program.wp_and (fun _ _ hst => ⟨hst.toKept, hst⟩) hworks (Program.wp_remember Hub.Stays.refl
      Hub.Stays.trans stays_of_flush (recordFinding_leaves i f h)))

/-- The rounds of a handler leave the exposures of all its findings. -/
theorem recordFindings_leaves (fs : List Finding) (h : Hub) :
    (recordFindings o eventId fs).Wp Hub.Stays Hub.Stays
      (fun out s => out.isReturned = true → ∀ f ∈ fs, s.db.Has f.key eventId)
      (Session.fresh h) := by
  refine Program.wp_forEach
    (fun done s => s = Session.fresh s.db ∧ ∀ f ∈ done, s.db.Has f.key eventId) fs ?_
    (fun s hs _ => hs.2) [] fs (Session.fresh h) rfl ⟨rfl, fun _ hf => absurd hf List.not_mem_nil⟩
  intro done f rest s hall hs
  rw [hs.1]
  refine Program.wp_map.2 (Program.wp_mono ?_ (recordFinding_ends done.length f s.db))
  rintro out ⟨db, executed, staged⟩ ⟨⟨rfl, rfl⟩, hstays, hhas⟩
  cases out with
  | returned _ =>
      refine ⟨rfl, fun f' hf' => ?_⟩
      rcases List.mem_append.1 hf' with hbefore | hnow
      · exact (hs.2 f' hbefore).stays hstays
      · rw [List.mem_singleton.1 hnow]
        exact hhas rfl
  | raised e => exact fun hout => by cases hout
  | failed => exact fun hout => by cases hout

variable [Packaging] {event : OutboxEvent} {h h' : Hub}

/-- Every finding of the event has its exposure. -/
def Hub.Recorded (h : Hub) (o : Handling) (event : OutboxEvent) : Prop :=
  ∃ fs, findingsOf o event h = .ok fs ∧ ∀ f ∈ fs, h.Has f.key event.id

theorem findingsOf_congr {r : OutboxEvent} (htype : r.eventType = event.eventType)
    (hpayload : r.payload = event.payload) (hoccurrences : h'.occurrences = h.occurrences) :
    findingsOf o r h' = findingsOf o event h := by
  unfold findingsOf sbomFound dojoFound wazuhFound
  rw [htype, hpayload, hoccurrences]

theorem Hub.Recorded.stays (hrecorded : h.Recorded o event) (hstays : h.Stays h') :
    h'.Recorded o event := by
  obtain ⟨fs, hfs, hhas⟩ := hrecorded
  exact ⟨fs, (findingsOf_congr rfl rfl hstays.occurrences).trans hfs,
    fun f hf => (hhas f hf).stays hstays⟩

/-- **A handler** that runs to completion leaves the exposures of its event, whatever the others
    do. -/
theorem handler_leaves {handler : Handling → OutboxEvent → HubProg String}
    (hhandler : handlerOf event.eventType = some handler) (h : Hub) :
    ((handler o event).map fun _ => ()).Wp Hub.Stays Hub.Stays
      (fun out s => out.isReturned = true → s.db.Recorded o event) (Session.fresh h) := by
  refine Program.wp_map.2 (wp_handler (Q := fun out s => out.isReturned = true →
    s.db.Recorded o event) hhandler Hub.Stays.refl (fun _ _ hst => hst.occurrences)
    (fun _ _ _ _ hout => by cases hout) fun fs t ht hfs => ?_)
  refine Program.wp_mono (fun out s hs hout => ?_) (Program.wp_remember Hub.Stays.refl
    Hub.Stays.trans stays_of_flush (recordFindings_leaves (o := o) fs t))
  refine ⟨fs, ?_, hs.2 hout⟩
  rw [findingsOf_congr rfl rfl (ht.trans hs.1).occurrences, hfs]

end Handlers

/-! ## Crews -/

section Crews

variable [Python] [Packaging]

/-- A worker that is in a handler is to leave the exposures of its event. -/
def Member.Recording (db : Hub) (m : Member) : Prop :=
  ∀ e rest, m.phase = .handling → m.held = e :: rest →
    m.prog.Ready Hub.Stays Hub.Stays
      (fun out s => out.isReturned = true → s.db.Recorded m.handling e) (m.session db)

/-- Where a handler has run to completion, the exposures of its event are there. -/
structure Crew.Recorded (workers : List Orchestrator) (start : Hub) (s : Crew) : Prop where
  workforce : Crew.Each (fun _ m => m.worker ∈ workers) s.members
  members : Crew.Each (fun _ m => m.Recording s.db) s.members
  stays : start.Stays s.db
  done : ∀ p ∈ s.done, ∃ worker ∈ workers, ∃ tick, ∃ event ∈ s.db.outboxEvents.rows,
    event.id = p.2 ∧ s.db.Recorded (worker.handling tick) event

section Members

variable {m : Member} {db db' : Hub} {event : OutboxEvent} {rest : List OutboxEvent}

theorem Member.Recording.of_ne (hphase : m.phase ≠ .handling) : m.Recording db :=
  fun _ _ hhandling => absurd hhandling hphase

/-- The others have committed. -/
theorem Member.Recording.stays (hm : m.Recording db) (hstays : db.Stays db') : m.Recording db' :=
  fun e rest hphase hheld => (hm e rest hphase hheld).interfere (fun h₁ h₂ => h₁.trans h₂) hstays

theorem Member.worker_begin (m : Member) (event : OutboxEvent) :
    (m.begin event).worker = m.worker := by
  unfold Member.begin Member.complete
  split <;> rfl

omit [Python] [Packaging] in
theorem Member.worker_afterEnd (m : Member) (event : OutboxEvent) (rest : List OutboxEvent)
    (out : Outcome PyError Unit) : (m.afterEnd event rest out).worker = m.worker := by
  unfold Member.afterEnd Member.complete Member.fail Member.closed
  split
  · split <;> rfl
  · split <;> rfl
  · rfl

omit [Python] [Packaging] in
theorem Member.phase_afterEnd (m : Member) (event : OutboxEvent) (rest : List OutboxEvent)
    (out : Outcome PyError Unit) : (m.afterEnd event rest out).phase ≠ .handling := by
  unfold Member.afterEnd Member.complete Member.fail Member.closed
  split
  · split <;> simp
  · split <;> simp
  · simp

/-- A worker that begins with the first event it holds. -/
theorem Member.Recording.begin (hclean : Clean (m.session db)) (hheld : m.held = event :: rest) :
    (m.begin event).Recording db := by
  unfold Member.begin
  cases hhandler : handlerOf event.eventType with
  | none => exact .of_ne (by simp [Member.complete])
  | some handler =>
      intro e rest' _ he
      obtain rfl : e = event := (List.cons.inj (he.symm.trans hheld)).1
      show Program.Ready _ _ _ ((handler m.handling e).map fun _ => ()) (m.session db)
      rw [hclean.session_eq]
      exact .of_wp Hub.Stays.refl (handler_leaves hhandler db)

end Members

namespace Crew

variable {workers : List Orchestrator} {start : Hub} {s s' : Crew}

/-- A worker moves over rows that stay. -/
theorem Recorded.moved {i : ℕ} {m m' : Member} (hs : s.Recorded workers start)
    (hi : s.members[i]? = some m) (hmembers : s'.members = s.members.set i m')
    (hworker : m'.worker = m.worker) (hdb : s.db.Stays s'.db) (hm : m'.Recording s'.db)
    (hdone : ∀ p ∈ s'.done, p ∈ s.done ∨ ∃ worker ∈ workers, ∃ tick,
      ∃ event ∈ s'.db.outboxEvents.rows, event.id = p.2 ∧
        s'.db.Recorded (worker.handling tick) event) : s'.Recorded workers start := by
  refine ⟨?_, ?_, hs.stays.trans hdb, fun p hp => ?_⟩
  · rw [hmembers]
    exact hs.workforce.set hi (hworker ▸ hs.workforce i m hi) fun j n _ _ hn => hn
  · rw [hmembers]
    exact hs.members.set hi hm fun j n _ _ hn => hn.stays hdb
  · rcases hdone p hp with hbefore | hnow
    · obtain ⟨worker, hworker, tick, event, hevent, hid, hrecorded⟩ := hs.done p hbefore
      obtain ⟨event', hevent', hid', htype, hpayload⟩ := hdb.events event hevent
      refine ⟨worker, hworker, tick, event', hevent', hid'.trans hid, ?_⟩
      obtain ⟨fs, hfs, hhas⟩ := hrecorded.stays hdb
      refine ⟨fs, (findingsOf_congr htype hpayload rfl).trans hfs, fun f hf => ?_⟩
      rw [hid']
      exact hhas f hf
    · exact hnow

/-- **The step lemma.** -/
theorem Stepped.recorded {a : Act} (h : Stepped s a s') (hs : s.Recorded workers start)
    (htenanted : s.Tenanted (fun _ => True) start) : s'.Recorded workers start := by
  cases h with
  | @claim i m member idle held =>
      exact hs.moved member rfl rfl (.refl _) (.of_ne (by simp [Member.claim, idle])) fun _ => .inl
  | @take i m event rest member idle held =>
      exact hs.moved member rfl (m.worker_begin event) (.refl _)
        (.begin ((htenanted.members i m member).idle idle) held) fun _ => .inl
  | @ended i m event rest out member busy held ret =>
      refine hs.moved member rfl (m.worker_afterEnd event rest out) (.refl _)
        (.of_ne (m.phase_afterEnd event rest out)) fun p hp => ?_
      rcases List.mem_append.1 hp with hp | hp
      · exact .inl hp
      split_ifs at hp with hdone
      · obtain rfl := List.mem_singleton.1 hp
        have hready := hs.members i m member event rest hdone.1 held
        rw [ret] at hready
        obtain ⟨d, hd, hrecorded⟩ := hready.ended
        obtain ⟨fs, hfs, hhas⟩ := (hrecorded hdone.2).stays hd
        obtain ⟨r, hr, hid, htype, hpayload⟩ := (htenanted.members i m member).stored event
          (held ▸ List.mem_cons_self)
        refine .inr ⟨m.worker, hs.workforce i m member, m.tick, r, hr, hid, fs,
          (findingsOf_congr htype hpayload rfl).trans hfs, fun f hf => ?_⟩
        rw [hid]
        exact hhas f hf
      · cases hp
  | @turn i m event rest t member busy held free next =>
      have hdb : s.db.Stays t.session.db := by
        rcases Program.next_db next with hsame | ⟨ws, hflush⟩
        · rw [hsame]
          exact .refl _
        · exact stays_of_flush ws _ _ hflush
      refine hs.moved member rfl rfl hdb (fun e rest' hphase he => ?_) fun _ => .inl
      exact ((hs.members i m member e rest' hphase he).next Hub.Stays.refl next).1
  | @crash i m member =>
      exact hs.moved member rfl rfl (.refl _) (.of_ne (by simp [Member.closed])) fun _ => .inl

theorem recorded_start (workers : List Orchestrator) (db : Hub) :
    (Crew.start workers db).Recorded workers db := by
  refine ⟨fun i m hi => ?_, fun i m hi => ?_, .refl _, fun p hp => absurd hp List.not_mem_nil⟩
  · obtain ⟨worker, hworker, rfl⟩ := List.mem_map.1 (List.mem_of_getElem? hi)
    exact hworker
  · obtain ⟨worker, -, rfl⟩ := List.mem_map.1 (List.mem_of_getElem? hi)
    exact .of_ne (by simp [Member.initial])

/-- **A run.** -/
theorem Run.recorded {db : Hub} (hrun : Run (fun _ _ => True) (Crew.start workers db) s) :
    s.Delivers db ∧ s.Tenanted (fun _ => True) db ∧ s.Recorded workers db := by
  induction hrun with
  | start =>
      exact ⟨delivers_start workers db, tenanted_start _ workers db, recorded_start workers db⟩
  | step run a ok next ih =>
      have hstepped := stepped next
      exact ⟨hstepped.delivers ih.1, hstepped.tenanted (takesOnly_true _ a) ih.2.1,
        hstepped.recorded ih.2.2 ih.2.1⟩

end Crew

end Crews

end VulnOpsHub
