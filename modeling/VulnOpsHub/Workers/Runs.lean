import VulnOpsHub.Workers.Rounds

set_option autoImplicit false

/-! # What a handling commits

A handler turns its event into findings and records them, round by round. Here are the findings of
each handler (`findingsOf`), the states its rounds lead through, and the proof that a handling which
runs alone leads through no others: not when it ends, and not when its process dies. -/

namespace VulnOpsHub

section Runs

variable [Python] [Packaging]

/-! ## The findings of an event -/

/-- What `_handle_sbom_processed` records. -/
def sbomFound (o : Handling) (event : OutboxEvent) (h : Hub) : Except PyError (List Finding) := do
  let payload := event.payload.orEmpty
  let document ← payload.index "sbom_id"
  match ← document.optionalText with
  | none => return []
  | some sbomId =>
      let ordered := (h.occurrences.rows.filter fun occurrence => occurrence.sbomId = sbomId).filter
        queryable
      let records ← (if ordered = [] then .ok []
        else o.sources.lookupBatch (ordered.map fun occurrence =>
          { purl := occurrence.purl, version := occurrence.rawVersion }))
      let ms := sbomMatches ordered records
      let organizationId ← (if ms = [] then .ok "default"
        else payload.get "organization_id" >>= fun organization => organization.textOr "default")
      return sbomFindings o organizationId sbomId ms

/-- What `_handle_defectdojo_ingested` records. -/
def dojoFound (o : Handling) (event : OutboxEvent) : Except PyError (List Finding) := do
  match ← DojoFields.decode event.payload.orEmpty with
  | .inl _ => return []
  | .inr fields =>
      let records ← o.sources.recordsFor fields.purl fields.componentVersion
      return [dojoFinding o.sources fields records (o.uuid 0 11)]

/-- What `_handle_wazuh_ingested` records. -/
def wazuhFound (o : Handling) (event : OutboxEvent) : Except PyError (List Finding) := do
  match ← WazuhFields.decode event.payload.orEmpty with
  | .inl _ => return []
  | .inr fields =>
      let records ← o.sources.recordsFor fields.purl fields.componentVersion
      return [wazuhFinding o.sources fields records (o.uuid 0 11)]

/-- The findings the handler of an event records over the rows `h`. -/
def findingsOf (o : Handling) (event : OutboxEvent) (h : Hub) : Except PyError (List Finding) :=
  if event.eventType = "vulnops.sbom.processed.v1" then sbomFound o event h
  else if event.eventType = "vulnops.evidence.defectdojo.ingested.v1" then dojoFound o event
  else if event.eventType = "vulnops.evidence.wazuh.ingested.v1" then wazuhFound o event
  else .ok []

section Found

variable {o : Handling} {event : OutboxEvent} {h : Hub} {fs : List Finding} {f : Finding}

theorem mem_sbomFound (hfs : sbomFound o event h = .ok fs) (hf : f ∈ fs) :
    ∃ organizationId sbomId uuid m, f = sbomFinding o.sources organizationId sbomId uuid m := by
  unfold sbomFound at hfs
  obtain ⟨document, -, hfs⟩ := except_bind_eq_ok.1 hfs
  obtain ⟨sbomId?, -, hfs⟩ := except_bind_eq_ok.1 hfs
  cases sbomId? with
  | none =>
      cases hfs
      cases hf
  | some sbomId =>
      obtain ⟨records, -, hfs⟩ := except_bind_eq_ok.1 hfs
      obtain ⟨organizationId, -, hfs⟩ := except_bind_eq_ok.1 hfs
      cases hfs
      obtain ⟨m, -, rfl⟩ := List.mem_map.1 hf
      exact ⟨_, _, _, _, rfl⟩

theorem mem_dojoFound (hfs : dojoFound o event = .ok fs) (hf : f ∈ fs) :
    ∃ fields records uuid, f = dojoFinding o.sources fields records uuid := by
  unfold dojoFound at hfs
  obtain ⟨decoded, -, hfs⟩ := except_bind_eq_ok.1 hfs
  cases decoded with
  | inl summary =>
      cases hfs
      cases hf
  | inr fields =>
      obtain ⟨records, -, hfs⟩ := except_bind_eq_ok.1 hfs
      cases hfs
      obtain rfl := List.mem_singleton.1 hf
      exact ⟨_, _, _, rfl⟩

theorem mem_wazuhFound (hfs : wazuhFound o event = .ok fs) (hf : f ∈ fs) :
    ∃ fields records uuid, f = wazuhFinding o.sources fields records uuid := by
  unfold wazuhFound at hfs
  obtain ⟨decoded, -, hfs⟩ := except_bind_eq_ok.1 hfs
  cases decoded with
  | inl summary =>
      cases hfs
      cases hf
  | inr fields =>
      obtain ⟨records, -, hfs⟩ := except_bind_eq_ok.1 hfs
      cases hfs
      obtain rfl := List.mem_singleton.1 hf
      exact ⟨_, _, _, rfl⟩

/-- A property of the findings of each handler is one of all findings. -/
theorem forall_of_findingsOf {P : Finding → Prop} (hfs : findingsOf o event h = .ok fs)
    (hsbom : ∀ organizationId sbomId uuid m,
      P (sbomFinding o.sources organizationId sbomId uuid m))
    (hdojo : ∀ fields records uuid, P (dojoFinding o.sources fields records uuid))
    (hwazuh : ∀ fields records uuid, P (wazuhFinding o.sources fields records uuid)) :
    ∀ f ∈ fs, P f := by
  intro f hf
  unfold findingsOf at hfs
  split_ifs at hfs
  · obtain ⟨_, _, _, _, rfl⟩ := mem_sbomFound hfs hf
    exact hsbom _ _ _ _
  · obtain ⟨_, _, _, rfl⟩ := mem_dojoFound hfs hf
    exact hdojo _ _ _
  · obtain ⟨_, _, _, rfl⟩ := mem_wazuhFound hfs hf
    exact hwazuh _ _ _
  · cases hfs
    cases hf

end Found

section Handlers

variable {o : Handling} {event : OutboxEvent} {rely guar : Hub → Hub → Prop} {h : Hub}
  {Q : Outcome PyError Unit → Session Hub → Prop}

theorem wp_handleSbomProcessed (hrefl : ∀ h, rely h h)
    (hoccurrences : ∀ h h', rely h h' → h'.occurrences = h.occurrences)
    (herror : ∀ e t, rely h t → sbomFound o event h = .error e → Q (.raised e) (Session.fresh t))
    (hok : ∀ fs t, rely h t → sbomFound o event h = .ok fs →
      (recordFindings o event.id fs).Wp rely guar Q (Session.fresh t)) :
    (handleSbomProcessed o event).Wp rely guar (fun out s => Q (out.map fun _ => ()) s)
      (Session.fresh h) := by
  unfold sbomFound at herror hok
  unfold handleSbomProcessed
  dsimp only at herror hok ⊢
  refine Program.wp_ofExcept_bind (fun e he => herror e h (hrefl h) (by rw [he]; rfl))
    fun document hdocument => ?_
  simp only [hdocument, except_ok_bind] at herror hok
  refine Program.wp_ofExcept_bind (fun e he => herror e h (hrefl h) (by rw [he]; rfl))
    fun sbomId? hsbom => ?_
  simp only [hsbom, except_ok_bind] at herror hok
  cases sbomId? with
  | none => exact Program.wp_ret.2 (Program.wp_ret.1 (hok [] h (hrefl h) rfl))
  | some sbomId =>
      dsimp only at herror hok ⊢
      refine Program.wp_select_bind fun t ht => ?_
      have hrows : (sessionView (Session.fresh h).executed (Session.fresh h).staged t).occurrences
          = h.occurrences := hoccurrences h t ht
      rw [hrows]
      generalize (h.occurrences.rows.filter fun occurrence => occurrence.sbomId = sbomId).filter
        queryable = ordered at herror hok ⊢
      refine Program.wp_ofExcept_bind (fun e he => herror e t ht (by rw [he]; rfl))
        fun records hrecords => ?_
      simp only [hrecords, except_ok_bind] at herror hok
      refine Program.wp_ofExcept_bind (fun e he => herror e t ht (by rw [he]; rfl))
        fun organizationId horganization => ?_
      simp only [horganization, except_ok_bind] at herror hok
      refine Program.wp_bind (Program.wp_mono (fun out s hQ => ?_) (hok _ t ht rfl))
      cases out with
      | returned _ => exact Program.wp_ret.2 hQ
      | raised e => exact hQ
      | failed => exact hQ

theorem wp_handleDefectdojoIngested
    (herror : ∀ e, dojoFound o event = .error e → Q (.raised e) (Session.fresh h))
    (hok : ∀ fs, dojoFound o event = .ok fs →
      (recordFindings o event.id fs).Wp rely guar Q (Session.fresh h)) :
    (handleDefectdojoIngested o event).Wp rely guar (fun out s => Q (out.map fun _ => ()) s)
      (Session.fresh h) := by
  unfold dojoFound at herror hok
  unfold handleDefectdojoIngested
  refine Program.wp_ofExcept_bind (fun e he => herror e (by rw [he]; rfl))
    fun decoded hdecoded => ?_
  simp only [hdecoded, except_ok_bind] at herror hok
  cases decoded with
  | inl summary => exact Program.wp_ret.2 (Program.wp_ret.1 (hok [] rfl))
  | inr fields =>
      dsimp only at herror hok ⊢
      refine Program.wp_ofExcept_bind (fun e he => herror e (by rw [he]; rfl))
        fun records hrecords => ?_
      simp only [hrecords, except_ok_bind] at herror hok
      refine Program.wp_bind (Program.wp_mono (fun out s hQ => ?_) (hok _ rfl))
      cases out with
      | returned _ => exact Program.wp_ret.2 hQ
      | raised e => exact hQ
      | failed => exact hQ

theorem wp_handleWazuhIngested
    (herror : ∀ e, wazuhFound o event = .error e → Q (.raised e) (Session.fresh h))
    (hok : ∀ fs, wazuhFound o event = .ok fs →
      (recordFindings o event.id fs).Wp rely guar Q (Session.fresh h)) :
    (handleWazuhIngested o event).Wp rely guar (fun out s => Q (out.map fun _ => ()) s)
      (Session.fresh h) := by
  unfold wazuhFound at herror hok
  unfold handleWazuhIngested
  refine Program.wp_ofExcept_bind (fun e he => herror e (by rw [he]; rfl))
    fun decoded hdecoded => ?_
  simp only [hdecoded, except_ok_bind] at herror hok
  cases decoded with
  | inl summary => exact Program.wp_ret.2 (Program.wp_ret.1 (hok [] rfl))
  | inr fields =>
      dsimp only at herror hok ⊢
      refine Program.wp_ofExcept_bind (fun e he => herror e (by rw [he]; rfl))
        fun records hrecords => ?_
      simp only [hrecords, except_ok_bind] at herror hok
      -- this handler records its finding outside a loop
      have hround := Program.wp_map.1 (Program.wp_bind_iff.1 (hok _ rfl))
      refine Program.wp_bind (Program.wp_mono (fun out s hQ => ?_) hround)
      cases out with
      | returned _ => exact Program.wp_ret.2 (Program.wp_ret.1 hQ)
      | raised e => exact hQ
      | failed => exact hQ

/-- **A handler records its findings**, and does nothing else to the rows. -/
theorem wp_handler {handler : Handling → OutboxEvent → HubProg String}
    (hhandler : handlerOf event.eventType = some handler) (hrefl : ∀ h, rely h h)
    (hoccurrences : ∀ h h', rely h h' → h'.occurrences = h.occurrences)
    (herror : ∀ e t, rely h t → findingsOf o event h = .error e → Q (.raised e) (Session.fresh t))
    (hok : ∀ fs t, rely h t → findingsOf o event h = .ok fs →
      (recordFindings o event.id fs).Wp rely guar Q (Session.fresh t)) :
    (handler o event).Wp rely guar (fun out s => Q (out.map fun _ => ()) s) (Session.fresh h) := by
  unfold handlerOf at hhandler
  unfold findingsOf at herror hok
  split_ifs at hhandler with hsbom hdojo hwazuh
  · cases hhandler
    rw [if_pos hsbom] at herror hok
    exact wp_handleSbomProcessed hrefl hoccurrences herror hok
  · cases hhandler
    rw [if_neg hsbom, if_pos hdojo] at herror hok
    exact wp_handleDefectdojoIngested (fun e => herror e h (hrefl h))
      fun fs => hok fs h (hrefl h)
  · cases hhandler
    rw [if_neg hsbom, if_neg hdojo, if_pos hwazuh] at herror hok
    exact wp_handleWazuhIngested (fun e => herror e h (hrefl h))
      fun fs => hok fs h (hrefl h)

end Handlers

/-! ## Rounds of a handling that runs alone -/

section Alone

variable {o : Handling} {eventId : String} {i : ℕ} {f : Finding} {fs : List Finding}
  {h h₁ h₂ h' : Hub} {e : Exposure}

omit [Packaging]

/-- A complete round: no case is opened, or a case and its link. -/
inductive Finding.Round (o : Handling) (eventId : String) (i : ℕ) (f : Finding) : Hub → Hub → Prop
    where
  | declined {h h' : Hub} {e : Exposure} (stored : f.Stored o eventId i h h')
      (found : h'.exposureAt f.key = some e)
      (declined : ¬ (f.opensCase = true ∧ Eligible o e h')) : f.Round o eventId i h h'
  | opened {h h₁ h₂ h' : Hub} {e : Exposure} (stored : f.Stored o eventId i h h₁)
      (found : h₁.exposureAt f.key = some e) (opens : f.opensCase = true)
      (opened : f.Opened o i e h₁ h₂) (linked : f.Linked o i e h₂ h') : f.Round o eventId i h h'

/-- All rounds of a handling. -/
inductive Rounds (o : Handling) (eventId : String) : ℕ → List Finding → Hub → Hub → Prop where
  | nil (i : ℕ) (h : Hub) : Rounds o eventId i [] h h
  | cons {i : ℕ} {f : Finding} {fs : List Finding} {h h₁ h' : Hub} (round : f.Round o eventId i h h₁)
      (rest : Rounds o eventId (i + 1) fs h₁ h') : Rounds o eventId i (f :: fs) h h'

/-- The rows a handling leads through: before its rounds, after a transaction of one, and after each
    round. -/
inductive Passes (o : Handling) (eventId : String) : ℕ → List Finding → Hub → Hub → Prop where
  | start (i : ℕ) (fs : List Finding) (h : Hub) : Passes o eventId i fs h h
  | stored {i : ℕ} {f : Finding} {fs : List Finding} {h h' : Hub}
      (stored : f.Stored o eventId i h h') : Passes o eventId i (f :: fs) h h'
  | opened {i : ℕ} {f : Finding} {fs : List Finding} {h h₁ h' : Hub} {e : Exposure}
      (stored : f.Stored o eventId i h h₁) (found : h₁.exposureAt f.key = some e)
      (opens : f.opensCase = true) (opened : f.Opened o i e h₁ h') :
      Passes o eventId i (f :: fs) h h'
  | next {i : ℕ} {f : Finding} {fs : List Finding} {h h₁ h' : Hub} (round : f.Round o eventId i h h₁)
      (rest : Passes o eventId (i + 1) fs h₁ h') : Passes o eventId i (f :: fs) h h'

theorem Rounds.append {gs : List Finding} (hfs : Rounds o eventId i fs h h₁)
    (hgs : Rounds o eventId (i + fs.length) gs h₁ h') : Rounds o eventId i (fs ++ gs) h h' := by
  induction hfs with
  | nil => exact hgs
  | cons round rest ih =>
      rw [List.length_cons, Nat.add_comm _ 1, ← Nat.add_assoc] at hgs
      exact .cons round (ih hgs)

theorem Rounds.passes {gs : List Finding} (hfs : Rounds o eventId i fs h h₁)
    (hgs : Passes o eventId (i + fs.length) gs h₁ h') : Passes o eventId i (fs ++ gs) h h' := by
  induction hfs with
  | nil => exact hgs
  | cons round rest ih =>
      rw [List.length_cons, Nat.add_comm _ 1, ← Nat.add_assoc] at hgs
      exact .next round (ih hgs)

/-- How a handling that runs alone from `h` may end: its rows are such as its rounds lead through, and
    if it returns, it has gone through all of them. -/
structure Ends (o : Handling) (eventId : String) (fs : List Finding) (h : Hub)
    (out : Outcome PyError Unit) (s : Session Hub) : Prop where
  fresh : s = Session.fresh s.db
  passes : Passes o eventId 0 fs h s.db
  rounds : out.isReturned = true → Rounds o eventId 0 fs h s.db

/-- One round, alone. -/
theorem recordFinding_alone (o : Handling) (eventId : String) (i : ℕ) (f : Finding)
    (fs : List Finding) (h : Hub) :
    (recordFinding o eventId i f).Wp Eq (fun _ t => Passes o eventId i (f :: fs) h t)
      (fun out s => s = Session.fresh s.db ∧ Passes o eventId i (f :: fs) h s.db ∧
        (out.isReturned = true → f.Round o eventId i h s.db)) (Session.fresh h) := by
  refine wp_recordFinding (Stable.eq (fun _ => True) eventId) trivial (A := fun t => t = h)
    (B := fun t => f.Stored o eventId i h t)
    (C := fun t => ∃ h₁ e, f.Stored o eventId i h h₁ ∧ h₁.exposureAt f.key = some e ∧
      f.opensCase = true ∧ f.Opened o i e h₁ t)
    (fun t u ht hu => hu ▸ ht) (fun t u ht hu => hu ▸ ht) (fun t u ht hu => hu ▸ ht)
    ?_ ?_ ?_ ?_ ?_ rfl
  · rintro t t' rfl hstored
    exact ⟨.stored hstored, hstored⟩
  · intro t t' e hstored hfound hopens hopened
    exact ⟨.opened hstored hfound hopens hopened, t, e, hstored, hfound, hopens, hopened⟩
  · rintro t t' e ⟨h₁, e', hstored, hfound', hopens, hopened⟩ hfound hlinked
    have heq : h₁.exposureAt f.key = t.exposureAt f.key := by
      unfold Hub.exposureAt
      rw [hopened.exposures_eq]
    obtain rfl : e' = e := Option.some.inj (hfound'.symm.trans (heq.trans hfound))
    have hround : f.Round o eventId i h t' := .opened hstored hfound' hopens hopened hlinked
    exact ⟨.next hround (.start _ _ _), rfl, .next hround (.start _ _ _), fun _ => hround⟩
  · intro t e hstored hfound hdeclined
    have hround : f.Round o eventId i h t := .declined hstored hfound hdeclined
    exact ⟨rfl, .next hround (.start _ _ _), fun _ => hround⟩
  · intro t out ht hout
    refine ⟨rfl, ?_, fun hreturned => by rw [hreturned] at hout; cases hout⟩
    rcases ht with rfl | hstored | ⟨h₁, e, hstored, hfound, hopens, hopened⟩
    · exact .start _ _ _
    · exact .stored hstored
    · exact .opened hstored hfound hopens hopened

/-- All rounds, alone. -/
theorem recordFindings_alone (o : Handling) (eventId : String) (fs : List Finding) (h : Hub) :
    (recordFindings o eventId fs).Wp Eq (fun _ t => Passes o eventId 0 fs h t)
      (Ends o eventId fs h) (Session.fresh h) := by
  refine Program.wp_forEach (fun done s => ∃ t, s = Session.fresh t ∧ Rounds o eventId 0 done h t) fs
    ?_ ?_ [] fs (Session.fresh h) rfl ⟨h, rfl, .nil 0 h⟩
  · rintro done f rest s hall ⟨t, rfl, hdone⟩
    subst hall
    have hpasses : ∀ {t'}, Passes o eventId done.length (f :: rest) t t' →
        Passes o eventId 0 (done ++ f :: rest) h t' := fun hpass =>
      hdone.passes (by rwa [Nat.zero_add])
    refine Program.wp_map.2 (Program.wp_mono_guar (fun _ _ hpass => hpasses hpass)
      (Program.wp_mono ?_ (recordFinding_alone o eventId done.length f rest t)))
    rintro out s ⟨hfresh, hpass, hround⟩
    cases out with
    | returned _ =>
        have hlast : f.Round o eventId (0 + done.length) t s.db := by
          rw [Nat.zero_add]
          exact hround rfl
        exact ⟨s.db, hfresh, hdone.append (.cons hlast (.nil _ _))⟩
    | raised e => exact ⟨hfresh, hpasses hpass, fun h => by cases h⟩
    | failed => exact ⟨hfresh, hpasses hpass, fun h => by cases h⟩
  · rintro s ⟨t, rfl, hrounds⟩
    refine ⟨rfl, ?_, fun _ => hrounds⟩
    have hpass := hrounds.passes (.start _ [] t)
    rwa [List.append_nil] at hpass

end Alone

section Handlers

variable {o : Handling} {event : OutboxEvent} {h : Hub}
  {handler : Handling → OutboxEvent → HubProg String}

/-- How a handler that runs alone may end, and what it commits: what its findings' rounds lead
    through, and nothing if it has no findings to record. -/
structure HandlerEnds (o : Handling) (event : OutboxEvent) (h : Hub) (out : Outcome PyError Unit)
    (s : Session Hub) : Prop where
  fresh : s = Session.fresh s.db
  nothing : ∀ e, findingsOf o event h = .error e → s.db = h
  ends : ∀ fs, findingsOf o event h = .ok fs → Ends o event.id fs h out s
  found : out.isReturned = true → ∃ fs, findingsOf o event h = .ok fs

theorem handler_alone (hhandler : handlerOf event.eventType = some handler) :
    (handler o event).Wp Eq
      (fun _ t => ∃ fs, findingsOf o event h = .ok fs ∧ Passes o event.id 0 fs h t)
      (fun out s => HandlerEnds o event h (out.map fun _ => ()) s) (Session.fresh h) := by
  refine wp_handler hhandler (fun _ => rfl) (fun h h' hh => by rw [hh]) ?_ ?_
  · rintro e t rfl herror
    refine ⟨rfl, fun _ _ => rfl, fun fs hfs => ?_, fun h => by cases h⟩
    rw [herror] at hfs
    cases hfs
  · rintro fs t rfl hfs
    refine Program.wp_mono_guar (fun _ t hpass => ⟨fs, hfs, hpass⟩)
      (Program.wp_mono (fun out s hends => ?_) (recordFindings_alone o event.id fs h))
    refine ⟨hends.fresh, fun e he => ?_, fun fs' hfs' => ?_, fun _ => ⟨fs, hfs⟩⟩
    · rw [hfs] at he
      cases he
    · rw [hfs] at hfs'
      cases hfs'
      exact hends

/-- A handler that runs alone and returns has gone through all rounds of its findings. -/
theorem rounds_of_returned (hhandler : handlerOf event.eventType = some handler) {summary : String}
    {s : Session Hub} (hrun : (handler o event).run (Session.fresh h) = (.returned summary, s)) :
    ∃ fs h', findingsOf o event h = .ok fs ∧ s = Session.fresh h' ∧
      Rounds o event.id 0 fs h h' := by
  have hends := Program.wp_run (fun _ => rfl) (handler_alone (o := o) (h := h) hhandler)
  rw [hrun] at hends
  obtain ⟨fs, hfs⟩ := hends.found rfl
  exact ⟨fs, s.db, hfs, hends.fresh, (hends.ends fs hfs).rounds rfl⟩

/-- What a handler that runs alone leaves, however it ends, its rounds lead through. -/
theorem passes_of_run (hhandler : handlerOf event.eventType = some handler)
    {out : Outcome PyError String} {s : Session Hub}
    (hrun : (handler o event).run (Session.fresh h) = (out, s)) :
    s = Session.fresh s.db ∧ (s.db = h ∨
      ∃ fs, findingsOf o event h = .ok fs ∧ Passes o event.id 0 fs h s.db) := by
  have hends := Program.wp_run (fun _ => rfl) (handler_alone (o := o) (h := h) hhandler)
  rw [hrun] at hends
  refine ⟨hends.fresh, ?_⟩
  cases hfs : findingsOf o event h with
  | error e => exact Or.inl (hends.nothing e hfs)
  | ok fs => exact Or.inr ⟨fs, rfl, (hends.ends fs hfs).passes⟩

/-- And so is what it leaves when its process dies. -/
theorem passes_of_crashed (hhandler : handlerOf event.eventType = some handler) {h' : Hub}
    (hcrashed : (handler o event).Crashed h h') :
    h' = h ∨ ∃ fs, findingsOf o event h = .ok fs ∧ Passes o event.id 0 fs h h' := by
  refine Program.Crashed.reached (fun _ => rfl) (handler_alone (o := o) (h := h) hhandler) hcrashed

end Handlers

end Runs

end VulnOpsHub
