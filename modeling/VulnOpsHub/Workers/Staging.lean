import VulnOpsHub.Lib.Sessions
import VulnOpsHub.Workers.Orchestration

set_option autoImplicit false

/-! # What a handler stages

Whatever the rows are when it reads them, a handler stages only the statements of a round: an exposure
and its evidence, a case, and the link and the ticket of that case (`handler_stages`). -/

namespace VulnOpsHub

/-- A statement of a round. -/
inductive HubWrite.Recorded : HubWrite → Prop where
  | insertExposure (e : Exposure) : Recorded (.insertExposure e)
  | updateExposure (id : String) (p : ExposurePatch) : Recorded (.updateExposure id p)
  | insertEvidence (m : MatchEvidence) : Recorded (.insertEvidence m)
  | created {env : CallEnv} {case : RemediationCase} {w : Write} (mem : w ∈ createdRows env case) :
      Recorded (.core w)
  | insertLink (l : CaseExposure) : Recorded (.insertLink l)
  | ticket {env : CallEnv} {e : Exposure} {caseId : String} {ticket provenance : Option String}
      {w : HubWrite} (mem : w ∈ ticketWrites env e caseId ticket provenance) : Recorded w

theorem upsertExposure_stages (a : UpsertArgs) (env : CallEnv) :
    (upsertExposure a env).Stages HubWrite.Recorded := by
  have hwrite : ∀ existing, (a.write env existing).Recorded := by
    intro existing
    cases existing with
    | none => exact .insertExposure _
    | some e => exact .updateExposure _ _
  unfold upsertExposure
  refine (Program.stages_select _).bind fun existing => ?_
  refine (Program.stages_add (by simpa using hwrite existing)).bind fun _ => ?_
  split
  · exact Program.stages_pure _
  · refine (Program.stages_select _).bind fun seen => ?_
    split
    · exact Program.stages_pure _
    · refine (Program.stages_add ?_).bind fun _ => Program.stages_pure _
      intro w hw
      obtain rfl := List.mem_singleton.1 hw
      exact .insertEvidence _

section Handlers

variable [Python]

theorem createCase_stages (a : CreateCaseArgs) (env : CallEnv) :
    ((createCase a env).embed hubView).Stages HubWrite.Recorded := by
  refine Program.Stages.embed hubView ?_
  unfold createCase
  refine (Program.stages_select _).bind fun assetIds => ?_
  refine (resolveOwners_queries _ _ _ _).stages.bind fun owners => ?_
  refine (Program.stages_ofExcept _).bind fun owner => ?_
  refine (Program.stages_add fun w hw => .created hw).bind fun _ => ?_
  exact Program.stages_commitAll.bind fun _ => Program.stages_lookup _ _

theorem maybeCreateCase_stages (o : Handling) (env : CallEnv) (exposureId label : String)
    (ticket provenance : Option String) :
    (maybeCreateCase o env exposureId label ticket provenance).Stages HubWrite.Recorded := by
  unfold maybeCreateCase
  split
  · refine (Program.stages_lookup _ _).bind fun e => ?_
    split
    · refine (Program.stages_select _).bind fun linked => ?_
      split
      · exact Program.stages_pure _
      · refine (Program.stages_select _).bind fun listed => ?_
        split
        · exact Program.stages_pure _
        · refine (createCase_stages _ _).bind fun case => ?_
          refine (Program.stages_add fun w hw => ?_).bind fun _ =>
            Program.stages_commitAll.bind fun _ => Program.stages_pure _
          rcases List.mem_cons.1 hw with rfl | hw
          · exact .insertLink _
          · exact .ticket hw
    · exact Program.stages_pure _
  · exact Program.stages_pure _

theorem recordFinding_stages (o : Handling) (eventId : String) (i : ℕ) (f : Finding) :
    (recordFinding o eventId i f).Stages HubWrite.Recorded := by
  unfold recordFinding priorityFor
  refine ((Program.stages_select _).bind fun kev => Program.stages_pure _).bind fun p => ?_
  refine (upsertExposure_stages _ _).bind fun e => ?_
  refine Program.stages_commitAll.bind fun _ => ?_
  split
  · exact (maybeCreateCase_stages _ _ _ _ _ _).bind fun _ => Program.stages_pure _
  · exact Program.stages_pure _

theorem recordFindings_stages (o : Handling) (eventId : String) (fs : List Finding) :
    (recordFindings o eventId fs).Stages HubWrite.Recorded :=
  Program.stages_forEach (fun i f => (recordFinding_stages o eventId i f).map _) 0 fs

/-- **A handler stages the statements of rounds**, and nothing else. -/
theorem handler_stages [Packaging] {eventType : String}
    {handler : Handling → OutboxEvent → HubProg String} (h : handlerOf eventType = some handler)
    (o : Handling) (event : OutboxEvent) : (handler o event).Stages HubWrite.Recorded := by
  have hsbom : (handleSbomProcessed o event).Stages HubWrite.Recorded := by
    unfold handleSbomProcessed
    refine (Program.stages_ofExcept _).bind fun document => ?_
    refine (Program.stages_ofExcept _).bind fun text => ?_
    split
    · exact Program.stages_pure _
    · refine (Program.stages_select _).bind fun occurrences => ?_
      refine (Program.stages_ofExcept _).bind fun records => ?_
      refine (Program.stages_ofExcept _).bind fun organizationId => ?_
      exact (recordFindings_stages _ _ _).bind fun _ => Program.stages_pure _
  have hdojo : (handleDefectdojoIngested o event).Stages HubWrite.Recorded := by
    unfold handleDefectdojoIngested
    refine (Program.stages_ofExcept _).bind fun decoded => ?_
    split
    · exact Program.stages_pure _
    · refine (Program.stages_ofExcept _).bind fun records => ?_
      exact (recordFindings_stages _ _ _).bind fun _ => Program.stages_pure _
  have hwazuh : (handleWazuhIngested o event).Stages HubWrite.Recorded := by
    unfold handleWazuhIngested
    refine (Program.stages_ofExcept _).bind fun decoded => ?_
    split
    · exact Program.stages_pure _
    · refine (Program.stages_ofExcept _).bind fun records => ?_
      exact (recordFinding_stages _ _ _ _).bind fun _ => Program.stages_pure _
  unfold handlerOf at h
  split_ifs at h
  · exact Option.some.inj h ▸ hsbom
  · exact Option.some.inj h ▸ hdojo
  · exact Option.some.inj h ▸ hwazuh

end Handlers

/-! ## The outbox -/

/-- The rows of the outbox after a statement. -/
def HubWrite.onOutbox (rows : List OutboxEvent) : HubWrite → List OutboxEvent
  | .core w => rows ++ w.outbox?.toList
  | .updateOutbox id p => rows.map fun r => if r.id = id then p.toRow.apply r else r
  | _ => rows

theorem HubWrite.apply_outbox {w : HubWrite} {h h' : Hub} (hw : w.apply h = some h') :
    h'.outboxEvents.rows = w.onOutbox h.outboxEvents.rows := by
  cases w with
  | core w =>
      obtain ⟨db, hdb, rfl⟩ := Option.map_eq_some_iff.1 hw
      exact (Write.apply_effect hdb).outboxEvents
  | updateExposure id p =>
      cases hw
      rfl
  | updateOutbox id p =>
      cases hw
      rfl
  | _ =>
      obtain ⟨t, -, rfl⟩ := Option.map_eq_some_iff.1 hw
      rfl

/-- A round delivers no event: it changes no row of the outbox, and adds only events to be
    delivered. -/
theorem HubWrite.Recorded.outbox {w : HubWrite} (h : w.Recorded) (rows : List OutboxEvent) :
    ∃ new, w.onOutbox rows = rows ++ new ∧ ∀ r ∈ new, r.deliveredAt = none := by
  cases h with
  | @created env case w mem =>
      refine ⟨w.outbox?.toList, rfl, fun r hr => ?_⟩
      unfold createdRows at mem
      rcases List.mem_append.1 mem with mem | mem
      · rcases List.mem_append.1 mem with mem | mem
        · simp only [List.mem_cons, List.not_mem_nil, or_false] at mem
          rcases mem with rfl | rfl | rfl <;> cases hr
        · split at mem
          · obtain rfl := List.mem_singleton.1 mem
            cases hr
          · cases mem
      · obtain rfl := List.mem_singleton.1 mem
        obtain rfl : r = createdOutbox env case := by simpa [Write.outbox?] using hr
        rfl
  | ticket mem =>
      unfold ticketWrites at mem
      split at mem
      · cases mem
      · simp only [List.mem_cons, List.not_mem_nil, or_false] at mem
        rcases mem with rfl | rfl <;> exact ⟨[], rfl, by simp⟩
  | _ => exact ⟨[], by simp [onOutbox], by simp⟩

end VulnOpsHub
