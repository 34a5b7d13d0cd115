import VulnOpsHub.Workers.Binding
import VulnOpsHub.Workers.Verdicts

set_option autoImplicit false

/-! # Before VEX is asked

What a handler has in hand before it asks for a VEX statement: a draft of each of its findings. Two
handlings whose VEX answers differ work on drafts they may still share. -/

namespace VulnOpsHub

section Drafts

variable [Python] [Packaging]

/-! ## Drafts -/

/-- What a finding is about: an occurrence and a record, or a report and the records OSV answers for
    it. -/
inductive Draft where
  | sbom (organizationId sbomId : String) (occurrence : ComponentOccurrence)
      (record : AdvisoryRecord OsvAdvisory)
  | reported (report : Report) (records : List (AdvisoryRecord OsvAdvisory))

namespace Draft

def vulnerabilityId : Draft → String
  | .sbom _ _ _ record => record.vulnerabilityId
  | .reported report _ => report.cve

def key : Draft → ExposureKey
  | .sbom organizationId sbomId occurrence record =>
      ⟨organizationId, record.vulnerabilityId, "sbom:" ++ sbomId, some occurrence.id⟩
  | .reported report _ => report.key

/-- The finding the handler makes of it. -/
def finding (s : Sources) (uuid : String) : Draft → Finding
  | .sbom organizationId sbomId occurrence record =>
      sbomFinding s organizationId sbomId uuid (occurrence, record)
  | .reported report records => report.finding s records uuid

/-- Without the times of retrieval. -/
def untimed : Draft → Draft
  | .sbom organizationId sbomId occurrence record =>
      .sbom organizationId sbomId occurrence record.untimed
  | .reported report records => .reported report (records.map AdvisoryRecord.untimed)

@[simp] theorem key_finding (s : Sources) (uuid : String) (d : Draft) :
    (d.finding s uuid).key = d.key := by
  cases d with
  | sbom _ _ _ _ => rfl
  | reported report records => exact report.key_finding

omit [Python] [Packaging] in
@[simp] theorem key_untimed (d : Draft) : d.untimed.key = d.key := by
  cases d <;> rfl

omit [Python] [Packaging] in
@[simp] theorem vulnerabilityId_untimed (d : Draft) :
    d.untimed.vulnerabilityId = d.vulnerabilityId := by
  cases d <;> rfl

@[simp] theorem vulnerabilityId_finding (s : Sources) (uuid : String) (d : Draft) :
    (d.finding s uuid).vulnerabilityId = d.vulnerabilityId := by
  cases d with
  | sbom _ _ _ _ => rfl
  | reported report records => cases report <;> rfl

/-- The finding depends on the VEX statement for its vulnerability, and on no time or number. -/
theorem finding_alike {s s' : Sources} {d d' : Draft} (h : d.untimed = d'.untimed)
    (hvex : s'.vexStatusFor d.vulnerabilityId = s.vexStatusFor d.vulnerabilityId)
    (uuid uuid' : String) : (d'.finding s' uuid').Alike (d.finding s uuid) := by
  cases d with
  | sbom organizationId sbomId occurrence record =>
      cases d' with
      | reported _ _ => cases h
      | sbom organizationId' sbomId' occurrence' record' =>
          injection h with horganization hsbom hoccurrence hrecord
          subst horganization hsbom hoccurrence
          have hid := congrArg AdvisoryRecord.vulnerabilityId hrecord
          rw [AdvisoryRecord.vulnerabilityId_untimed, AdvisoryRecord.vulnerabilityId_untimed] at hid
          have hfirst : (sbomFinding s organizationId sbomId uuid'
              (occurrence, record.untimed)).Alike
              (sbomFinding s organizationId sbomId uuid (occurrence, record)) :=
            sbomFinding_alike organizationId sbomId uuid uuid' occurrence rfl
          have hsecond : (sbomFinding s organizationId sbomId uuid'
              (occurrence, record'.untimed)).Alike
              (sbomFinding s' organizationId sbomId uuid' (occurrence, record')) :=
            sbomFinding_alike organizationId sbomId uuid' uuid' occurrence (hid ▸ hvex.symm)
          rw [hrecord] at hfirst
          exact hsecond.symm.trans hfirst
  | reported report records =>
      cases d' with
      | sbom _ _ _ _ => cases h
      | reported report' records' =>
          injection h with hreport hrecords
          subst hreport
          cases report with
          | defectdojo fields => exact dojoFinding_alike hrecords.symm fields hvex uuid uuid'
          | wazuh fields => exact wazuhFinding_alike hrecords.symm fields hvex uuid uuid'

end Draft

/-- The drafts of an event's findings. -/
def draftsOf (s : Sources) (event : OutboxEvent) (h : Hub) : Except PyError (List Draft) := do
  let payload := event.payload.orEmpty
  if event.eventType = "vulnops.sbom.processed.v1" then
    let document ← payload.index "sbom_id"
    match ← document.optionalText with
    | none => return []
    | some sbomId =>
        let ordered := (h.occurrences.rows.filter fun occurrence =>
          occurrence.sbomId = sbomId).filter queryable
        let records ← (if ordered = [] then .ok []
          else s.lookupBatch (ordered.map fun occurrence =>
            { purl := occurrence.purl, version := occurrence.rawVersion }))
        let ms := sbomMatches ordered records
        let organizationId ← (if ms = [] then .ok "default"
          else payload.get "organization_id" >>= fun organization => organization.textOr "default")
        return ms.map fun m => .sbom organizationId sbomId m.1 m.2
  else if event.eventType = "vulnops.evidence.defectdojo.ingested.v1" then
    match ← DojoFields.decode payload with
    | .inl _ => return []
    | .inr fields =>
        return [.reported (.defectdojo fields) (← s.recordsFor fields.purl fields.componentVersion)]
  else if event.eventType = "vulnops.evidence.wazuh.ingested.v1" then
    match ← WazuhFields.decode payload with
    | .inl _ => return []
    | .inr fields =>
        return [.reported (.wazuh fields) (← s.recordsFor fields.purl fields.componentVersion)]
  else return []

omit [Python] [Packaging] in
theorem except_map_bind {α β γ : Type} (x : Except PyError α) (k : α → Except PyError β)
    (g : β → γ) : (x >>= k).map g = x >>= fun a => (k a).map g := by
  cases x <;> rfl

/-- A handler makes its findings of the drafts. -/
theorem findingsOf_eq (o : Handling) (event : OutboxEvent) (h : Hub) :
    findingsOf o event h = (draftsOf o.sources event h).map fun ds =>
      ds.zipIdx.map fun x => x.1.finding o.sources (o.uuid x.2 11) := by
  unfold findingsOf draftsOf
  dsimp only
  split_ifs
  · unfold sbomFound
    dsimp only
    rw [except_map_bind]
    refine congrArg (_ >>= ·) (funext fun document => ?_)
    rw [except_map_bind]
    refine congrArg (_ >>= ·) (funext fun sbomId? => ?_)
    cases sbomId? with
    | none => rfl
    | some sbomId =>
        dsimp only
        rw [except_map_bind]
        refine congrArg (_ >>= ·) (funext fun records => ?_)
        rw [except_map_bind]
        refine congrArg (_ >>= ·) (funext fun organizationId => ?_)
        refine congrArg Except.ok ?_
        unfold sbomFindings
        dsimp only
        rw [List.zipIdx_map, List.map_map]
        rfl
  · unfold dojoFound
    rw [except_map_bind]
    refine congrArg (_ >>= ·) (funext fun decoded => ?_)
    cases decoded with
    | inl summary => rfl
    | inr fields =>
        dsimp only
        rw [except_map_bind]
        rfl
  · unfold wazuhFound
    rw [except_map_bind]
    refine congrArg (_ >>= ·) (funext fun decoded => ?_)
    cases decoded with
    | inl summary => rfl
    | inr fields =>
        dsimp only
        rw [except_map_bind]
        rfl
  · rfl

end Drafts

end VulnOpsHub
