import VulnOpsHub.Workers.Effects

set_option autoImplicit false

/-! # The same answers

An event may be handled again, later and in another process. Where the intelligence sources answer
as they did, its findings are the same but for the ids the matcher makes up. -/

namespace VulnOpsHub

/-! ## What does not count -/

/-- A record without the time it was retrieved at. -/
def AdvisoryRecord.untimed {Content : Type} (r : AdvisoryRecord Content) :
    AdvisoryRecord Content :=
  { r with retrievedAt := none }

/-- A result without the id of a case nobody opens. -/
def ExposureResult.unnumbered (r : ExposureResult) : ExposureResult := { r with caseId := none }

def Finding.unnumbered (f : Finding) : Finding := { f with result := f.result.unnumbered }

section Untimed

variable {Content : Type} (r : AdvisoryRecord Content)

@[simp] theorem AdvisoryRecord.vulnerabilityId_untimed :
    r.untimed.vulnerabilityId = r.vulnerabilityId := rfl

@[simp] theorem AdvisoryRecord.aliases_untimed : r.untimed.aliases = r.aliases := rfl

@[simp] theorem AdvisoryRecord.queryIndex_untimed : r.untimed.queryIndex = r.queryIndex := rfl

end Untimed

@[simp] theorem advisoryFromRecord_untimed (r : AdvisoryRecord OsvAdvisory) :
    advisoryFromRecord r.untimed = advisoryFromRecord r := rfl

@[simp] theorem Finding.key_unnumbered (f : Finding) : f.unnumbered.key = f.key := rfl

/-- Two findings are the same but for that. -/
def Finding.Alike (f g : Finding) : Prop := f.unnumbered = g.unnumbered

namespace Finding.Alike

variable {f g : Finding}

theorem refl (f : Finding) : f.Alike f := rfl

theorem symm (h : f.Alike g) : g.Alike f := Eq.symm h

theorem key_eq (h : f.Alike g) : f.key = g.key := by
  have hkey := congrArg Finding.key h
  exact hkey

/-- The results say the same. -/
theorem result_eq (h : f.Alike g) : f.result.unnumbered = g.result.unnumbered := by
  have hresult := congrArg Finding.result h
  exact hresult

theorem matchClass_eq (h : f.Alike g) : f.result.matchClass = g.result.matchClass := by
  have hclass := congrArg ExposureResult.matchClass h.result_eq
  exact hclass

theorem confidence_eq (h : f.Alike g) : f.result.confidence = g.result.confidence := by
  have hconfidence := congrArg ExposureResult.confidence h.result_eq
  exact hconfidence

end Finding.Alike

section Answers

variable [Python] [Packaging]

theorem evaluate_unnumbered (c : ParsedComponent) (advisory : OsvAdvisory)
    (assetContext : Option AssetContext) (scannerEvidence : Option ScannerEvidence)
    (vexStatus : Option String) (uuid uuid' : String) :
    (evaluate c advisory assetContext scannerEvidence vexStatus uuid).unnumbered
      = (evaluate c advisory assetContext scannerEvidence vexStatus uuid').unnumbered := by
  have hvex : (vexResult vexStatus uuid).map ExposureResult.unnumbered
      = (vexResult vexStatus uuid').map ExposureResult.unnumbered := by
    unfold vexResult
    split_ifs <;> rfl
  have hrange : (rangeResult c advisory uuid).map ExposureResult.unnumbered
      = (rangeResult c advisory uuid').map ExposureResult.unnumbered := by
    unfold rangeResult
    split
    · dsimp only
      split_ifs <;> rfl
    · rfl
  unfold evaluate
  split
  · rfl
  · revert hvex
    cases vexResult vexStatus uuid <;> cases vexResult vexStatus uuid' <;> intro hvex
    · revert hrange
      cases rangeResult c advisory uuid <;> cases rangeResult c advisory uuid' <;> intro hrange
      · rfl
      · cases hrange
      · cases hrange
      · exact Option.some.inj hrange
    · cases hvex
    · cases hvex
    · exact Option.some.inj hvex

/-- The sources `s'`, over the rows `h'`, answer as `s` did over the rows `h`. -/
structure SameAnswers (s : Sources) (h : Hub) (s' : Sources) (h' : Hub) : Prop where
  osv : ∀ components, (s'.lookupBatch components).map (List.map AdvisoryRecord.untimed)
    = (s.lookupBatch components).map (List.map AdvisoryRecord.untimed)
  kev : ∀ vulnerabilityId, s'.isKev h' vulnerabilityId = s.isKev h vulnerabilityId
  epss : ∀ vulnerabilityId, s'.epssFor vulnerabilityId = s.epssFor vulnerabilityId
  vex : ∀ vulnerabilityId, s'.vexStatusFor vulnerabilityId = s.vexStatusFor vulnerabilityId

/-! ## Findings of a bill of materials -/

variable {s s' : Sources} {h h' : Hub}

theorem sbomFinding_alike (organizationId sbomId uuid uuid' : String)
    (occurrence : ComponentOccurrence) {r : AdvisoryRecord OsvAdvisory}
    (hvex : s'.vexStatusFor r.vulnerabilityId = s.vexStatusFor r.vulnerabilityId) :
    (sbomFinding s' organizationId sbomId uuid' (occurrence, r.untimed)).unnumbered
      = (sbomFinding s organizationId sbomId uuid (occurrence, r)).unnumbered := by
  have hresult := evaluate_unnumbered (componentFromOccurrence occurrence) (advisoryFromRecord r)
    none none (s.vexStatusFor r.vulnerabilityId) uuid' uuid
  unfold Finding.unnumbered sbomFinding
  simp only [advisoryFromRecord_untimed, AdvisoryRecord.vulnerabilityId_untimed, hvex, hresult]

omit [Python] [Packaging] in
theorem sbomMatches_untimed (ordered : List ComponentOccurrence)
    (records : List (AdvisoryRecord OsvAdvisory)) :
    sbomMatches ordered (records.map AdvisoryRecord.untimed)
      = (sbomMatches ordered records).map (Prod.map id AdvisoryRecord.untimed) := by
  unfold sbomMatches
  rw [List.map_flatMap]
  refine List.flatMap_congr fun x _ => ?_
  dsimp only
  rw [List.filter_map, List.map_map, List.map_map]
  rfl

/-- The findings of a bill of materials, without their numbers, come from the matches alone. -/
theorem sbomFindings_unnumbered (o : Handling) (organizationId sbomId : String)
    (ms : List (ComponentOccurrence × AdvisoryRecord OsvAdvisory)) :
    (sbomFindings o organizationId sbomId ms).map Finding.unnumbered
      = ms.map fun m =>
          (sbomFinding o.sources organizationId sbomId "" (m.1, m.2.untimed)).unnumbered := by
  unfold sbomFindings
  rw [List.map_map]
  have hround : (Finding.unnumbered ∘ fun x : (ComponentOccurrence × AdvisoryRecord OsvAdvisory) × ℕ =>
      sbomFinding o.sources organizationId sbomId (o.uuid x.2 11) x.1)
      = (fun m => (sbomFinding o.sources organizationId sbomId "" (m.1, m.2.untimed)).unnumbered)
          ∘ Prod.fst := by
    funext x
    exact (sbomFinding_alike _ _ _ _ _ rfl).symm
  show ms.zipIdx.map (Finding.unnumbered ∘ fun x => _) = _
  rw [hround, ← List.map_map, List.zipIdx_map_fst]

omit [Python] [Packaging] in
/-- An answer that is the same up to `f`, used by a step that does not look further. -/
theorem except_bind_congr {α β γ δ : Type} {f : α → β} {x y : Except PyError α}
    {k k' : α → Except PyError γ} {g : γ → δ} (hxy : x.map f = y.map f)
    (hk : ∀ a b, f a = f b → (k a).map g = (k' b).map g) :
    (x >>= k).map g = (y >>= k').map g := by
  cases x with
  | error e =>
      cases y with
      | error e' => cases hxy; rfl
      | ok b => cases hxy
  | ok a =>
      cases y with
      | error e' => cases hxy
      | ok b => exact hk a b (Except.ok.inj hxy)

omit [Python] [Packaging] in
/-- The same step first. -/
theorem except_bind_map_congr {α γ δ : Type} (x : Except PyError α) {k k' : α → Except PyError γ}
    {g : γ → δ} (hk : ∀ a, (k a).map g = (k' a).map g) : (x >>= k).map g = (x >>= k').map g :=
  except_bind_congr (f := id) rfl fun a b hab => by
    cases hab
    exact hk a

variable {o o' : Handling} {event : OutboxEvent}

omit [Python] [Packaging] in
theorem sbomMatches_alike {records records' : List (AdvisoryRecord OsvAdvisory)}
    (h : records.map AdvisoryRecord.untimed = records'.map AdvisoryRecord.untimed)
    (ordered : List ComponentOccurrence) :
    (sbomMatches ordered records).map (Prod.map id AdvisoryRecord.untimed)
      = (sbomMatches ordered records').map (Prod.map id AdvisoryRecord.untimed) := by
  rw [← sbomMatches_untimed, ← sbomMatches_untimed, h]

theorem sbomFindings_alike (hvex : ∀ id, o'.sources.vexStatusFor id = o.sources.vexStatusFor id)
    (organizationId sbomId : String)
    {ms ms' : List (ComponentOccurrence × AdvisoryRecord OsvAdvisory)}
    (hms : ms.map (Prod.map id AdvisoryRecord.untimed)
      = ms'.map (Prod.map id AdvisoryRecord.untimed)) :
    (sbomFindings o' organizationId sbomId ms).map Finding.unnumbered
      = (sbomFindings o organizationId sbomId ms').map Finding.unnumbered := by
  have hfinding : ∀ m : ComponentOccurrence × AdvisoryRecord OsvAdvisory,
      (sbomFinding o'.sources organizationId sbomId "" (m.1, m.2.untimed)).unnumbered
        = (sbomFinding o.sources organizationId sbomId "" (m.1, m.2.untimed)).unnumbered := fun m =>
    sbomFinding_alike organizationId sbomId "" "" m.1 (r := m.2.untimed) (hvex _)
  rw [sbomFindings_unnumbered, sbomFindings_unnumbered]
  simp only [hfinding]
  have hmap := congrArg (List.map fun m : ComponentOccurrence × AdvisoryRecord OsvAdvisory =>
    (sbomFinding o.sources organizationId sbomId "" m).unnumbered) hms
  rw [List.map_map, List.map_map] at hmap
  exact hmap

theorem sbomFound_alike (hanswers : SameAnswers o.sources h o'.sources h')
    (hoccurrences : h'.occurrences = h.occurrences) :
    (sbomFound o' event h').map (List.map Finding.unnumbered)
      = (sbomFound o event h).map (List.map Finding.unnumbered) := by
  unfold sbomFound
  rw [hoccurrences]
  refine except_bind_map_congr _ fun document => except_bind_map_congr _ fun sbomId? => ?_
  cases sbomId? with
  | none => rfl
  | some sbomId =>
      dsimp only
      generalize (h.occurrences.rows.filter fun occurrence => occurrence.sbomId = sbomId).filter
        queryable = ordered
      refine except_bind_congr (f := List.map AdvisoryRecord.untimed) ?_ fun records records' hr => ?_
      · split
        · rfl
        · exact hanswers.osv _
      · have hms := sbomMatches_alike hr ordered
        have hnil : sbomMatches ordered records = [] ↔ sbomMatches ordered records' = [] := by
          rw [← List.map_eq_nil_iff (f := Prod.map id AdvisoryRecord.untimed), hms,
            List.map_eq_nil_iff]
        simp only [hnil]
        exact except_bind_map_congr _ fun organizationId =>
          congrArg Except.ok (sbomFindings_alike hanswers.vex organizationId sbomId hms)

/-! ## Findings of a report -/

section Records

variable {records records' : List (AdvisoryRecord OsvAdvisory)}
  (hr : records'.map AdvisoryRecord.untimed = records.map AdvisoryRecord.untimed)

include hr

omit [Python] [Packaging] in
theorem dojoAdvisory_alike (cve : String) : dojoAdvisory cve records' = dojoAdvisory cve records := by
  have huntimed : ∀ rs, dojoAdvisory cve (rs.map AdvisoryRecord.untimed) = dojoAdvisory cve rs := by
    intro rs
    cases rs <;> rfl
  rw [← huntimed, hr, huntimed]

omit [Packaging] in
theorem selectOsvRecordForCve_alike (cve : String) :
    (selectOsvRecordForCve records' cve).map AdvisoryRecord.untimed
      = (selectOsvRecordForCve records cve).map AdvisoryRecord.untimed := by
  have huntimed : ∀ rs : List (AdvisoryRecord OsvAdvisory),
      selectOsvRecordForCve (rs.map AdvisoryRecord.untimed) cve
        = (selectOsvRecordForCve rs cve).map AdvisoryRecord.untimed := by
    intro rs
    unfold selectOsvRecordForCve
    rw [List.find?_map]
    rfl
  rw [← huntimed, hr, huntimed]

theorem dojoFinding_alike (fields : DojoFields)
    (hvex : s'.vexStatusFor fields.cve = s.vexStatusFor fields.cve) (uuid uuid' : String) :
    (dojoFinding s' fields records' uuid').unnumbered
      = (dojoFinding s fields records uuid).unnumbered := by
  have hresult : (dojoResult s' fields records' uuid').unnumbered
      = (dojoResult s fields records uuid).unnumbered := by
    unfold dojoResult
    rw [dojoAdvisory_alike hr, hvex]
    exact evaluate_unnumbered _ _ _ _ _ _ _
  unfold Finding.unnumbered dojoFinding
  simp only [hresult]

omit hr [Python] [Packaging] in
theorem wazuhAdjusted_unnumbered (fields : WazuhFields) (osvCveBound : Bool)
    {result result' : ExposureResult} (h : result'.unnumbered = result.unnumbered) :
    (wazuhAdjusted fields osvCveBound result').unnumbered
      = (wazuhAdjusted fields osvCveBound result).unnumbered := by
  have hadjusted : ∀ r, (wazuhAdjusted fields osvCveBound r).unnumbered
      = (wazuhAdjusted fields osvCveBound r.unnumbered).unnumbered := by
    intro r
    unfold wazuhAdjusted ExposureResult.unnumbered
    split_ifs <;> rfl
  rw [hadjusted, h, ← hadjusted]

theorem wazuhFinding_alike (fields : WazuhFields)
    (hvex : s'.vexStatusFor fields.cve = s.vexStatusFor fields.cve) (uuid uuid' : String) :
    (wazuhFinding s' fields records' uuid').unnumbered
      = (wazuhFinding s fields records uuid).unnumbered := by
  have hselect := selectOsvRecordForCve_alike hr fields.cve
  have hsome : (selectOsvRecordForCve records' fields.cve).isSome
      = (selectOsvRecordForCve records fields.cve).isSome := by
    have := congrArg Option.isSome hselect
    rwa [Option.isSome_map, Option.isSome_map] at this
  have hadvisory : wazuhAdvisory fields.cve (selectOsvRecordForCve records' fields.cve)
      = wazuhAdvisory fields.cve (selectOsvRecordForCve records fields.cve) := by
    have huntimed : ∀ bound, wazuhAdvisory fields.cve (bound.map AdvisoryRecord.untimed)
        = wazuhAdvisory fields.cve bound := by
      intro bound
      cases bound <;> rfl
    rw [← huntimed, hselect, huntimed]
  have hresult : (wazuhResult s' fields records' uuid').unnumbered
      = (wazuhResult s fields records uuid).unnumbered := by
    unfold wazuhResult
    dsimp only
    rw [hsome, hadvisory, hvex]
    exact wazuhAdjusted_unnumbered _ _ (evaluate_unnumbered _ _ _ _ _ _ _)
  unfold Finding.unnumbered wazuhFinding
  simp only [hresult, hsome]

end Records

omit [Packaging] in
theorem recordsFor_alike (hanswers : SameAnswers s h s' h') (purl version : Option String) :
    (s'.recordsFor purl version).map (List.map AdvisoryRecord.untimed)
      = (s.recordsFor purl version).map (List.map AdvisoryRecord.untimed) := by
  unfold Sources.recordsFor
  split
  · exact hanswers.osv _
  · rfl

/-- **The same answers make the same findings.** -/
theorem findingsOf_alike (hanswers : SameAnswers o.sources h o'.sources h')
    (hoccurrences : h'.occurrences = h.occurrences) :
    (findingsOf o' event h').map (List.map Finding.unnumbered)
      = (findingsOf o event h).map (List.map Finding.unnumbered) := by
  unfold findingsOf
  split_ifs
  · exact sbomFound_alike hanswers hoccurrences
  · refine except_bind_map_congr _ fun decoded => ?_
    cases decoded with
    | inl summary => rfl
    | inr fields =>
        exact except_bind_congr (recordsFor_alike hanswers _ _) fun records records' hr =>
          congrArg (fun f => Except.ok [f]) (dojoFinding_alike hr fields (hanswers.vex _) _ _)
  · refine except_bind_map_congr _ fun decoded => ?_
    cases decoded with
    | inl summary => rfl
    | inr fields =>
        exact except_bind_congr (recordsFor_alike hanswers _ _) fun records records' hr =>
          congrArg (fun f => Except.ok [f]) (wazuhFinding_alike hr fields (hanswers.vex _) _ _)
  · rfl

end Answers

end VulnOpsHub
