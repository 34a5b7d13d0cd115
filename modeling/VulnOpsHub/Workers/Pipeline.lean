import VulnOpsHub.Sbom.Ingestion
import VulnOpsHub.Workers.Boundaries

set_option autoImplicit false

/-! # Evidence and workers

Bills of materials and the evidence of both bridges come in while any number of workers handle what is
in the outbox. Whatever the raw documents say, and in every interleaving, the rows of an organization
that nothing is ingested for stay as they are (`ingestion_apart`).

A call that ingests something writes its rows by one commit and is one step here. -/

namespace VulnOpsHub

/-! ## The pipeline -/

/-- The columns of an occurrence that a handler reads. -/
def columnsRead (o : Sbom.ComponentOccurrence) : ComponentOccurrence where
  id := o.id
  sbomId := o.sbomId
  assetId := o.assetId
  purl := o.fields.purl
  ecosystem := o.fields.ecosystem
  normalizedName := o.fields.normalizedName
  rawName := o.fields.rawName
  rawVersion := o.fields.rawVersion
  cpe := o.fields.cpe
  versionScheme := o.fields.versionScheme

def occurrencesRead (t : Table Sbom.ComponentOccurrence) : Table ComponentOccurrence where
  rows := t.rows.map columnsRead
  nodup := by
    rw [List.map_map]
    exact t.nodup

/-- The tables and files that are ingested into, and the workers with their tables. The audit rows, the
    outbox and the occurrences are those of the workers. -/
structure Pipeline where
  store : Sbom.SbomStore
  crew : Crew

/-- What happens next: a bridge is called, a bill of materials is submitted, or a worker goes on. -/
inductive PipelineAct where
  | deliver (b : Bridge) (env : CallEnv) (raw : Json) (organizationId : String)
  | submit (settings : Sbom.StorageSettings) (c : Sbom.SbomCall)
  | work (a : Act)

/-- The act ingests nothing but for an organization in `only`. -/
def PipelineAct.IngestsFor (only : String → Prop) : PipelineAct → Prop
  | .deliver _ _ _ organizationId => only organizationId
  | .submit _ c => only c.organizationId
  | .work _ => True

instance (only : String → Prop) [DecidablePred only] :
    (a : PipelineAct) → Decidable (a.IngestsFor only)
  | .deliver _ _ _ organizationId => inferInstanceAs (Decidable (only organizationId))
  | .submit _ c => inferInstanceAs (Decidable (only c.organizationId))
  | .work _ => inferInstanceAs (Decidable True)

namespace Pipeline

/-- What a call that ingests something finds. -/
def current (p : Pipeline) : Sbom.SbomStore :=
  { p.store with auditEvents := p.crew.db.auditEvents, outboxEvents := p.crew.db.outboxEvents }

/-- What it leaves. -/
def ingested (p : Pipeline) (t : Sbom.SbomStore) : Pipeline where
  store := t
  crew :=
    { p.crew with
      db :=
        { p.crew.db with
          auditEvents := t.auditEvents
          outboxEvents := t.outboxEvents
          occurrences := occurrencesRead t.occurrences } }

variable [Python] [PythonDigits] [Packaging] [Driver] [Sha256]

def step (p : Pipeline) : PipelineAct → Option Pipeline
  | .deliver b env raw organizationId =>
      some (p.ingested { p.current with
        toEvidenceStore := (b.deliver env raw organizationId p.current.toEvidenceStore).2 })
  | .submit settings c => some (p.ingested (Sbom.ingest settings c p.current).2)
  | .work a => (p.crew.step a).map fun crew => { p with crew := crew }

/-- The states that acts within `allowed` lead to. -/
inductive Run (allowed : PipelineAct → Prop) (start : Pipeline) : Pipeline → Prop where
  | start : Run allowed start start
  | step {p p' : Pipeline} (run : Run allowed start p) (a : PipelineAct) (ok : allowed a)
      (next : p.step a = some p') : Run allowed start p'

/-- Several acts, all of them within `allowed`. -/
def runActs (allowed : PipelineAct → Bool) : Pipeline → List PipelineAct → Option Pipeline
  | p, [] => some p
  | p, a :: rest =>
      if allowed a then (p.step a).bind fun p' => runActs allowed p' rest else none

theorem Run.mono {allowed allowed' : PipelineAct → Prop} {start p : Pipeline}
    (h : ∀ a, allowed a → allowed' a) (hrun : Run allowed start p) : Run allowed' start p := by
  induction hrun with
  | start => exact .start
  | step run a ok next ih => exact ih.step a (h a ok) next

theorem Run.of_acts {allowed : PipelineAct → Prop} [DecidablePred allowed]
    {start p p' : Pipeline} {acts : List PipelineAct} (hrun : Run allowed start p)
    (hacts : runActs (fun a => decide (allowed a)) p acts = some p') : Run allowed start p' := by
  induction acts generalizing p with
  | nil =>
      cases hacts
      exact hrun
  | cons a rest ih =>
      unfold runActs at hacts
      split_ifs at hacts with hok
      obtain ⟨p₁, hstep, hrest⟩ := Option.bind_eq_some_iff.1 hacts
      exact ih (hrun.step a (of_decide_eq_true hok) hstep) hrest

end Pipeline

/-! ## What is ingested -/

/-- A handler works for the organization an event is of. -/
theorem organizationId_of_isOf {event : OutboxEvent} {organizationId : String}
    (h : event.isOf organizationId = true) (hne : organizationId ≠ "") :
    event.organizationId = organizationId := by
  unfold OutboxEvent.isOf Json.isOneOf at h
  split at h
  · next s hfield =>
      obtain rfl : s = organizationId := by simpa using h
      unfold Json.field at hfield
      have hpayload : event.payload.orEmpty = event.payload ∧
          event.payload.get "organization_id"
            = .ok ((event.payload.members.lookup "organization_id").getD .null) := by
        cases hmembers : event.payload with
        | obj members =>
            cases members with
            | nil =>
                rw [hmembers] at hfield
                cases hfield
            | cons member rest => exact ⟨rfl, rfl⟩
        | _ =>
            rw [hmembers] at hfield
            cases hfield
      have htext : (Json.str s).textOr "default" = .ok s := by
        simp [Json.textOr, Json.truthy, Json.text, hne]
      refine organizationId_eq ?_ htext
      rw [hpayload.1, hpayload.2, hfield]
  · cases h

theorem ne_of_validated {organizationId segment : String}
    (h : validateOrganizationId organizationId = .ok segment) : organizationId ≠ "" := by
  rintro rfl
  have hunsafe : unsafeSegment "" = true := rfl
  rw [(validateOrganizationId_eq_ok.1 h).1] at hunsafe
  cases hunsafe

/-- The rows of a record are of the organization it is ingested for. -/
structure EvidenceRows.Of (rows : EvidenceRows) (organizationId : String) : Prop where
  snapshot : rows.snapshot.organizationId = organizationId
  audit : rows.audit.organizationId = organizationId
  outbox : rows.outbox.organizationId = organizationId

section Ingested

variable [Python] [PythonDigits] [Driver] [Sha256] {env : CallEnv} {organizationId : String}

omit [PythonDigits] in
/-- A record is ingested under a name that can be a directory, if at all. -/
theorem EvidenceRecord.ingest_of {r : EvidenceRecord} (s : EvidenceStore)
    (hr : ∀ mapping scanMetadata,
      (Json.obj (r.payload mapping scanMetadata)).field "organization_id" = .str organizationId) :
    ∃ w, Written s w (r.ingest env organizationId s).2 ∧ ∀ rows ∈ w, rows.Of organizationId := by
  unfold ingest
  cases hkey : s.snapshots.byNatural r.key with
  | some existing => cases r.derived s <;> exact ⟨[], .refl s, by simp⟩
  | none =>
      cases r.derived s with
      | error e => exact ⟨[], .refl s, by simp⟩
      | ok d =>
          simp only [ingestNew]
          cases hpersist : persistEvidenceBytes (canonicalBytes r.raw) organizationId r.digest
              s.files with
          | error e => exact ⟨[], .refl s, by simp⟩
          | ok files =>
              have hfiles := Written.refl { s with files := files }
              have hne : organizationId ≠ "" := by
                simp only [persistEvidenceBytes, evidenceLocalPath, except_bind_eq_ok] at hpersist
                obtain ⟨-, -, path, ⟨segment, hsegment, -⟩, -⟩ := hpersist
                exact ne_of_validated hsegment
              cases hrows : r.rows env organizationId d.1 d.2 with
              | error e => exact ⟨[], ⟨hfiles.1, hfiles.2, hfiles.3⟩, by simp⟩
              | ok rows =>
                  dsimp only
                  cases hcommit : EvidenceStore.commit { s with files := files } rows with
                  | error e => exact ⟨[], ⟨hfiles.1, hfiles.2, hfiles.3⟩, by simp⟩
                  | ok t =>
                      have hw := EvidenceStore.commit_written hcommit
                      refine ⟨[rows], ⟨hw.1, hw.2, hw.3⟩, fun rows' hmem => ?_⟩
                      rw [List.mem_singleton.1 hmem]
                      simp only [EvidenceRecord.rows, except_bind_eq_ok, accepted_eq_ok] at hrows
                      obtain ⟨id, hid, uri, -, org, horg, reason, -, hrows⟩ := hrows
                      cases hrows
                      obtain rfl := Driver.eq_of_stored horg
                      refine ⟨rfl, rfl, organizationId_of_isOf ?_ hne⟩
                      unfold OutboxEvent.isOf
                      rw [show (CallEnv.outbox env 4 _ _ _ _ _).payload = .obj _ from rfl, hr]
                      simp [Json.isOneOf]

/-- **A call of a bridge** writes rows of the organization it is called for, whatever it is given. -/
theorem Bridge.deliver_of (b : Bridge) (env : CallEnv) (raw : Json) (organizationId : String)
    (s : EvidenceStore) : ∃ w, Written s w (b.deliver env raw organizationId s).2 ∧
      ∀ rows ∈ w, rows.Of organizationId := by
  cases hrecord : b.record env raw organizationId with
  | error e =>
      rw [Bridge.deliver_of_error hrecord]
      exact ⟨[], .refl s, by simp⟩
  | ok r =>
      rw [Bridge.deliver_of_record hrecord]
      refine r.ingest_of s fun mapping scanMetadata => ?_
      rcases Bridge.record_cases hrecord with ⟨-, -, rfl⟩ | ⟨-, event, -, rfl⟩ <;> rfl

omit [PythonDigits] in
/-- **A bill of materials** is stored in rows of the organization that submits it. -/
theorem Sbom.ingest_of (settings : Sbom.StorageSettings) (c : Sbom.SbomCall) (s : Sbom.SbomStore) :
    ∃ w : List Sbom.SbomRows, Sbom.Stored s w (Sbom.ingest settings c s).2 ∧ ∀ rows ∈ w,
      rows.evidence.Of c.organizationId ∧ rows.document.organizationId = c.organizationId := by
  rcases Sbom.ingest_cases settings c s with ⟨existing, -, hfound⟩ | ⟨-, ⟨e, -, hsame⟩ | hnew⟩
  · rw [hfound]
    exact ⟨[], .refl s, by simp⟩
  · exact ⟨[], hsame.stored, by simp⟩
  · obtain ⟨rows, hrows, -, hstored⟩ := hnew
    refine ⟨[rows], hstored, fun rows' hmem => ?_⟩
    rw [List.mem_singleton.1 hmem]
    obtain ⟨hfiled, -⟩ := Sbom.newRows_filedUnder hrows
    have hne : c.organizationId ≠ "" := by
      simp only [Sbom.newRows, Sbom.sbomObjectKey, except_bind_eq_ok] at hrows
      obtain ⟨-, -, -, -, -, ⟨segment, hsegment, -⟩, -⟩ := hrows
      exact ne_of_validated hsegment
    refine ⟨⟨congrArg Prod.snd hfiled.snapshot.2, hfiled.audit.2.2, ?_⟩,
      congrArg Prod.snd hfiled.document⟩
    exact organizationId_of_isOf (by rw [hfiled.outbox.2.2]; exact decide_eq_true rfl) hne

end Ingested

/-! ## Runs -/

section Runs

variable [Python] [Packaging]

/-- The events that wait for a handler are of organizations in `only`. -/
def Hub.AwaitsOnly (only : String → Prop) (h : Hub) : Prop :=
  ∀ r ∈ h.outboxEvents.rows, r.deliveredAt = none → (handlerOf r.eventType).isSome = true →
    only r.organizationId

/-- So are those a worker holds. -/
def Member.HoldsOnly (only : String → Prop) (m : Member) : Prop :=
  ∀ e ∈ m.held, (handlerOf e.eventType).isSome = true → only e.organizationId

/-- Nothing has changed since `start` for an organization that is not in `only`. -/
structure Pipeline.Tenanted (only : String → Prop) (p start : Pipeline) : Prop where
  crew : p.crew.Tenanted only start.crew.db
  awaits : p.crew.db.AwaitsOnly only
  holds : Crew.Each (fun _ m => m.HoldsOnly only) p.crew.members
  snapshots : ∀ other, ¬ only other → p.store.snapshots.rows.filter (·.organizationId = other)
    = start.store.snapshots.rows.filter (·.organizationId = other)
  documents : ∀ other, ¬ only other → p.store.documents.rows.filter (·.organizationId = other)
    = start.store.documents.rows.filter (·.organizationId = other)

variable {only : String → Prop} {s s' : Crew} {start p p' : Pipeline}

/-! ### The workers -/

theorem Hub.AwaitsOnly.within {h h' : Hub} (hawaits : h.AwaitsOnly only) (hw : h.Within only h') :
    h'.AwaitsOnly only := by
  intro r' hr' hd' hhandler
  rcases hw.waiting r' hr' hd' with ⟨r, hr, hd, htype, hpayload⟩ | hcase
  · rw [← organizationId_congr hpayload]
    exact hawaits r hr hd (by rw [htype, hhandler])
  · rw [hcase] at hhandler
    simp [handlerOf] at hhandler

/-- The events a worker goes on holding, or claims. -/
theorem Crew.Stepped.holds {a : Act} (h : Crew.Stepped s a s') (hawaits : s.db.AwaitsOnly only)
    (hs : Crew.Each (fun _ m => m.HoldsOnly only) s.members) :
    Crew.Each (fun _ m => m.HoldsOnly only) s'.members := by
  cases h with
  | @claim i m member idle held =>
      refine hs.set member (fun e he => ?_) fun j n _ _ hn => hn
      obtain ⟨hmem, hclaimable, -⟩ := Crew.mem_claimed he
      refine hawaits e hmem ?_
      unfold claimable at hclaimable
      simpa using (Bool.and_eq_true_iff.1 hclaimable).1
  | @take i m event rest member idle held =>
      refine hs.set member (fun e he => hs i m member e ?_) fun j n _ _ hn => hn
      unfold Member.begin Member.complete at he
      split at he <;> exact he
  | @ended i m event rest out member busy held ret =>
      refine hs.set member (fun e he => hs i m member e ?_) fun j n _ _ hn => hn
      unfold Member.afterEnd Member.complete Member.fail Member.closed at he
      split at he
      · split at he <;> exact he
      · split at he
        · rw [held]
          exact List.mem_cons_of_mem _ he
        · cases he
      · cases he
  | @turn i m event rest t member busy held free next =>
      exact hs.set member (fun e he => hs i m member e he) fun j n _ _ hn => hn
  | @crash i m member =>
      exact hs.set member (fun e he => absurd he List.not_mem_nil) fun j n _ _ hn => hn

theorem Pipeline.Tenanted.work {a : Act} (hp : p.Tenanted only start)
    (hstep : p.crew.step a = some s') : Pipeline.Tenanted only { p with crew := s' } start := by
  have hstepped := Crew.stepped hstep
  have htakes : p.crew.TakesOnly only a := by
    cases a with
    | take i =>
        intro m hm event hevent
        exact hp.holds i m hm event (List.mem_of_mem_head? hevent)
    | claim i => trivial
    | run i => trivial
    | crash i => trivial
  exact
    { crew := hstepped.tenanted htakes hp.crew
      awaits := hp.awaits.within (hstepped.within hp.crew).1
      holds := hstepped.holds hp.awaits hp.holds
      snapshots := hp.snapshots
      documents := hp.documents }

/-! ### Ingestion -/

omit [Python] [Packaging] in
/-- Rows of one organization are none of another. -/
theorem filter_append_of {α β : Type} {org : α → String} {row : β → α} {old : List α} {w : List β}
    (hw : ∀ b ∈ w, only (org (row b))) {other : String} (hother : ¬ only other) :
    (old ++ w.map row).filter (org · = other) = old.filter (org · = other) := by
  rw [List.filter_append, List.append_right_eq_self, List.filter_eq_nil_iff]
  intro a ha
  obtain ⟨b, hb, rfl⟩ := List.mem_map.1 ha
  have hne : ¬ org (row b) = other := fun heq => hother (heq ▸ hw b hb)
  simpa using hne

/-- What has been ingested is of organizations in `only`. -/
theorem Pipeline.Tenanted.ingested (hp : p.Tenanted only start) {t : Sbom.SbomStore}
    {w : List EvidenceRows} (hw : Written p.current.toEvidenceStore w t.toEvidenceStore)
    (hof : ∀ rows ∈ w, ∃ o, only o ∧ rows.Of o)
    (hdocuments : ∀ other, ¬ only other → t.documents.rows.filter (·.organizationId = other)
      = p.store.documents.rows.filter (·.organizationId = other)) :
    (p.ingested t).Tenanted only start := by
  have houtbox : t.outboxEvents.rows
      = p.crew.db.outboxEvents.rows ++ w.map EvidenceRows.outbox := hw.outboxEvents
  have haudits : t.auditEvents.rows
      = p.crew.db.auditEvents.rows ++ w.map EvidenceRows.audit := hw.auditEvents
  have hsnapshots : t.snapshots.rows
      = p.store.snapshots.rows ++ w.map EvidenceRows.snapshot := hw.snapshots
  have hkept : p.crew.db.Kept (p.ingested t).crew.db := by
    refine ⟨⟨fun _ _ hseen => hseen, fun r hr => ⟨r, ?_, rfl, rfl, rfl⟩⟩, fun _ _ hid => hid,
      fun _ _ hid => hid⟩
    show r ∈ t.outboxEvents.rows
    rw [houtbox]
    exact List.mem_append_left _ hr
  have hapart : p.crew.db.Apart only (p.ingested t).crew.db := by
    refine ⟨hkept, fun other hother => TenantRows.ext rfl rfl rfl rfl rfl rfl rfl ?_⟩
    show t.auditEvents.rows.filter (·.organizationId = other) = _
    rw [haudits]
    refine filter_append_of (fun rows hrows => ?_) hother
    obtain ⟨o, ho, hrows⟩ := hof rows hrows
    exact hrows.audit ▸ ho
  refine ⟨⟨fun i m hm => (hp.crew.members i m hm).kept hkept, hp.crew.apart.trans hapart,
    fun id o hid => (hp.crew.backed id o hid).imp_right fun h => h.kept hkept⟩,
    fun r hr hd hhandler => ?_, hp.holds, fun other hother => ?_, fun other hother => ?_⟩
  · have hmem : r ∈ t.outboxEvents.rows := hr
    rw [houtbox] at hmem
    rcases List.mem_append.1 hmem with hold | hnew
    · exact hp.awaits r hold hd hhandler
    · obtain ⟨rows, hrows, rfl⟩ := List.mem_map.1 hnew
      obtain ⟨o, ho, hrows⟩ := hof rows hrows
      exact hrows.outbox ▸ ho
  · refine Eq.trans ?_ (hp.snapshots other hother)
    show t.snapshots.rows.filter (·.organizationId = other) = _
    rw [hsnapshots]
    refine filter_append_of (fun rows hrows => ?_) hother
    obtain ⟨o, ho, hrows⟩ := hof rows hrows
    exact hrows.snapshot ▸ ho
  · exact (hdocuments other hother).trans (hp.documents other hother)

variable [PythonDigits] [Driver] [Sha256]

/-- **The step lemma.** -/
theorem Pipeline.Tenanted.step {a : PipelineAct} (hp : p.Tenanted only start)
    (ha : a.IngestsFor only) (hstep : p.step a = some p') : p'.Tenanted only start := by
  cases a with
  | deliver b env raw organizationId =>
      cases hstep
      obtain ⟨w, hw, hof⟩ := b.deliver_of env raw organizationId p.current.toEvidenceStore
      exact hp.ingested hw (fun rows hrows => ⟨organizationId, ha, hof rows hrows⟩) fun _ _ => rfl
  | submit settings c =>
      cases hstep
      obtain ⟨w, hw, hof⟩ := Sbom.ingest_of settings c p.current
      refine hp.ingested hw.evidence (fun rows hrows => ?_) fun other hother => ?_
      · obtain ⟨row, hrow, rfl⟩ := List.mem_map.1 hrows
        exact ⟨_, ha, (hof row hrow).1⟩
      · rw [hw.documents]
        exact filter_append_of (fun row hrow => (hof row hrow).2 ▸ ha) hother
  | work a =>
      obtain ⟨s', hs', rfl⟩ := Option.map_eq_some_iff.1 hstep
      exact hp.work hs'

/-- **Ingestion stays apart**: bills of materials and evidence are ingested for organizations in `only`
    alone, whatever the raw documents say, while any number of workers handle the outbox, in which
    all that waits is of such organizations. Then in every interleaving the exposures, evidence,
    cases, links, clocks, decisions, verifications, audit rows, snapshots and documents of every other
    organization stay as they are. -/
theorem ingestion_apart (only : String → Prop) (store : Sbom.SbomStore)
    (workers : List Orchestrator) (db : Hub) (hawaits : db.AwaitsOnly only)
    (hrun : Pipeline.Run (PipelineAct.IngestsFor only) ⟨store, .start workers db⟩ p)
    (other : String) (hother : ¬ only other) :
    p.crew.db.tenant other = db.tenant other ∧
      p.store.snapshots.rows.filter (·.organizationId = other)
        = store.snapshots.rows.filter (·.organizationId = other) ∧
      p.store.documents.rows.filter (·.organizationId = other)
        = store.documents.rows.filter (·.organizationId = other) := by
  have htenanted : p.Tenanted only ⟨store, .start workers db⟩ := by
    induction hrun with
    | start =>
        refine ⟨Crew.tenanted_start only workers db, hawaits, fun i m hm e he => ?_, fun _ _ => rfl,
          fun _ _ => rfl⟩
        obtain ⟨worker, -, rfl⟩ := List.mem_map.1 (List.mem_of_getElem? hm)
        cases he
    | step run a ok next ih => exact ih.step ok next
  exact ⟨htenanted.crew.apart.tenant other hother, htenanted.snapshots other hother,
    htenanted.documents other hother⟩

end Runs

/-! ### A finding is ingested and handled -/

/-- Only the second organization has anything. -/
def sampleForeignHub : Hub := { Hub.empty with exposures := sampleTenants.exposures }

/-- A finding comes in, and a worker handles its event. -/
def sampleIngestedHandled : List PipelineAct :=
  [.deliver .defectdojo (sampleEnv 1) (sampleFindingRaw "7") "acme", .work (.claim 0),
    .work (.take 0)] ++ List.replicate 10 (.work (.run 0))

theorem sampleForeignHub_awaits : @Hub.AwaitsOnly asciiPython dottedPackaging (· = "acme")
    sampleForeignHub := by
  intro r hr
  cases hr

theorem ingestion_apart_handled : ∃ p, @Pipeline.Run asciiPython asciiDigitTable dottedPackaging
    sqliteDriver findingDigests (PipelineAct.IngestsFor (· = "acme"))
    ⟨.empty, .start [sampleOrchestrator] sampleForeignHub⟩ p ∧
    p.crew.db.exposures.rows.map (·.organizationId) = ["org_2", "acme"] ∧
    p.crew.db.tenant "org_2" = sampleForeignHub.tenant "org_2" := by
  have hacts : ((@Pipeline.runActs asciiPython asciiDigitTable dottedPackaging sqliteDriver
      findingDigests (fun a => decide (PipelineAct.IngestsFor (· = "acme") a))
      ⟨.empty, .start [sampleOrchestrator] sampleForeignHub⟩ sampleIngestedHandled).any fun p =>
        p.crew.db.exposures.rows.map (·.organizationId) = ["org_2", "acme"]) = true := by
    decide +kernel
  obtain ⟨p, hp, hrows⟩ := (Option.any_eq_true _ _).1 hacts
  have hrun := @Pipeline.Run.of_acts asciiPython asciiDigitTable dottedPackaging sqliteDriver
    findingDigests (PipelineAct.IngestsFor (· = "acme")) _ _ _ _ _
    (@Pipeline.Run.start asciiPython asciiDigitTable dottedPackaging sqliteDriver findingDigests _ _) hp
  exact ⟨p, hrun, of_decide_eq_true hrows,
    (@ingestion_apart asciiPython dottedPackaging p asciiDigitTable sqliteDriver findingDigests _ _ _ _
      sampleForeignHub_awaits hrun "org_2" (by decide)).1⟩

end VulnOpsHub
