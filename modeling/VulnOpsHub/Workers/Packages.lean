import VulnOpsHub.Workers.Processing
import VulnOpsHub.Workers.Verdicts

set_option autoImplicit false

/-! # Exposures of different packages

The key of an exposure names the package only for the occurrences of a bill of materials. For an
agent or a DefectDojo finding it names the source and the vulnerability, so all packages of one
source share the exposure of a CVE. -/

namespace VulnOpsHub

/-! ## Packages -/

/-- A package as a piece of evidence names it. -/
structure EvidencePackage where
  name : String
  version : Option String
  purl : Option String
deriving DecidableEq, Repr

def ComponentOccurrence.package (occurrence : ComponentOccurrence) : EvidencePackage :=
  ⟨occurrence.rawName, occurrence.rawVersion, occurrence.purl⟩

def DojoFields.package (fields : DojoFields) : EvidencePackage :=
  ⟨fields.componentName, fields.componentVersion, fields.purl⟩

def WazuhFields.package (fields : WazuhFields) : EvidencePackage :=
  ⟨fields.componentName, fields.componentVersion, fields.purl⟩

/-- A finding that has been recorded, with the package it is about. -/
structure Observation where
  finding : Finding
  package : Option EvidencePackage
deriving DecidableEq

def Observation.key (x : Observation) : ExposureKey := x.finding.key

section Packages

variable [Python] [Packaging]

/-- The package of the payload of a scanner's event. -/
def payloadPackage (event : OutboxEvent) : Option EvidencePackage :=
  if event.eventType = "vulnops.evidence.defectdojo.ingested.v1" then
    match DojoFields.decode event.payload.orEmpty with
    | .ok (.inr fields) => some fields.package
    | _ => none
  else
    match WazuhFields.decode event.payload.orEmpty with
    | .ok (.inr fields) => some fields.package
    | _ => none

/-- A finding of an event, as it is handled over the rows `h`: the package is that of the occurrence,
    or of the payload. -/
def observation (event : OutboxEvent) (h : Hub) (f : Finding) : Observation where
  finding := f
  package :=
    match f.componentOccurrenceId with
    | some id => (h.occurrences.find? id).map ComponentOccurrence.package
    | none => payloadPackage event

/-! ## Recording -/

variable {o : Handling} {eventId : String} {i : ℕ} {fs : List Finding} {h h' : Hub}

omit [Packaging] in
/-- What recording some findings does to the exposures; other tables may change in between. -/
inductive Stores (o : Handling) (eventId : String) : ℕ → List Finding → Hub → Hub → Prop where
  | nil {i : ℕ} {h h' : Hub} (same : h'.exposures = h.exposures) : Stores o eventId i [] h h'
  | cons {i : ℕ} {f : Finding} {fs : List Finding} {h h₁ h₂ h' : Hub}
      (stored : f.Stored o eventId i h h₁) (same : h₂.exposures = h₁.exposures)
      (rest : Stores o eventId (i + 1) fs h₂ h') : Stores o eventId i (f :: fs) h h'

omit [Packaging] in
theorem Rounds.stores (hrounds : Rounds o eventId i fs h h') : Stores o eventId i fs h h' := by
  induction hrounds with
  | nil => exact .nil rfl
  | cons round rest ih =>
      obtain ⟨h₁, hstored, hexposures⟩ := round.stored_eq
      exact .cons hstored hexposures ih

omit [Packaging] in
/-- A handling that stops on the way has recorded the first of its findings. -/
theorem Passes.stores (hpasses : Passes o eventId i fs h h') :
    ∃ done, done <+: fs ∧ Stores o eventId i done h h' := by
  induction hpasses with
  | start => exact ⟨[], List.nil_prefix, .nil rfl⟩
  | stored hstored => exact ⟨[_], ⟨_, rfl⟩, .cons hstored rfl (.nil rfl)⟩
  | opened hstored _ _ hopened =>
      exact ⟨[_], ⟨_, rfl⟩, .cons hstored hopened.exposures_eq (.nil rfl)⟩
  | next round _ ih =>
      obtain ⟨done, hprefix, hstores⟩ := ih
      obtain ⟨h₁, hstored, hexposures⟩ := round.stored_eq
      exact ⟨_ :: done, List.cons_prefix_cons.2 ⟨rfl, hprefix⟩, .cons hstored hexposures hstores⟩

omit [Packaging] in
theorem Stores.exposures_congr {h'' : Hub} (hstores : Stores o eventId i fs h h')
    (hsame : h''.exposures = h'.exposures) : Stores o eventId i fs h h'' := by
  induction hstores with
  | nil same => exact .nil (hsame.trans same)
  | cons stored same _ ih => exact .cons stored same (ih hsame)

omit [Python] [Packaging] in
theorem Hub.exposureAt_congr (hsame : h'.exposures = h.exposures) (key : ExposureKey) :
    h'.exposureAt key = h.exposureAt key := by
  unfold Hub.exposureAt
  rw [hsame]

omit [Packaging] in
/-- Exposures under other keys stay as they are. -/
theorem Stores.exposureAt_of_ne (hstores : Stores o eventId i fs h h') {key : ExposureKey}
    (hne : ∀ f ∈ fs, f.key ≠ key) : h'.exposureAt key = h.exposureAt key := by
  induction hstores with
  | nil same => exact Hub.exposureAt_congr same key
  | cons stored same _ ih =>
      rw [ih fun g hg => hne g (List.mem_cons_of_mem _ hg), Hub.exposureAt_congr same,
        (UpsertArgs.effect_of_flush stored).exposureAt_of_ne (hne _ List.mem_cons_self).symm]

omit [Packaging] in
/-- The exposure under a key has the class of the last finding. -/
theorem Stores.exposureAt_last (hstores : Stores o eventId i fs h h') {key : ExposureKey}
    {f : Finding} (hlast : lastUnder key fs = some f) :
    ∃ e, h'.exposureAt key = some e ∧ e.matchClass = f.result.matchClass := by
  induction hstores with
  | nil => cases hlast
  | @cons i g fs h h₁ h₂ h' stored same rest ih =>
      cases hrest : lastUnder key fs with
      | some f' =>
          rw [lastUnder, hrest] at hlast
          obtain rfl := Option.some.inj hlast
          exact ih hrest
      | none =>
          rw [lastUnder, hrest, Option.none_or] at hlast
          split_ifs at hlast with hkey
          obtain rfl := Option.some.inj hlast
          subst hkey
          refine ⟨g.outcome o eventId i h, ?_, by simp⟩
          rw [rest.exposureAt_of_ne (lastUnder_eq_none.1 hrest), Hub.exposureAt_congr same]
          exact stored.exposureAt

/-! ## Runs -/

namespace Orchestrator

/-- The findings that the processing of an event has recorded: the first of those of its handler, and
    all of them if it is marked delivered. -/
structure Records (o : Orchestrator) (tick : ℕ) (event : OutboxEvent) (h : Hub)
    (done : List Finding) : Prop where
  stores : Stores (o.handling tick) event.id 0 done h (o.worker.processEvent tick event h).after
  found : done <+: (findingsOf (o.handling tick) event h).toOption.getD []
  all : (o.worker.processEvent tick event h).completed = true →
    findingsOf (o.handling tick) event h = .ok done

variable {o : Orchestrator} {tick : ℕ} {event : OutboxEvent} {start h h' : Hub}
  {log : List Observation}

omit [Python] [Packaging] in
theorem exposures_of_sameButOutbox (hsame : h.SameButOutbox h') : h'.exposures = h.exposures := by
  obtain ⟨t, rfl⟩ := hsame
  rfl

/-- Whatever the processing of an event does, it records some of its findings. -/
theorem exists_records (o : Orchestrator) (tick : ℕ) (event : OutboxEvent) (h : Hub) :
    ∃ done, o.Records tick event h done := by
  by_cases hcompleted : (o.worker.processEvent tick event h).completed = true
  · cases hhandler : handlerOf event.eventType with
    | none =>
        have hfs : findingsOf (o.handling tick) event h = .ok [] := by
          unfold handlerOf at hhandler
          unfold findingsOf
          split_ifs at hhandler with hsbom hdojo hwazuh
          rw [if_neg hsbom, if_neg hdojo, if_neg hwazuh]
        have hfresh : (o.worker.handle tick event h).2 = Session.fresh h := by
          rw [handle_of_none hhandler]
        have hsame := Worker.processEvent_frame hfresh
        exact ⟨[], .nil (exposures_of_sameButOutbox hsame), List.nil_prefix, fun _ => hfs⟩
    | some handler =>
        obtain ⟨fs, h₁, hfs, hrounds, hsame⟩ := rounds_of_completed hhandler hcompleted
        refine ⟨fs, hrounds.stores.exposures_congr (exposures_of_sameButOutbox hsame), ?_,
          fun _ => hfs⟩
        rw [hfs]
        exact List.prefix_rfl
  · obtain ⟨h₁, hleads, hsame⟩ := o.processEvent_leads tick event h
    have hexposures := exposures_of_sameButOutbox hsame
    rcases hleads with rfl | ⟨fs, hfs, hpasses⟩
    · exact ⟨[], .nil hexposures, List.nil_prefix, fun h => absurd h hcompleted⟩
    · obtain ⟨done, hprefix, hstores⟩ := hpasses.stores
      refine ⟨done, hstores.exposures_congr hexposures, ?_, fun h => absurd h hcompleted⟩
      rw [hfs]
      exact hprefix

/-- All that the handler of an event records. -/
def found (o : Orchestrator) (tick : ℕ) (event : OutboxEvent) (h : Hub) : List Finding :=
  (findingsOf (o.handling tick) event h).toOption.getD []

theorem records_found (hcompleted : (o.worker.processEvent tick event h).completed = true) :
    o.Records tick event h (o.found tick event h) := by
  obtain ⟨done, hrecords⟩ := o.exists_records tick event h
  have hfound : o.found tick event h = done := by
    unfold found
    rw [hrecords.all hcompleted]
    rfl
  rw [hfound]
  exact hrecords

/-- A run of the orchestrator with everything it has recorded, in order; in between, whatever leaves
    the exposures alone may happen. -/
inductive Observes (o : Orchestrator) (start : Hub) : List Observation → ℕ → Hub → Prop where
  | start : o.Observes start [] 0 start
  | processed {log : List Observation} {tick : ℕ} {h : Hub} {event : OutboxEvent}
      {done : List Finding} (run : o.Observes start log tick h)
      (records : o.Records tick event h done) :
      o.Observes start (log ++ done.map (observation event h)) (tick + 1)
        (o.worker.processEvent tick event h).after
  | between {log : List Observation} {tick : ℕ} {h h' : Hub} (run : o.Observes start log tick h)
      (same : h'.exposures = h.exposures) : o.Observes start log tick h'

/-- The exposure under a key has the class that was last recorded under it. -/
theorem Observes.exposureAt_last (hrun : o.Observes start log tick h) {key : ExposureKey}
    {f : Finding} (hlast : lastUnder key (log.map Observation.finding) = some f) :
    ∃ e, h.exposureAt key = some e ∧ e.matchClass = f.result.matchClass := by
  induction hrun with
  | start => cases hlast
  | @processed log tick h event done run records ih =>
      have hdone : (done.map (observation event h)).map Observation.finding = done := by
        rw [List.map_map]
        exact List.map_id done
      rw [List.map_append, hdone, lastUnder_append] at hlast
      cases hnew : lastUnder key done with
      | some f' =>
          rw [hnew, Option.some_or] at hlast
          exact records.stores.exposureAt_last (hnew.trans hlast)
      | none =>
          rw [hnew, Option.none_or] at hlast
          obtain ⟨e, he, hclass⟩ := ih hlast
          exact ⟨e, by rw [records.stores.exposureAt_of_ne (lastUnder_eq_none.1 hnew), he], hclass⟩
  | between run same ih =>
      obtain ⟨e, he, hclass⟩ := ih hlast
      exact ⟨e, by rw [Hub.exposureAt_congr same, he], hclass⟩

end Orchestrator

/-! ## Packages of a run -/

variable {P : Type} [DecidableEq P]

omit [Python] [Packaging] in
/-- Two observations of one combination of source, package and vulnerability; `ident` says when two
    packages are the same. -/
def SameCombination (ident : EvidencePackage → P) (x y : Observation) : Prop :=
  x.key = y.key ∧ x.package.map ident = y.package.map ident

instance (ident : EvidencePackage → P) (x y : Observation) :
    Decidable (SameCombination ident x y) :=
  inferInstanceAs (Decidable (_ ∧ _))

/-- The last observation of the combination of `x`. -/
def lastLike (ident : EvidencePackage → P) (x : Observation) (log : List Observation) :
    Option Observation :=
  (log.filter fun y => SameCombination ident y x).getLast?

/-- Every combination that has been observed has an exposure with the class of its last evidence. -/
def CombinationsKept (ident : EvidencePackage → P) (log : List Observation) (h : Hub) : Prop :=
  ∀ x ∈ log, ∃ e y, h.exposureAt x.key = some e ∧ lastLike ident x log = some y ∧
    e.matchClass = y.finding.result.matchClass

/-- No exposure of another combination changes. -/
def OthersUntouched (ident : EvidencePackage → P) (log new : List Observation) (h h' : Hub) : Prop :=
  ∀ x ∈ log, (∀ y ∈ new, ¬ SameCombination ident y x) → h'.exposureAt x.key = h.exposureAt x.key

/-- What has been observed under one key is about one package. -/
def OnePackageEach (ident : EvidencePackage → P) (log : List Observation) : Prop :=
  ∀ x ∈ log, ∀ y ∈ log, x.key = y.key → x.package.map ident = y.package.map ident

instance (ident : EvidencePackage → P) (log : List Observation) :
    Decidable (OnePackageEach ident log) :=
  inferInstanceAs (Decidable (∀ x ∈ log, ∀ y ∈ log, _ → _))

variable {ident : EvidencePackage → P} {log : List Observation}

omit [Python] [Packaging] in
/-- With one package for each key the last of a combination is the last under its key. -/
theorem OnePackageEach.lastLike_eq (hone : OnePackageEach ident log) {x : Observation}
    (hx : x ∈ log) : (lastLike ident x log).map Observation.finding
      = lastUnder x.key (log.map Observation.finding) := by
  have hfilter : log.filter (fun y => SameCombination ident y x)
      = log.filter ((fun f : Finding => decide (f.key = x.key)) ∘ Observation.finding) := by
    refine List.filter_congr fun y hy => ?_
    refine decide_eq_decide.2 ⟨fun hsame => hsame.1, fun hkey => ⟨hkey, hone y hy x hx hkey⟩⟩
  unfold lastLike
  rw [hfilter, lastUnder_eq_getLast?, List.filter_map, List.getLast?_map]

/-- **Exposures of different packages.** In a run in which what is recorded under one key is about one
    package, each combination of source, package and vulnerability keeps its exposure, with the class
    of its last evidence, and handling an event changes no exposure of a combination the event is not
    about. -/
theorem packages_separate (o : Orchestrator) (start : Hub) (ident : EvidencePackage → P)
    {tick : ℕ} {h : Hub} (hrun : o.Observes start log tick h) (hone : OnePackageEach ident log) :
    CombinationsKept ident log h ∧ ∀ event done, o.Records tick event h done →
      OnePackageEach ident (log ++ done.map (observation event h)) →
        OthersUntouched ident log (done.map (observation event h)) h
          (o.worker.processEvent tick event h).after := by
  refine ⟨fun x hx => ?_, fun event done hrecords hboth x hx hother => ?_⟩
  · have hlast := hone.lastLike_eq hx
    cases hlike : lastLike ident x log with
    | none =>
        rw [hlike] at hlast
        have hnone := lastUnder_eq_none.1 hlast.symm _ (List.mem_map_of_mem hx)
        exact absurd rfl hnone
    | some y =>
        rw [hlike] at hlast
        obtain ⟨e, he, hclass⟩ := hrun.exposureAt_last hlast.symm
        exact ⟨e, y, he, rfl, hclass⟩
  · refine hrecords.stores.exposureAt_of_ne fun f hf hkey => ?_
    have hnew := List.mem_map_of_mem (f := observation event h) hf
    exact hother _ hnew ⟨hkey, hboth _ (List.mem_append_right _ hnew) x
      (List.mem_append_left _ hx) hkey⟩

end Packages

/-! ## Two packages of one agent -/

/-- OSV knows which versions of two packages have the vulnerability. -/
def sampleVersions : Sources :=
  sampleSources [{ sampleAdvisory
    [{ sampleAffected "PyPI" "pkg:pypi/urllib3" with versions := ["1.26.18"] },
      { sampleAffected "PyPI" "pkg:pypi/requests" with versions := ["1.0"] }] with
    aliases := some ["CVE-2026-1234"] }]

def sampleVersioning : Orchestrator :=
  { sampleOrchestrator with sources := fun _ => sampleVersions }

/-- Wazuh reports it of a package whose version has it not. -/
def sampleSpared : OutboxEvent :=
  { sampleEvent "vulnops.evidence.wazuh.ingested.v1"
      [("agent_id", .str "3"), ("cve", .str "CVE-2026-1234"),
        ("package", .obj [("purl", .str "pkg:pypi/requests"), ("name", .str "requests"),
          ("version", .str "2.0")])] with
    id := "evt_2" }

/-- It has reported it of another package of the agent, too. -/
def samplePair : Hub :=
  { Hub.empty with outboxEvents := ⟨[sampleWazuhEvent, sampleSpared], by decide⟩ }

def sampleFirst : Hub :=
  ((@Orchestrator.worker asciiPython dottedPackaging sampleVersioning).processEvent 0
    sampleWazuhEvent samplePair).after

/-- What the two handlings record. -/
def sampleReports : List Finding × List Finding :=
  (@Orchestrator.found asciiPython dottedPackaging sampleVersioning 0 sampleWazuhEvent samplePair,
    @Orchestrator.found asciiPython dottedPackaging sampleVersioning 1 sampleSpared sampleFirst)

def sampleSecond : Hub :=
  ((@Orchestrator.worker asciiPython dottedPackaging sampleVersioning).processEvent 1
    sampleSpared sampleFirst).after

theorem sampleFirst_observed : @Orchestrator.Observes asciiPython dottedPackaging sampleVersioning
    samplePair ([] ++ sampleReports.1.map (@observation asciiPython sampleWazuhEvent samplePair)) 1
    sampleFirst :=
  @Orchestrator.Observes.processed asciiPython dottedPackaging _ _ _ _ _ _ _
    (@Orchestrator.Observes.start asciiPython dottedPackaging _ _)
    (@Orchestrator.records_found asciiPython dottedPackaging _ _ _ _ (by decide +kernel))

/-- The second report says of the exposure of the first that it is not affected. -/
theorem packages_collide : ¬ ∀ (_ : Python) (_ : Packaging) (o : Orchestrator) (start : Hub)
    (log : List Observation) (tick : ℕ) (h : Hub), o.Observes start log tick h →
      CombinationsKept id log h := by
  intro h
  have hrun := @Orchestrator.Observes.processed asciiPython dottedPackaging _ _ _ _ _ _ _
    sampleFirst_observed (@Orchestrator.records_found asciiPython dottedPackaging _ _ sampleSpared _
      (by decide +kernel))
  have hoverwritten : ∃ x ∈ ([] ++ sampleReports.1.map
      (@observation asciiPython sampleWazuhEvent samplePair)) ++ sampleReports.2.map
        (@observation asciiPython sampleSpared sampleFirst),
      (sampleSecond.exposureAt x.key).map Exposure.matchClass = some .notAffected ∧
      (lastLike id x (([] ++ sampleReports.1.map
        (@observation asciiPython sampleWazuhEvent samplePair)) ++ sampleReports.2.map
          (@observation asciiPython sampleSpared sampleFirst))).map
        (fun y => y.finding.result.matchClass) = some .deterministic := by decide +kernel
  obtain ⟨x, hx, hstored, hobserved⟩ := hoverwritten
  obtain ⟨e, y, he, hy, hclass⟩ := h asciiPython dottedPackaging _ _ _ _ _ hrun x hx
  have hspared : e.matchClass = .notAffected :=
    Option.some.inj ((congrArg (Option.map Exposure.matchClass) he).symm.trans hstored)
  have hconfirmed : y.finding.result.matchClass = .deterministic :=
    Option.some.inj ((congrArg (Option.map fun y : Observation => y.finding.result.matchClass)
      hy).symm.trans hobserved)
  rw [hspared, hconfirmed] at hclass
  cases hclass

/-- Wazuh reports it of the package of another agent. -/
def sampleElsewhere : OutboxEvent :=
  { sampleSpared with
    payload := .obj [("agent_id", .str "4"), ("cve", .str "CVE-2026-1234"),
      ("package", .obj [("purl", .str "pkg:pypi/requests"), ("name", .str "requests"),
        ("version", .str "2.0")])] }

def sampleAgents : Hub :=
  { Hub.empty with outboxEvents := ⟨[sampleWazuhEvent, sampleElsewhere], by decide⟩ }

/-- What is reported of two packages of two agents is kept apart. -/
theorem packages_separate_agents : ∃ log h, log.length = 2 ∧
    @Orchestrator.Observes asciiPython dottedPackaging sampleVersioning sampleAgents log 2 h ∧
    CombinationsKept id log h := by
  let _ := asciiPython
  let _ := dottedPackaging
  have hfirst := @Orchestrator.Observes.processed asciiPython dottedPackaging _ _ _ _ _ _ _
    (@Orchestrator.Observes.start asciiPython dottedPackaging sampleVersioning sampleAgents)
    (@Orchestrator.records_found asciiPython dottedPackaging _ _ sampleWazuhEvent _
      (by decide +kernel))
  have hrun := @Orchestrator.Observes.processed asciiPython dottedPackaging _ _ _ _ _ _ _ hfirst
    (@Orchestrator.records_found asciiPython dottedPackaging _ _ sampleElsewhere _
      (by decide +kernel))
  exact ⟨_, _, by decide +kernel, hrun,
    (packages_separate sampleVersioning sampleAgents id hrun (by decide +kernel)).1⟩

end VulnOpsHub
