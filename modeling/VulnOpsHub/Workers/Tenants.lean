import VulnOpsHub.Workers.Crew

set_option autoImplicit false

/-! # Organizations in the rows of the workers

The rows that belong to an organization (`Hub.tenant`), and the proof that a round whose finding is for
one organization commits nothing that changes those of another, whatever other workers write in
between (`recordFinding_works`). An exposure that it adds has evidence by then. -/

namespace VulnOpsHub

/-! ## The rows of an organization -/

/-- The organization of the exposure with an id. -/
def Hub.exposureOrg (h : Hub) (id : String) : Option String :=
  (h.exposure? id).map (·.organizationId)

/-- The organization of the case with an id. -/
def Hub.caseOrg (h : Hub) (id : String) : Option String := (h.case? id).map (·.organizationId)

/-- The rows that belong to one organization. -/
@[ext]
structure TenantRows where
  exposures : List Exposure
  evidence : List MatchEvidence
  cases : List RemediationCase
  links : List CaseExposure
  clocks : List SlaClock
  decisions : List RiskDecision
  verifications : List Verification
  auditEvents : List AuditEvent

/-- Evidence belongs to the organization of its exposure, and what hangs on a case to that of the
    case. -/
def Hub.tenant (h : Hub) (organizationId : String) : TenantRows where
  exposures := h.exposures.rows.filter (·.organizationId = organizationId)
  evidence := h.evidence.rows.filter fun m => h.exposureOrg m.exposureId = some organizationId
  cases := h.cases.rows.filter (·.organizationId = organizationId)
  links := h.links.rows.filter fun l => h.caseOrg l.caseId = some organizationId
  clocks := h.clocks.rows.filter fun c => h.caseOrg c.caseId = some organizationId
  decisions := h.decisions.rows.filter fun d => h.caseOrg d.caseId = some organizationId
  verifications := h.verifications.rows.filter fun v => h.caseOrg v.caseId = some organizationId
  auditEvents := h.auditEvents.rows.filter (·.organizationId = organizationId)

/-- Evidence and events stay. -/
structure Hub.Grows (h h' : Hub) : Prop where
  seen : ∀ id ref, h.seen id ref = true → h'.seen id ref = true
  events : ∀ r ∈ h.outboxEvents.rows, ∃ r' ∈ h'.outboxEvents.rows,
    r'.id = r.id ∧ r'.eventType = r.eventType ∧ r'.payload = r.payload

/-- Exposures and cases stay with their organizations. -/
structure Hub.Kept (h h' : Hub) : Prop extends h.Grows h' where
  exposures : ∀ id organizationId, h.exposureOrg id = some organizationId →
    h'.exposureOrg id = some organizationId
  cases : ∀ id organizationId, h.caseOrg id = some organizationId →
    h'.caseOrg id = some organizationId

/-- No event waits that did not wait before, but for those about cases. -/
def Hub.NoneAwaited (h h' : Hub) : Prop :=
  ∀ r' ∈ h'.outboxEvents.rows, r'.deliveredAt = none →
    (∃ r ∈ h.outboxEvents.rows, r.deliveredAt = none ∧ r.eventType = r'.eventType ∧
      r.payload = r'.payload) ∨ r'.eventType = "vulnops.case.created.v1"

/-- Only rows of organizations in `only` may have changed. -/
structure Hub.Apart (only : String → Prop) (h h' : Hub) : Prop extends h.Kept h' where
  tenant : ∀ other, ¬ only other → h'.tenant other = h.tenant other

/-- The same, where no event has been added but for those about cases. -/
structure Hub.Within (only : String → Prop) (h h' : Hub) : Prop extends h.Apart only h' where
  waiting : h.NoneAwaited h'

theorem Hub.Grows.refl (h : Hub) : h.Grows h :=
  ⟨fun _ _ hseen => hseen, fun r hr => ⟨r, hr, rfl, rfl, rfl⟩⟩

theorem Hub.Grows.trans {h h₁ h' : Hub} (h₁₂ : h.Grows h₁) (h₂₃ : h₁.Grows h') : h.Grows h' := by
  refine ⟨fun id ref hseen => h₂₃.seen id ref (h₁₂.seen id ref hseen), fun r hr => ?_⟩
  obtain ⟨r₁, hr₁, hid₁, htype₁, hpayload₁⟩ := h₁₂.events r hr
  obtain ⟨r', hr', hid', htype', hpayload'⟩ := h₂₃.events r₁ hr₁
  exact ⟨r', hr', hid'.trans hid₁, htype'.trans htype₁, hpayload'.trans hpayload₁⟩

theorem Hub.Kept.refl (h : Hub) : h.Kept h := ⟨.refl h, fun _ _ hid => hid, fun _ _ hid => hid⟩

theorem Hub.Kept.trans {h h₁ h' : Hub} (h₁₂ : h.Kept h₁) (h₂₃ : h₁.Kept h') : h.Kept h' :=
  ⟨h₁₂.toGrows.trans h₂₃.toGrows,
    fun id o hid => h₂₃.exposures id o (h₁₂.exposures id o hid),
    fun id o hid => h₂₃.cases id o (h₁₂.cases id o hid)⟩

theorem Hub.Apart.refl (only : String → Prop) (h : Hub) : h.Apart only h := ⟨.refl h, fun _ _ => rfl⟩

theorem Hub.Apart.trans {only : String → Prop} {h h₁ h' : Hub} (h₁₂ : h.Apart only h₁)
    (h₂₃ : h₁.Apart only h') : h.Apart only h' :=
  ⟨h₁₂.toKept.trans h₂₃.toKept,
    fun other hother => (h₂₃.tenant other hother).trans (h₁₂.tenant other hother)⟩

theorem Hub.NoneAwaited.refl (h : Hub) : h.NoneAwaited h :=
  fun r hr hd => .inl ⟨r, hr, hd, rfl, rfl⟩

theorem Hub.Within.refl (only : String → Prop) (h : Hub) : h.Within only h := ⟨.refl only h, .refl h⟩

theorem Hub.Within.trans {only : String → Prop} {h h₁ h' : Hub} (h₁₂ : h.Within only h₁)
    (h₂₃ : h₁.Within only h') : h.Within only h' := by
  refine ⟨h₁₂.toApart.trans h₂₃.toApart, fun r' hr' hd' => ?_⟩
  rcases h₂₃.waiting r' hr' hd' with ⟨r₁, hr₁, hd₁, htype₁, hpayload₁⟩ | hcase
  · rw [← htype₁, ← hpayload₁]
    exact h₁₂.waiting r₁ hr₁ hd₁
  · exact .inr hcase

theorem Hub.Within.mono {only only' : String → Prop} {h h' : Hub} (hw : h.Within only h')
    (honly : ∀ o, only o → only' o) : h.Within only' h' :=
  ⟨⟨hw.toKept, fun other hother => hw.tenant other fun ho => hother (honly other ho)⟩, hw.waiting⟩

/-! ## Tables -/

section Tables

variable {ρ : Type} [Keyed ρ String] {org : ρ → String} {mine other : String}

/-- The organization of the row under a key. -/
def orgAt (t : Table ρ) (org : ρ → String) (id : String) : Option String := (t.find? id).map org

/-- A table in which rows of one organization have been added or changed. -/
structure OrgWithin (org : ρ → String) (mine : String) (t t' : Table ρ) : Prop where
  kept : ∀ id o, orgAt t org id = some o → orgAt t' org id = some o
  others : ∀ id o, o ≠ mine → orgAt t' org id = some o → orgAt t org id = some o
  rows : ∀ o, o ≠ mine → t'.rows.filter (org · = o) = t.rows.filter (org · = o)

theorem orgWithin_insert {t t' : Table ρ} {r : ρ} (h : t.insert r = some t') (hr : org r = mine) :
    OrgWithin org mine t t' := by
  have hfind := Table.find?_insert h
  have hfresh := Table.find?_of_insert h
  refine ⟨fun id o hid => ?_, fun id o ho hid => ?_, fun o ho => ?_⟩
  · unfold orgAt at hid ⊢
    rw [hfind]
    split_ifs with hkey
    · rw [← hkey, hfresh] at hid
      cases hid
    · exact hid
  · unfold orgAt at hid ⊢
    rw [hfind] at hid
    split_ifs at hid with hkey
    · exact absurd ((Option.some.inj hid).symm.trans hr) ho
    · exact hid
  · have hne : ¬ org r = o := fun heq => ho (heq.symm.trans hr)
    rw [Table.rows_insert h]
    simp [hne]

/-- An update that leaves a row with its organization. -/
theorem orgAt_update (org : ρ → String) (t : Table ρ) (id : String) {p : RowPatch ρ}
    (hp : ∀ r, org (p.apply r) = org r) (id' : String) :
    orgAt (t.update id p) org id' = orgAt t org id' := by
  unfold orgAt
  rw [Table.find?_update]
  split_ifs
  · cases t.find? id' <;> simp [hp]
  · rfl

theorem orgWithin_update {t : Table ρ} {id : String} {p : RowPatch ρ}
    (hp : ∀ r, org (p.apply r) = org r) (hid : orgAt t org id = some mine) :
    OrgWithin org mine t (t.update id p) := by
  have hsame := orgAt_update org t id hp
  refine ⟨fun id' o h => (hsame id').trans h, fun id' o _ h => (hsame id').symm.trans h,
    fun o ho => ?_⟩
  -- the row that changes is not among them
  have hrow : ∀ r ∈ t.rows, Keyed.key r = id → ¬ org r = o := by
    intro r hr hkey heq
    unfold orgAt at hid
    rw [← hkey, Table.find?_key_of_mem hr] at hid
    exact ho (heq.symm.trans (Option.some.inj hid))
  have hcongr : ∀ rows ⊆ t.rows, (rows.map fun r => if Keyed.key r = id then p.apply r else r).filter
      (org · = o) = rows.filter (org · = o) := by
    intro rows hsub
    induction rows with
    | nil => rfl
    | cons r rows ih =>
        have ih := ih fun r' hr' => hsub (List.mem_cons_of_mem _ hr')
        rw [List.map_cons]
        by_cases hkey : Keyed.key r = id
        · have hne := hrow r (hsub List.mem_cons_self) hkey
          rw [if_pos hkey, List.filter_cons_of_neg (by simpa [hp] using hne),
            List.filter_cons_of_neg (by simpa using hne), ih]
        · rw [if_neg hkey]
          by_cases ho : org r = o
          · rw [List.filter_cons_of_pos (by simpa using ho),
              List.filter_cons_of_pos (by simpa using ho), ih]
          · rw [List.filter_cons_of_neg (by simpa using ho),
              List.filter_cons_of_neg (by simpa using ho), ih]
  exact hcongr t.rows (List.Subset.refl _)

/-- Rows that hang on those of a table belong where they belonged. -/
theorem OrgWithin.filter_eq {β : Type} {t t' : Table ρ} (h : OrgWithin org mine t t') {o : String}
    (ho : o ≠ mine) (ref : β → String) (xs : List β) :
    xs.filter (fun x => orgAt t' org (ref x) = some o)
      = xs.filter fun x => orgAt t org (ref x) = some o :=
  List.filter_congr fun x _ => by
    rw [decide_eq_decide]
    exact ⟨h.others _ _ ho, h.kept _ _⟩

end Tables

/-! ## Statements -/

section Statements

variable {mine : String} {h h' : Hub}

theorem within_exposures {t : Table Exposure}
    (ht : OrgWithin Exposure.organizationId mine h.exposures t)
    (hgrows : h.Grows { h with exposures := t })
    (hwaiting : h.NoneAwaited { h with exposures := t }) :
    h.Within (· = mine) { h with exposures := t } where
  toGrows := hgrows
  exposures := ht.kept
  cases := fun _ _ hid => hid
  tenant := fun other hother =>
    TenantRows.ext (ht.rows other hother)
      (ht.filter_eq hother MatchEvidence.exposureId h.evidence.rows) rfl rfl rfl rfl rfl rfl
  waiting := hwaiting

theorem within_cases {t : Table RemediationCase}
    (ht : OrgWithin RemediationCase.organizationId mine h.cases t)
    (hgrows : h.Grows { h with cases := t }) (hwaiting : h.NoneAwaited { h with cases := t }) :
    h.Within (· = mine) { h with cases := t } where
  toGrows := hgrows
  exposures := fun _ _ hid => hid
  cases := ht.kept
  tenant := fun other hother =>
    TenantRows.ext rfl rfl (ht.rows other hother)
      (ht.filter_eq hother CaseExposure.caseId h.links.rows)
      (ht.filter_eq hother SlaClock.caseId h.clocks.rows)
      (ht.filter_eq hother RiskDecision.caseId h.decisions.rows)
      (ht.filter_eq hother Verification.caseId h.verifications.rows) rfl
  waiting := hwaiting

/-- A statement for the organization `mine`. -/
def HubWrite.For (mine : String) (h : Hub) : HubWrite → Prop
  | .core (.insertCase c) => c.organizationId = mine
  | .core (.insertClock c) => h.caseOrg c.caseId = some mine
  | .core (.insertAudit a) => a.organizationId = mine
  | .core (.insertOutbox o) => o.eventType = "vulnops.case.created.v1"
  | .core (.updateCase id _) => h.caseOrg id = some mine
  | .core _ => False
  | .insertExposure e => e.organizationId = mine
  | .updateExposure id _ => h.exposureOrg id = some mine
  | .insertEvidence m => h.exposureOrg m.exposureId = some mine
  | .insertLink l => h.caseOrg l.caseId = some mine
  | .updateOutbox _ p => p.deliveredAt ≠ some none

/-- A row that is not looked for. -/
theorem filter_insert {ρ : Type} [Keyed ρ String] {P : ρ → Prop} [DecidablePred P] {t t' : Table ρ}
    {r : ρ} (h : t.insert r = some t') (hr : ¬ P r) :
    t'.rows.filter (fun a => P a) = t.rows.filter fun a => P a := by
  rw [Table.rows_insert h]
  simp [hr]

/-- Whatever a statement is, evidence and events stay. -/
theorem HubWrite.grows {w : HubWrite} (happly : w.apply h = some h') : h.Grows h' := by
  have hevents : ∀ r ∈ h.outboxEvents.rows, ∃ r' ∈ h'.outboxEvents.rows,
      r'.id = r.id ∧ r'.eventType = r.eventType ∧ r'.payload = r.payload := by
    intro r hr
    rw [HubWrite.apply_outbox happly]
    cases w with
    | core w => exact ⟨r, List.mem_append_left _ hr, rfl, rfl, rfl⟩
    | updateOutbox id p =>
        refine ⟨_, List.mem_map_of_mem hr, ?_⟩
        split <;> exact ⟨rfl, rfl, rfl⟩
    | _ => exact ⟨r, hr, rfl, rfl, rfl⟩
  cases w with
  | insertEvidence m =>
      obtain ⟨t, ht, rfl⟩ := Option.map_eq_some_iff.1 happly
      refine ⟨fun id ref hseen => ?_, hevents⟩
      unfold Hub.seen at hseen ⊢
      rw [Table.rows_insert ht, List.any_append, hseen, Bool.true_or]
  | updateExposure id p =>
      cases happly
      exact ⟨fun _ _ hseen => hseen, hevents⟩
  | updateOutbox id p =>
      cases happly
      exact ⟨fun _ _ hseen => hseen, hevents⟩
  | _ =>
      obtain ⟨t, -, rfl⟩ := Option.map_eq_some_iff.1 happly
      exact ⟨fun _ _ hseen => hseen, hevents⟩

theorem HubWrite.For.waiting {w : HubWrite} (hw : w.For mine h) (happly : w.apply h = some h') :
    h.NoneAwaited h' := by
  intro r' hr' hd'
  rw [HubWrite.apply_outbox happly] at hr'
  cases w with
  | core w =>
      rcases List.mem_append.1 hr' with hr' | hnew
      · exact .inl ⟨r', hr', hd', rfl, rfl⟩
      · cases w with
        | insertOutbox o =>
            obtain rfl : r' = o := by simpa [Write.outbox?] using hnew
            exact .inr hw
        | _ => cases hnew
  | updateOutbox id p =>
      obtain ⟨r, hr, rfl⟩ := List.mem_map.1 hr'
      refine .inl ⟨r, hr, ?_⟩
      split_ifs at hd' ⊢ with hid
      · refine ⟨?_, rfl, rfl⟩
        have hpatched : p.deliveredAt.getD r.deliveredAt = none := hd'
        cases hdelivered : p.deliveredAt with
        | none => rwa [hdelivered] at hpatched
        | some at? =>
            rw [hdelivered] at hpatched
            exact absurd (hdelivered.trans (congrArg some hpatched)) hw
      · exact ⟨hd', rfl, rfl⟩
  | _ => exact .inl ⟨r', hr', hd', rfl, rfl⟩

/-- **A statement for an organization** leaves the rows of the others as they are. -/
theorem HubWrite.For.within {w : HubWrite} (hw : w.For mine h) (happly : w.apply h = some h') :
    h.Within (· = mine) h' := by
  have hne : ∀ {x : Option String} {o : String}, x = some mine → o ≠ mine → ¬ x = some o := by
    intro x o hx ho heq
    exact ho (Option.some.inj (heq.symm.trans hx))
  have hgrows := HubWrite.grows happly
  have hwaiting := hw.waiting happly
  cases w with
  | core w =>
      obtain ⟨db, hdb, rfl⟩ := Option.map_eq_some_iff.1 happly
      cases w with
      | insertCase c =>
          simp only [Write.apply] at hdb
          split_ifs at hdb
          obtain ⟨t, ht, rfl⟩ := Option.map_eq_some_iff.1 hdb
          exact within_cases (orgWithin_insert ht hw) hgrows hwaiting
      | insertClock c =>
          obtain ⟨t, ht, rfl⟩ := Option.map_eq_some_iff.1 hdb
          refine ⟨⟨⟨hgrows, fun _ _ hid => hid, fun _ _ hid => hid⟩, fun other hother => ?_⟩, hwaiting⟩
          have hclock : h.caseOrg c.caseId = some mine := hw
          have hclocks := filter_insert (P := fun c => h.caseOrg c.caseId = some other) ht
            (hne hclock hother)
          exact TenantRows.ext rfl rfl rfl rfl hclocks rfl rfl rfl
      | insertAudit a =>
          obtain ⟨t, ht, rfl⟩ := Option.map_eq_some_iff.1 hdb
          refine ⟨⟨⟨hgrows, fun _ _ hid => hid, fun _ _ hid => hid⟩, fun other hother => ?_⟩, hwaiting⟩
          have haudit : a.organizationId = mine := hw
          have haudits := filter_insert (P := fun a => a.organizationId = other) ht
            fun heq => hother (heq.symm.trans haudit)
          exact TenantRows.ext rfl rfl rfl rfl rfl rfl rfl haudits
      | insertOutbox o =>
          obtain ⟨t, ht, rfl⟩ := Option.map_eq_some_iff.1 hdb
          exact ⟨⟨⟨hgrows, fun _ _ hid => hid, fun _ _ hid => hid⟩, fun other hother => rfl⟩, hwaiting⟩
      | updateCase id p =>
          cases hdb
          exact within_cases (orgWithin_update (fun _ => rfl) hw) hgrows hwaiting
      | insertDecision d => exact hw.elim
      | insertVerification v => exact hw.elim
      | updateDecision id p => exact hw.elim
  | insertExposure e =>
      obtain ⟨t, ht, rfl⟩ := Option.map_eq_some_iff.1 happly
      exact within_exposures (orgWithin_insert ht hw) hgrows hwaiting
  | updateExposure id p =>
      cases happly
      exact within_exposures (orgWithin_update (fun _ => rfl) hw) hgrows hwaiting
  | insertEvidence m =>
      obtain ⟨t, ht, rfl⟩ := Option.map_eq_some_iff.1 happly
      refine ⟨⟨⟨hgrows, fun _ _ hid => hid, fun _ _ hid => hid⟩, fun other hother => ?_⟩, hwaiting⟩
      have hexposure : h.exposureOrg m.exposureId = some mine := hw
      have hevidence := filter_insert (P := fun m => h.exposureOrg m.exposureId = some other) ht
        (hne hexposure hother)
      exact TenantRows.ext rfl hevidence rfl rfl rfl rfl rfl rfl
  | insertLink l =>
      obtain ⟨t, ht, rfl⟩ := Option.map_eq_some_iff.1 happly
      refine ⟨⟨⟨hgrows, fun _ _ hid => hid, fun _ _ hid => hid⟩, fun other hother => ?_⟩, hwaiting⟩
      have hcase : h.caseOrg l.caseId = some mine := hw
      have hlinks := filter_insert (P := fun l => h.caseOrg l.caseId = some other) ht
        (hne hcase hother)
      exact TenantRows.ext rfl rfl rfl hlinks rfl rfl rfl rfl
  | updateOutbox id p =>
      cases happly
      exact ⟨⟨⟨hgrows, fun _ _ hid => hid, fun _ _ hid => hid⟩, fun other hother => rfl⟩, hwaiting⟩

/-- What was a statement for the organization still is. -/
theorem HubWrite.For.kept {w : HubWrite} (hw : w.For mine h) (hkept : h.Kept h') :
    w.For mine h' := by
  cases w with
  | core w =>
      cases w with
      | insertClock c => exact hkept.cases _ _ hw
      | updateCase id p => exact hkept.cases _ _ hw
      | _ => exact hw
  | updateExposure id p => exact hkept.exposures _ _ hw
  | insertEvidence m => exact hkept.exposures _ _ hw
  | insertLink l => exact hkept.cases _ _ hw
  | _ => exact hw

/-- Statements for the organization, one after the other. -/
def WritesFor (mine : String) : List HubWrite → Hub → Prop
  | [], _ => True
  | w :: ws, h => w.For mine h ∧ ∀ h', w.apply h = some h' → WritesFor mine ws h'

theorem writesFor_of_forall {ws : List HubWrite} (hws : ∀ w ∈ ws, w.For mine h) :
    WritesFor mine ws h := by
  induction ws generalizing h with
  | nil => trivial
  | cons w ws ih =>
      have hw := hws w List.mem_cons_self
      refine ⟨hw, fun h₁ happly => ih fun v hv => ?_⟩
      exact (hws v (List.mem_cons_of_mem _ hv)).kept (hw.within happly).toKept

/-- **A transaction for an organization** leaves the rows of the others as they are. -/
theorem WritesFor.within {ws : List HubWrite} (hws : WritesFor mine ws h)
    (hflush : Store.flush ws h = some h') : h.Within (· = mine) h' := by
  induction ws generalizing h with
  | nil =>
      cases hflush
      exact .refl _ _
  | cons w ws ih =>
      obtain ⟨h₁, hw, hrest⟩ := Store.flush_cons hflush
      exact (hws.1.within hw).trans (ih (hws.2 h₁ hw) hrest)

end Statements

/-! ## Rounds -/

/-- What a worker commits: rows of organizations in `only`, and an exposure only with evidence of an
    event in `refs`, if that has an id. -/
structure Hub.Works (only refs : String → Prop) (h h' : Hub) : Prop extends h.Within only h' where
  backed : ∀ id o, h'.exposureOrg id = some o → h.exposureOrg id = some o ∨
    only o ∧ ∃ ref, refs ref ∧ (ref ≠ "" → h'.seen id ref = true)

section Rounds

variable {mine ref : String} {h h' : Hub} {env : CallEnv}

/-- No exposure is added. -/
theorem Hub.Within.works {only refs : String → Prop} (hw : h.Within only h')
    (hexposures : h'.exposures = h.exposures) : h.Works only refs h' where
  toWithin := hw
  backed := fun id o hid => by
    unfold Hub.exposureOrg Hub.exposure? at hid ⊢
    rw [hexposures] at hid
    exact .inl hid

def HubWrite.aboutExposure : HubWrite → Bool
  | .insertExposure _ => true
  | .updateExposure _ _ => true
  | _ => false

theorem exposures_of_flush {ws : List HubWrite} (hws : ∀ w ∈ ws, w.aboutExposure = false)
    (hflush : Store.flush ws h = some h') : h'.exposures = h.exposures := by
  induction ws generalizing h with
  | nil =>
      cases hflush
      rfl
  | cons w ws ih =>
      obtain ⟨h₁, happly, hrest⟩ := Store.flush_cons hflush
      rw [ih (fun v hv => hws v (List.mem_cons_of_mem _ hv)) hrest]
      have hw := hws w List.mem_cons_self
      cases w with
      | insertExposure e => cases hw
      | updateExposure id p => cases hw
      | updateOutbox id p =>
          cases happly
          rfl
      | _ =>
          obtain ⟨t, -, rfl⟩ := Option.map_eq_some_iff.1 happly
          rfl

/-! ### The exposure -/

/-- What is staged for the exposure with an id: it is for the organization, leaves the exposure with
    evidence, and adds no other one. -/
def Records (mine ref id : String) (h : Hub) (ws : List HubWrite) : Prop :=
  ∀ t, h.Kept t → WritesFor mine ws t ∧ ∀ t', Store.flush ws t = some t' →
    t'.exposureOrg id = some mine ∧ (ref ≠ "" → t'.seen id ref = true) ∧
      ∀ id' o, t'.exposureOrg id' = some o → id' = id ∨ t.exposureOrg id' = some o

theorem Records.kept {id : String} {t : Hub} {ws : List HubWrite} (hws : Records mine ref id h ws)
    (ht : h.Kept t) : Records mine ref id t ws := fun u hu => hws u (ht.trans hu)

theorem Records.works {id : String} {ws : List HubWrite} (hws : Records mine ref id h ws)
    (hflush : Store.flush ws h = some h') :
    h.Works (· = mine) (· = ref) h' ∧ h'.exposureOrg id = some mine := by
  obtain ⟨hfor, hafter⟩ := hws h (.refl h)
  obtain ⟨hid, hseen, hothers⟩ := hafter h' hflush
  refine ⟨⟨hfor.within hflush, fun id' o hid' => ?_⟩, hid⟩
  rcases hothers id' o hid' with rfl | hold
  · rw [hid] at hid'
    exact .inr ⟨(Option.some.inj hid').symm, ref, rfl, hseen⟩
  · exact .inl hold

theorem Hub.exposureOrg_of_exposureAt {key : ExposureKey} {e : Exposure}
    (he : h.exposureAt key = some e) : h.exposureOrg e.id = some key.organizationId := by
  unfold Hub.exposureOrg
  rw [Hub.exposure?_of_exposureAt he, ← (Hub.exposureAt_eq_some he).2]
  rfl

/-- The first statement of `upsert_exposure`, given the row it has found. -/
theorem upsert_write {a : UpsertArgs} {existing : Option Exposure} {t t₁ : Hub}
    (hexisting : ∀ e, existing = some e → t.exposureOrg e.id = some a.organizationId)
    (happly : (a.write env existing).apply t = some t₁) :
    t₁.exposureOrg (a.exposureId env existing) = some a.organizationId ∧
      ∀ id' o, t₁.exposureOrg id' = some o →
        id' = a.exposureId env existing ∨ t.exposureOrg id' = some o := by
  cases existing with
  | none =>
      obtain ⟨rows, hrows, rfl⟩ := Option.map_eq_some_iff.1 happly
      have hfind := Table.find?_insert hrows
      unfold Hub.exposureOrg Hub.exposure?
      refine ⟨?_, fun id' o hid' => ?_⟩
      · show (rows.find? (a.newExposure env).id).map _ = some a.organizationId
        rw [hfind]
        simp [Keyed.key, UpsertArgs.newExposure]
      · dsimp only at hid'
        rw [hfind] at hid'
        split_ifs at hid' with hid
        · exact .inl hid.symm
        · exact .inr hid'
  | some e =>
      cases happly
      have hsame : ∀ id', Hub.exposureOrg { t with exposures := _ } id' = t.exposureOrg id' :=
        orgAt_update Exposure.organizationId t.exposures e.id
          (p := (ExposurePatch.ofChange e (a.refreshed env e)).toRow) fun _ => rfl
      exact ⟨(hsame e.id).trans (hexisting e rfl),
        fun id' o hid' => .inr ((hsame id').symm.trans hid')⟩

/-- The exposure a call of `upsert_exposure` writes, and evidence of it unless it is there. -/
theorem records_write {a : UpsertArgs} {existing : Option Exposure} (ms : List MatchEvidence)
    (hexisting : ∀ e, existing = some e → h.exposureOrg e.id = some a.organizationId)
    (hms : ∀ m ∈ ms, m.exposureId = a.exposureId env existing)
    (hseen : ref ≠ "" → h.seen (a.exposureId env existing) ref = true ∨
      ∃ m ∈ ms, m.evidenceRef = some ref) :
    Records a.organizationId ref (a.exposureId env existing) h
      (a.write env existing :: ms.map .insertEvidence) := by
  intro t ht
  have hexisting : ∀ e, existing = some e → t.exposureOrg e.id = some a.organizationId :=
    fun e he => ht.exposures _ _ (hexisting e he)
  have hfirst : (a.write env existing).For a.organizationId t := by
    cases existing with
    | none => exact rfl
    | some e => exact hexisting e rfl
  have hrest : ∀ t₁, (a.write env existing).apply t = some t₁ →
      WritesFor a.organizationId (ms.map .insertEvidence) t₁ := by
    intro t₁ happly
    refine writesFor_of_forall fun w hw => ?_
    obtain ⟨m, hm, rfl⟩ := List.mem_map.1 hw
    show t₁.exposureOrg m.exposureId = some a.organizationId
    rw [hms m hm]
    exact (upsert_write hexisting happly).1
  refine ⟨⟨hfirst, hrest⟩, fun t' hflush => ?_⟩
  obtain ⟨t₁, happly, hflush⟩ := Store.flush_cons hflush
  have hgrows := ((hfirst.within happly).trans ((hrest t₁ happly).within hflush)).toGrows
  obtain ⟨hid, hothers⟩ := upsert_write hexisting happly
  obtain ⟨rows, rfl, hrows⟩ := UpsertArgs.flush_insertEvidence hflush
  refine ⟨hid, fun hne => ?_, hothers⟩
  rcases hseen hne with hseen | ⟨m, hm, href⟩
  · exact hgrows.seen _ _ (ht.seen _ _ hseen)
  · unfold Hub.seen
    rw [hrows, List.any_append, Bool.or_eq_true]
    exact .inr (List.any_eq_true.2 ⟨m, hm, by simp [hms m hm, href]⟩)

theorem upsertExposure_works {a : UpsertArgs} {h : Hub} {guar : Hub → Hub → Prop}
    (href : a.evidenceRef = some ref) {Q : Outcome PyError (String × Bool) → Session Hub → Prop}
    (hdone : ∀ t id created ws, Records a.organizationId ref id t ws →
      Q (.returned (id, created)) ⟨t, [], ws⟩) :
    (upsertExposure a env).Wp Hub.Kept guar Q (Session.fresh h) := by
  unfold upsertExposure
  refine Program.wp_select_bind fun t _ => Program.wp_add_bind ?_
  simp only [Session.fresh, sessionView, List.foldl_nil, List.nil_append]
  have hexisting : ∀ e, t.exposureAt a.key = some e → t.exposureOrg e.id = some a.organizationId :=
    fun e he => Hub.exposureOrg_of_exposureAt he
  generalize t.exposureAt a.key = existing at hexisting
  cases hevidence : nonEmpty a.evidenceRef with
  | none =>
      refine Program.wp_ret.2 (hdone t _ _ _ (records_write [] hexisting
        (fun _ hm => absurd hm List.not_mem_nil) fun hne => ?_))
      rw [nonEmpty_eq_some.2 ⟨href, hne⟩] at hevidence
      cases hevidence
  | some r =>
      obtain rfl : r = ref := Option.some.inj ((nonEmpty_eq_some.1 hevidence).1.symm.trans href)
      refine Program.wp_select_bind fun u hu => ?_
      have hexisting : ∀ e, existing = some e → u.exposureOrg e.id = some a.organizationId :=
        fun e he => hu.exposures _ _ (hexisting e he)
      have hview : (sessionView [] [a.write env existing] u).seen (a.exposureId env existing) r
          = u.seen (a.exposureId env existing) r := overlay_write_seen _ _ _ _ _ _
      dsimp only
      rw [hview]
      split
      · next hseen =>
          exact Program.wp_ret.2 (hdone u _ _ _ (records_write [] hexisting
            (fun _ hm => absurd hm List.not_mem_nil) fun _ => .inl hseen))
      · refine Program.wp_add_bind (Program.wp_ret.2 (hdone u _ _ _ ?_))
        exact records_write [_] hexisting (fun m hm => by rw [List.mem_singleton.1 hm]; rfl)
          fun _ => .inr ⟨_, List.mem_cons_self, href⟩

/-! ### The case -/

/-- What is staged for a case is for its organization, to which it then belongs. -/
theorem writesFor_created (case : RemediationCase) (t : Hub) :
    WritesFor case.organizationId ((createdRows env case).map HubWrite.core) t ∧
      ∀ t', Store.flush ((createdRows env case).map HubWrite.core) t = some t' →
        t'.caseOrg case.id = some case.organizationId := by
  have hcase : ∀ t₁, (HubWrite.core (.insertCase case)).apply t = some t₁ →
      t₁.caseOrg case.id = some case.organizationId := by
    intro t₁ happly
    obtain ⟨db, hdb, rfl⟩ := Option.map_eq_some_iff.1 happly
    simp only [Write.apply] at hdb
    split_ifs at hdb
    obtain ⟨rows, hrows, rfl⟩ := Option.map_eq_some_iff.1 hdb
    show (rows.find? case.id).map _ = some case.organizationId
    rw [Table.find?_insert hrows]
    simp [Keyed.key]
  obtain ⟨rest, hrest, hmem⟩ : ∃ rest, createdRows env case = .insertCase case :: rest ∧
      ∀ w ∈ rest, (∃ c : SlaClock, w = .insertClock c ∧ c.caseId = case.id) ∨
        (∃ a : AuditEvent, w = .insertAudit a ∧ a.organizationId = case.organizationId) ∨
        w = .insertOutbox (createdOutbox env case) := by
    refine ⟨_, rfl, fun w hw => ?_⟩
    simp only [List.append_eq, List.nil_append, List.cons_append, List.mem_cons, List.mem_append,
      List.not_mem_nil, or_false] at hw
    rcases hw with rfl | rfl | hw | rfl
    · exact .inl ⟨_, rfl, rfl⟩
    · exact .inr (.inl ⟨_, rfl, rfl⟩)
    · split at hw
      · obtain rfl := List.mem_singleton.1 hw
        exact .inr (.inl ⟨_, rfl, rfl⟩)
      · cases hw
    · exact .inr (.inr rfl)
  have hfor : ∀ t₁, t₁.caseOrg case.id = some case.organizationId →
      WritesFor case.organizationId (rest.map HubWrite.core) t₁ := by
    intro t₁ ht₁
    refine writesFor_of_forall fun w hw => ?_
    obtain ⟨v, hv, rfl⟩ := List.mem_map.1 hw
    rcases hmem v hv with ⟨c, rfl, hc⟩ | ⟨a, rfl, ha⟩ | rfl
    · show t₁.caseOrg c.caseId = _
      rw [hc]
      exact ht₁
    · exact ha
    · exact rfl
  rw [hrest]
  refine ⟨⟨rfl, fun t₁ happly => hfor t₁ (hcase t₁ happly)⟩, fun t' hflush => ?_⟩
  obtain ⟨t₁, happly, hflush⟩ := Store.flush_cons hflush
  exact ((hfor t₁ (hcase t₁ happly)).within hflush).cases _ _ (hcase t₁ happly)

/-- The link of a case, and its ticket. -/
theorem for_link {e : Exposure} {caseId : String} {ticket provenance : Option String} {w : HubWrite}
    (hcase : h.caseOrg caseId = some e.organizationId)
    (hw : w ∈ HubWrite.insertLink (caseLink env caseId e.id)
      :: ticketWrites env e caseId ticket provenance) :
    w.For e.organizationId h ∧ w.aboutExposure = false := by
  rcases List.mem_cons.1 hw with rfl | hw
  · exact ⟨hcase, rfl⟩
  · unfold ticketWrites at hw
    split at hw
    · cases hw
    · simp only [List.mem_cons, List.not_mem_nil, or_false] at hw
      rcases hw with rfl | rfl
      · exact ⟨hcase, rfl⟩
      · exact ⟨rfl, rfl⟩

variable [Python] {refs : String → Prop}

theorem createCase_works (a : CreateCaseArgs) {Q : Outcome PyError RemediationCase → Session Hub → Prop}
    (hended : ∀ t out, out.isReturned = false → Q out (Session.fresh t))
    (hdone : ∀ t case, t.caseOrg case.id = some a.organizationId →
      Q (.returned case) (Session.fresh t)) (h : Hub) :
    ((createCase a env).embed hubView).Wp Hub.Kept (Hub.Works (· = a.organizationId) refs) Q
      (Session.fresh h) := by
  rw [createCase_eq, Program.embed_bind]
  refine Program.wp_bind (Program.Steady.wp_any
    ((caseOwner_steady a env).embed hubView fun _ _ hst => hst) Hub.Kept.refl
    (fun h₁ h₂ => h₁.trans h₂) fun t out _ => ?_)
  cases out with
  | raised x => exact hended t _ rfl
  | failed => exact hended t _ rfl
  | returned owner =>
      show Program.Wp _ _ _ Q (Session.fresh t)
      simp only [Program.embed_bind, Program.embed_add, Program.embed_commitAll, refreshCase,
        Program.embed_lookup]
      refine Program.wp_add_bind (Program.wp_commitAll_bind (fun u _ _ => hended u _ rfl)
        fun u u' _ hflush => ?_)
      obtain ⟨hfor, hcase⟩ := writesFor_created (newCase a env owner) u
      have hexposures : u'.exposures = u.exposures := exposures_of_flush (fun w hw => by
        obtain ⟨v, -, rfl⟩ := List.mem_map.1 hw
        rfl) hflush
      refine ⟨(hfor.within hflush).works hexposures, ?_⟩
      refine Program.wp_lookup (fun v _ _ => hended v _ rfl) fun v case hv hfound => ?_
      refine hdone v case ?_
      have hid : case.id = (newCase a env owner).id := Db.id_of_case? hfound
      rw [hid]
      exact hv.cases _ _ (hcase u' hflush)

theorem maybeCreateCase_works {o : Handling} {exposureId componentLabel : String}
    {ticket provenance : Option String} (hexposure : h.exposureOrg exposureId = some mine)
    {Q : Outcome PyError (Option String) → Session Hub → Prop}
    (hended : ∀ t out, Q out (Session.fresh t)) :
    (maybeCreateCase o env exposureId componentLabel ticket provenance).Wp Hub.Kept
      (Hub.Works (· = mine) refs) Q (Session.fresh h) := by
  unfold maybeCreateCase
  split
  case isFalse => exact Program.wp_ret.2 (hended h _)
  refine Program.wp_lookup_bind (fun t _ _ => hended t _) fun t e ht he => ?_
  obtain rfl : e.organizationId = mine := by
    have horg := ht.exposures _ _ hexposure
    have he' : t.exposure? exposureId = some e := he
    unfold Hub.exposureOrg at horg
    rw [he'] at horg
    exact Option.some.inj horg
  split
  case isFalse => exact Program.wp_ret.2 (hended t _)
  refine Program.wp_select_bind fun u _ => ?_
  split
  · exact Program.wp_ret.2 (hended u _)
  refine Program.wp_select_bind fun v _ => ?_
  split
  · exact Program.wp_ret.2 (hended v _)
  refine Program.wp_bind (createCase_works (caseArgs o e componentLabel) (fun w out hout => ?_)
    (fun w case hcase => ?_) v)
  · cases out with
    | returned _ => cases hout
    | raised x => exact hended w _
    | failed => exact hended w _
  · refine Program.wp_add_bind (Program.wp_commitAll_bind (fun x _ _ => hended x _)
      fun x x' hx hflush => ⟨?_, Program.wp_ret.2 (hended x' _)⟩)
    have hlink : ∀ w ∈ HubWrite.insertLink (caseLink env case.id e.id)
        :: ticketWrites env e case.id ticket provenance,
        w.For e.organizationId x ∧ w.aboutExposure = false :=
      fun w hw => for_link (hx.cases _ _ hcase) hw
    exact ((writesFor_of_forall fun w hw => (hlink w hw).1).within hflush).works
      (exposures_of_flush (fun w hw => (hlink w hw).2) hflush)

/-! ### The round -/

/-- **A round** keeps to the organization of its finding, whatever the others do. -/
theorem recordFinding_works {o : Handling} {eventId : String} (i : ℕ) {f : Finding}
    (hf : f.organizationId = mine) (h : Hub) :
    (recordFinding o eventId i f).Wp Hub.Kept (Hub.Works (· = mine) (· = eventId))
      (fun _ s => Clean s) (Session.fresh h) := by
  subst hf
  unfold recordFinding priorityFor
  simp only [Program.bind_assoc]
  refine Program.wp_select_bind fun t _ => ?_
  show Program.Wp _ _ (upsertExposure (f.args o.sources eventId t) (o.env i) >>= _) _ (Session.fresh t)
  refine Program.wp_bind (upsertExposure_works rfl fun u id created ws hws => ?_)
  refine Program.wp_commitAll_bind (fun v _ _ => ⟨rfl, rfl⟩) fun v v' hv hflush => ?_
  obtain ⟨hworks, hid⟩ := (hws.kept hv).works hflush
  refine ⟨hworks, ?_⟩
  split
  · refine Program.wp_bind (maybeCreateCase_works hid fun w out => ?_)
    cases out with
    | returned case => exact Program.wp_ret.2 ⟨rfl, rfl⟩
    | raised e => exact ⟨rfl, rfl⟩
    | failed => exact ⟨rfl, rfl⟩
  · exact Program.wp_ret.2 ⟨rfl, rfl⟩

theorem recordFindings_works {o : Handling} {eventId : String} {fs : List Finding}
    (hfs : ∀ f ∈ fs, f.organizationId = mine) (h : Hub) :
    (recordFindings o eventId fs).Wp Hub.Kept (Hub.Works (· = mine) (· = eventId))
      (fun _ s => Clean s) (Session.fresh h) := by
  refine Program.wp_forEach (fun _ s => s = Session.fresh s.db) fs ?_
    (fun s hs => by rw [hs]; exact ⟨rfl, rfl⟩) [] fs (Session.fresh h) rfl rfl
  intro done f rest s hall hs
  rw [hs]
  have hf : f ∈ fs := by
    rw [hall]
    exact List.mem_append_right _ List.mem_cons_self
  refine Program.wp_map.2 (Program.wp_mono ?_ (recordFinding_works done.length (hfs f hf) s.db))
  rintro out ⟨db, executed, staged⟩ ⟨rfl, rfl⟩
  cases out with
  | returned _ => rfl
  | raised e => exact ⟨rfl, rfl⟩
  | failed => exact ⟨rfl, rfl⟩

end Rounds

end VulnOpsHub
