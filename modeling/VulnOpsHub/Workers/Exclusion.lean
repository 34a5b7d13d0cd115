import VulnOpsHub.Workers.Crew
import VulnOpsHub.Workers.Uniqueness

set_option autoImplicit false

/-! # Exclusive processing

When the workers of a crew are exclusive: if no worker claims an event that another one still holds,
and none begins with an event whose exposures another one is recording (`Crew.Clear`), then in every
interleaving no two exposures have one key, no two open cases are about one exposure, and a handler
runs to completion again only if its worker has died before it could mark the event
(`exclusive_processing`). The locks of `claim_events` see to neither part of the condition: they go
with the first commit of a handler.

`Hub.Moves` is what a commit of one worker does, and `Hub.Spares` what the handler of another one
relies on. -/

namespace VulnOpsHub

/-! ## What a handler relies on -/

/-- The rows are the same as far as a handler goes that records exposures with keys in `scope` and
    evidence of the event `ref`. -/
structure Hub.Spares (scope : ExposureKey → Prop) (ref : String) (h h' : Hub) : Prop where
  exposureAt : ∀ key, scope key → h'.exposureAt key = h.exposureAt key
  exposure : ∀ e, scope e.key → h.exposure? e.id = some e → h'.exposure? e.id = some e
  seen : ∀ id, h'.seen id ref = h.seen id ref
  linked : ∀ e, scope e.key → h.exposure? e.id = some e → h'.linked e.id = h.linked e.id
  listed : ∀ e, scope e.key → h.exposure? e.id = some e →
    h'.listed e.organizationId e.id = h.listed e.organizationId e.id
  cases : ∀ id c, h.case? id = some c → ∃ c', h'.case? id = some c' ∧ CaseKept c c'
  inputs : SameInputs h h'

namespace Hub.Spares

variable {scope : ExposureKey → Prop} {ref : String} {h h₁ h' : Hub}

theorem refl (scope : ExposureKey → Prop) (ref : String) (h : Hub) : h.Spares scope ref h where
  exposureAt _ _ := rfl
  exposure _ _ he := he
  seen _ := rfl
  linked _ _ _ := rfl
  listed _ _ _ := rfl
  cases _ c hc := ⟨c, hc, .refl c⟩
  inputs := .refl h

theorem trans (h₁₂ : h.Spares scope ref h₁) (h₂₃ : h₁.Spares scope ref h') :
    h.Spares scope ref h' where
  exposureAt key hkey := (h₂₃.exposureAt key hkey).trans (h₁₂.exposureAt key hkey)
  exposure e he hfound := h₂₃.exposure e he (h₁₂.exposure e he hfound)
  seen id := (h₂₃.seen id).trans (h₁₂.seen id)
  linked e he hfound :=
    (h₂₃.linked e he (h₁₂.exposure e he hfound)).trans (h₁₂.linked e he hfound)
  listed e he hfound :=
    (h₂₃.listed e he (h₁₂.exposure e he hfound)).trans (h₁₂.listed e he hfound)
  cases id c hc := by
    obtain ⟨c₁, hc₁, hkept₁⟩ := h₁₂.cases id c hc
    obtain ⟨c', hc', hkept'⟩ := h₂₃.cases id c₁ hc₁
    exact ⟨c', hc', hkept₁.trans hkept'⟩
  inputs := h₁₂.inputs.trans h₂₃.inputs

theorem stable (scope : ExposureKey → Prop) (ref : String) :
    Stable (Hub.Spares scope ref) scope ref where
  refl := refl scope ref
  trans := trans
  exposureAt hs := hs.exposureAt _
  exposure hs := hs.exposure _
  seen id hs := hs.seen id
  linked hs := hs.linked _
  listed hs := hs.listed _
  assets hs := hs.inputs.assets
  services hs := hs.inputs.services
  occurrences hs := hs.inputs.occurrences
  assertions hs := hs.inputs.assertions

theorem of_sameButOutbox (scope : ExposureKey → Prop) (ref : String) (hsame : h.SameButOutbox h') :
    h.Spares scope ref h' := by
  obtain ⟨t, rfl⟩ := hsame
  exact ⟨fun _ _ => rfl, fun _ _ he => he, fun _ => rfl, fun _ _ _ => rfl, fun _ _ _ => rfl,
    fun _ c hc => ⟨c, hc, .refl c⟩, ⟨rfl, rfl, rfl, rfl⟩⟩

end Hub.Spares

/-! ## What a commit does -/

/-- No two exposures have one key, and the cases are as they should be. -/
structure Hub.Sound (h : Hub) : Prop where
  keys : (h.exposures.rows.map Exposure.key).Nodup
  cases : CaseInv h

/-- A commit of a worker that records under `keys` for the event `ref`, as the others see it; it
    delivers no event but those in `only`. -/
structure Hub.Moves (only : String → Prop) (keys : List ExposureKey) (ref : String) (h h' : Hub) :
    Prop where
  delivers : h.Delivers only h'
  inputs : SameInputs h h'
  sound : h.Sound → h'.Sound
  spares : CaseInv h → ∀ scope other, (∀ key ∈ keys, ¬ scope key) → other ≠ ref →
    h.Spares scope other h'

section Congruence

variable {h h' : Hub} {x organizationId : String}

/-- An exposure is linked to an open case as before, if it has no other links and the cases of its
    links are open as before. -/
theorem Hub.linked_congr (hinv : CaseInv h)
    (hcases : ∀ id c, h.case? id = some c → ∃ c', h'.case? id = some c' ∧ CaseKept c c')
    (hlinks : ∀ l : CaseExposure, l.exposureId = x → (l ∈ h'.links.rows ↔ l ∈ h.links.rows)) :
    h'.linked x = h.linked x := by
  have hopen : ∀ l ∈ h.links.rows, (h'.case? l.caseId).any (·.status ≠ .closed)
      = (h.case? l.caseId).any (·.status ≠ .closed) := by
    intro l hl
    obtain ⟨c, hc, -⟩ := hinv.linked l hl
    obtain ⟨c', hc', hkept⟩ := hcases _ c hc
    rw [hc, hc', Option.any_some, Option.any_some, hkept.status]
  rw [Bool.eq_iff_iff]
  simp only [Hub.linked, List.any_eq_true, decide_eq_true_eq]
  constructor
  · rintro ⟨l, hl, hid, hany⟩
    have hmem := (hlinks l hid).1 hl
    exact ⟨l, hmem, hid, by rw [← hopen l hmem, hany]⟩
  · rintro ⟨l, hl, hid, hany⟩
    exact ⟨l, (hlinks l hid).2 hl, hid, by rw [hopen l hl, hany]⟩

/-- An exposure is listed by an open case as before, if only the cases there were list it. -/
theorem Hub.listed_congr
    (hcases : ∀ id c, h.case? id = some c → ∃ c', h'.case? id = some c' ∧ CaseKept c c')
    (hlists : ∀ c' ∈ h'.cases.rows, x ∈ c'.exposures → ∃ c ∈ h.cases.rows, CaseKept c c') :
    h'.listed organizationId x = h.listed organizationId x := by
  rw [Bool.eq_iff_iff]
  simp only [Hub.listed, List.any_eq_true, decide_eq_true_eq]
  constructor
  · rintro ⟨c', hc', horganization, hopen, hx⟩
    obtain ⟨c, hc, hkept⟩ := hlists c' hc' hx
    exact ⟨c, hc, hkept.organizationId ▸ horganization, hkept.status ▸ hopen, hkept.exposures ▸ hx⟩
  · rintro ⟨c, hc, horganization, hopen, hx⟩
    have hfound : h.case? c.id = some c := Table.find?_key_of_mem hc
    obtain ⟨c', hc', hkept⟩ := hcases _ c hfound
    exact ⟨c', Table.mem_of_find? hc', hkept.organizationId.trans horganization,
      hkept.status ▸ hopen, hkept.exposures ▸ hx⟩

end Congruence

section Commits

variable {a : UpsertArgs} {env : CallEnv} {h h' : Hub}

/-! ### The exposure -/

theorem UpsertArgs.Effect.exposure?_of_ne (he : a.Effect env h h') {e : Exposure}
    (hne : e.key ≠ a.key) (hfound : h.exposure? e.id = some e) : h'.exposure? e.id = some e := by
  have hmem := Table.mem_of_find? hfound
  refine Table.find?_eq_some.2 ⟨?_, rfl⟩
  rw [he.exposures]
  unfold recorded
  cases hexisting : h.exposures.rows.find? fun e => e.key = a.key with
  | none => exact List.mem_append_left _ hmem
  | some x =>
      obtain ⟨hx, hkey⟩ := Hub.exposureAt_eq_some (h := h) hexisting
      have hid : e.id ≠ x.id := fun hid => hne (by rw [Table.eq_of_exposureId hmem hx hid, hkey])
      refine List.mem_map.2 ⟨e, hmem, if_neg hid⟩

/-- The keys of the exposures stay distinct. -/
theorem UpsertArgs.Effect.keys (he : a.Effect env h h')
    (hkeys : (h.exposures.rows.map Exposure.key).Nodup) :
    (h'.exposures.rows.map Exposure.key).Nodup := by
  rw [he.exposures]
  unfold recorded
  cases hexisting : h.exposures.rows.find? fun e => e.key = a.key with
  | none =>
      rw [List.map_append, List.map_singleton, UpsertArgs.key_newExposure]
      refine hkeys.append (List.nodup_singleton _) (List.disjoint_singleton.2 fun hmem => ?_)
      obtain ⟨e, hmem, hkey⟩ := List.mem_map.1 hmem
      simpa [hkey] using List.find?_eq_none.1 hexisting e hmem
  | some x =>
      rw [List.map_map]
      refine (List.map_congr_left fun y _ => ?_ : _ = h.exposures.rows.map Exposure.key) ▸ hkeys
      by_cases hid : y.id = x.id <;> simp [hid]

/-- Evidence of another event is there as before. -/
theorem UpsertArgs.Effect.seen (he : a.Effect env h h') {ref other : String}
    (href : a.evidenceRef = some ref) (hne : other ≠ ref) (id : String) :
    h'.seen id other = h.seen id other := by
  unfold Hub.seen
  rw [he.evidence, List.any_append, Bool.or_eq_left_iff_imp]
  intro hany
  obtain ⟨m, hm, hmatch⟩ := List.any_eq_true.1 hany
  have hevidence : m.evidenceRef = some ref := by
    unfold newEvidence at hm
    split at hm
    · cases hm
    · split at hm
      · cases hm
      · obtain rfl := List.mem_singleton.1 hm
        exact href
  rw [hevidence] at hmatch
  exact absurd (by simpa using hmatch : _ ∧ ref = other).2 hne.symm

end Commits

section Moves

variable [Python] {o : Handling} {eventId : String} {i : ℕ} {f : Finding} {e : Exposure}
  {keys : List ExposureKey} {h h' : Hub}

/-- The first transaction of a round. -/
theorem Finding.Stored.moves (hstored : f.Stored o eventId i h h') (hkey : f.key ∈ keys) :
    h.Moves (fun _ => False) keys eventId h' := by
  have heffect := UpsertArgs.effect_of_flush hstored
  refine ⟨?_, hstored.sameInputs, fun hsound => ?_, fun hinv scope other hscope hother => ?_⟩
  · refine delivers_of_flush (fun w hw => .recorded ?_) hstored
    rcases List.mem_cons.1 hw with rfl | hw
    · cases h.exposureAt (f.args o.sources eventId h).key with
      | none => exact .insertExposure _
      | some e => exact .updateExposure _ _
    · obtain ⟨m, -, rfl⟩ := List.mem_map.1 hw
      exact .insertEvidence m
  · exact ⟨heffect.keys hsound.keys, hstored.caseInv hsound.cases⟩
  · have hne : ∀ {key}, scope key → key ≠ f.key := fun hk heq => hscope _ hkey (heq ▸ hk)
    have hlinked : ∀ id, h'.linked id = h.linked id := by
      intro id
      unfold Hub.linked Hub.case?
      rw [heffect.cases_eq, heffect.links_eq]
    have hlisted : ∀ organizationId id, h'.listed organizationId id = h.listed organizationId id := by
      intro organizationId id
      unfold Hub.listed
      rw [heffect.cases_eq]
    refine ⟨fun key hk => heffect.exposureAt_of_ne (hne hk),
      fun e he => heffect.exposure?_of_ne (hne he), fun id => heffect.seen rfl hother id,
      fun e _ _ => hlinked e.id, fun e _ _ => hlisted _ e.id, fun id c hc => ⟨c, ?_, .refl c⟩,
      hstored.sameInputs⟩
    unfold Hub.case?
    rw [heffect.cases_eq]
    exact hc

omit [Python] in
/-- An exposure with another key is another exposure. -/
theorem Hub.exposure?_ne {scope : ExposureKey → Prop} (hscope : ∀ key ∈ keys, ¬ scope key)
    (hkey : e.key ∈ keys) {e' : Exposure} (he' : scope e'.key) (hfound : h.exposure? e.id = some e)
    (hfound' : h.exposure? e'.id = some e') : e'.id ≠ e.id := by
  intro hid
  rw [hid, hfound] at hfound'
  obtain rfl := Option.some.inj hfound'
  exact hscope _ hkey he'

/-- The second transaction. -/
theorem Finding.Opened.moves (hopened : f.Opened o i e h h') (hfound : h.exposureAt f.key = some e)
    (hkey : f.key ∈ keys) : h.Moves (fun _ => False) keys eventId h' := by
  obtain ⟨case, heffect⟩ := hopened.effect
  obtain ⟨-, -, hlists⟩ := heffect.case_lists
  have hexposures := hopened.exposures_eq
  have hframe := heffect.frame
  refine ⟨?_, hopened.sameInputs, fun hsound => ?_, fun hinv scope other hscope hother => ?_⟩
  · obtain ⟨owner, -, hflush⟩ := hopened.created
    refine delivers_of_flush (fun w hw => .recorded ?_) hflush
    obtain ⟨v, hv, rfl⟩ := List.mem_map.1 hw
    exact .created hv
  · exact ⟨by rw [hexposures]; exact hsound.keys, hopened.caseInv hfound hsound.cases⟩
  · have hkeye : e.key ∈ keys := (Hub.exposureAt_eq_some hfound).2 ▸ hkey
    have hne : ∀ e' : Exposure, scope e'.key → h.exposure? e'.id = some e' → e'.id ≠ e.id :=
      fun e' he' => Hub.exposure?_ne hscope hkeye he' (Hub.exposure?_of_exposureAt hfound)
    have hcases : ∀ id c, h.case? id = some c → ∃ c', h'.case? id = some c' ∧ CaseKept c c' := by
      intro id c hc
      refine ⟨c, Table.find?_eq_some.2 ⟨?_, Table.key_of_find? hc⟩, .refl c⟩
      rw [heffect.cases]
      exact List.mem_append_left _ (Table.mem_of_find? hc)
    have hexposure? : h'.exposure? = h.exposure? := by
      funext id
      unfold Hub.exposure?
      rw [hexposures]
    refine ⟨fun key _ => ?_, fun e' _ he' => ?_, fun id => ?_, fun e' he' hfound' => ?_,
      fun e' he' hfound' => ?_, hcases, hopened.sameInputs⟩
    · unfold Hub.exposureAt
      rw [hexposures]
    · rwa [hexposure?]
    · obtain ⟨db, rfl⟩ := hframe
      rfl
    · refine Hub.linked_congr hinv hcases fun l _ => ?_
      obtain ⟨db, rfl⟩ := hframe
      exact Iff.rfl
    · refine Hub.listed_congr hcases fun c' hc' hx => ?_
      rw [heffect.cases] at hc'
      rcases List.mem_append.1 hc' with hc' | hnew
      · exact ⟨c', hc', .refl c'⟩
      · rw [List.mem_singleton.1 hnew, hlists] at hx
        exact absurd (List.mem_singleton.1 hx) (hne e' he' hfound')

omit [Python] in
/-- The third: the case it links to lists the exposure. -/
theorem Finding.Linked.moves (hlink : f.Linked o i e h h') (hfound : h.exposureAt f.key = some e)
    (hkey : f.key ∈ keys) {case : RemediationCase} (hcase : h.case? (caseId (o.env i)) = some case)
    (hlists : e.id ∈ case.exposures) : h.Moves (fun _ => False) keys eventId h' := by
  have heffect := hlink.effect
  have hexposures := heffect.exposures_eq
  refine ⟨?_, hlink.sameInputs, fun hsound => ?_, fun hinv scope other hscope hother => ?_⟩
  · refine delivers_of_flush (fun w hw => .recorded ?_) hlink
    rcases List.mem_cons.1 hw with rfl | hw
    · exact .insertLink _
    · exact .ticket hw
  · exact ⟨by rw [hexposures]; exact hsound.keys,
      heffect.caseInv_of_lists hcase hlists hsound.cases⟩
  · have hkeye : e.key ∈ keys := (Hub.exposureAt_eq_some hfound).2 ▸ hkey
    have hne : ∀ e' : Exposure, scope e'.key → h.exposure? e'.id = some e' → e'.id ≠ e.id :=
      fun e' he' => Hub.exposure?_ne hscope hkeye he' (Hub.exposure?_of_exposureAt hfound)
    have hcases : ∀ id c, h.case? id = some c → ∃ c', h'.case? id = some c' ∧ CaseKept c c' := by
      intro id c hc
      refine ⟨ticketed o i f c, ?_, caseKept_ticketed o i f c⟩
      rw [heffect.case?, hc]
      rfl
    have hexposure? : h'.exposure? = h.exposure? := by
      funext id
      unfold Hub.exposure?
      rw [hexposures]
    refine ⟨fun key _ => ?_, fun e' _ he' => ?_, fun id => ?_, fun e' he' hfound' => ?_,
      fun e' he' hfound' => ?_, hcases, hlink.sameInputs⟩
    · unfold Hub.exposureAt
      rw [hexposures]
    · rwa [hexposure?]
    · obtain ⟨db, t, rfl⟩ := heffect.frame
      rfl
    · refine Hub.linked_congr hinv hcases fun l hl => ?_
      rw [heffect.links, List.mem_append, List.mem_singleton]
      refine ⟨fun hmem => hmem.resolve_right fun hnew => ?_, .inl⟩
      rw [hnew] at hl
      exact hne e' he' hfound' hl.symm
    · refine Hub.listed_congr hcases fun c' hc' _ => ?_
      rw [heffect.cases] at hc'
      obtain ⟨c, hc, rfl⟩ := List.mem_map.1 hc'
      exact ⟨c, hc, caseKept_ticketed o i f c⟩

end Moves

/-! ## What a program of a worker does -/

section Programs

variable [Python] {o : Handling} {eventId : String} {keys : List ExposureKey} {h : Hub}

/-- A round, among others that spare it. -/
theorem recordFinding_moves (i : ℕ) {f : Finding} (hkey : f.key ∈ keys) (h : Hub) :
    (recordFinding o eventId i f).Wp (Hub.Spares (· ∈ keys) eventId) (Hub.Moves (fun _ => False) keys eventId)
      (fun _ s => Clean s) (Session.fresh h) := by
  refine wp_recordFinding (Hub.Spares.stable (· ∈ keys) eventId) hkey (A := fun _ => True)
    (B := fun _ => True) (C := fun t => ∃ e case, t.exposureAt f.key = some e ∧
      t.case? (caseId (o.env i)) = some case ∧ e.id ∈ case.exposures)
    (fun _ _ _ _ => trivial) (fun _ _ _ _ => trivial) ?_ ?_ ?_ ?_ ?_ ?_ trivial
  · rintro t u ⟨e, case, he, hcase, hlists⟩ hu
    obtain ⟨case', hcase', hkept⟩ := hu.cases _ case hcase
    exact ⟨e, case', by rw [hu.exposureAt _ hkey, he], hcase', hkept.exposures ▸ hlists⟩
  · exact fun t t' _ hstored => ⟨hstored.moves hkey, trivial⟩
  · intro t t' e _ he _ hopened
    refine ⟨hopened.moves he hkey, e, ?_⟩
    obtain ⟨case, heffect⟩ := hopened.effect
    refine ⟨case, ?_, heffect.case?⟩
    unfold Hub.exposureAt
    rw [hopened.exposures_eq]
    exact he
  · rintro t t' e ⟨e', case, he', hcase, hlists⟩ he hlinked
    obtain rfl := Option.some.inj (he'.symm.trans he)
    exact ⟨hlinked.moves he hkey hcase hlists, rfl, rfl⟩
  · exact fun _ _ _ _ _ => ⟨rfl, rfl⟩
  · exact fun _ _ _ _ => ⟨rfl, rfl⟩

theorem recordFindings_moves {fs : List Finding} (hkeys : ∀ f ∈ fs, f.key ∈ keys) (h : Hub) :
    (recordFindings o eventId fs).Wp (Hub.Spares (· ∈ keys) eventId) (Hub.Moves (fun _ => False) keys eventId)
      (fun _ s => Clean s) (Session.fresh h) := by
  refine Program.wp_forEach (fun _ s => s = Session.fresh s.db) fs ?_
    (fun s hs => by rw [hs]; exact ⟨rfl, rfl⟩) [] fs (Session.fresh h) rfl rfl
  intro done f rest s hall hs
  rw [hs]
  have hf : f ∈ fs := by
    rw [hall]
    exact List.mem_append_right _ List.mem_cons_self
  refine Program.wp_map.2 (Program.wp_mono ?_ (recordFinding_moves done.length (hkeys f hf) s.db))
  rintro out ⟨db, executed, staged⟩ ⟨rfl, rfl⟩
  cases out with
  | returned _ => rfl
  | raised e => exact ⟨rfl, rfl⟩
  | failed => exact ⟨rfl, rfl⟩

variable [Packaging]

/-- The keys of the exposures that the handling of an event records. -/
def eventKeys (o : Handling) (event : OutboxEvent) (h : Hub) : List ExposureKey :=
  match findingsOf o event h with
  | .ok fs => fs.map Finding.key
  | .error _ => []

/-- They depend on the packages of its bill of materials. -/
theorem eventKeys_congr (o : Handling) (event : OutboxEvent) {h h' : Hub}
    (hoccurrences : h'.occurrences = h.occurrences) :
    eventKeys o event h' = eventKeys o event h := by
  unfold eventKeys findingsOf sbomFound
  rw [hoccurrences]

/-- **A handler, among others that spare it.** -/
theorem handler_moves {event : OutboxEvent} {handler : Handling → OutboxEvent → HubProg String}
    (hhandler : handlerOf event.eventType = some handler) (h : Hub) :
    ((handler o event).map fun _ => ()).Wp (Hub.Spares (· ∈ eventKeys o event h) event.id)
      (Hub.Moves (fun _ => False) (eventKeys o event h) event.id) (fun _ s => Clean s) (Session.fresh h) := by
  refine Program.wp_map.2 (wp_handler (Q := fun _ s => Clean s) hhandler (Hub.Spares.refl _ _)
    (fun _ _ hs => hs.inputs.occurrences) (fun _ _ _ _ => ⟨rfl, rfl⟩) fun fs t _ hfs => ?_)
  have hkeys : eventKeys o event h = fs.map Finding.key := by
    unfold eventKeys
    rw [hfs]
  refine recordFindings_moves (fun f hf => ?_) t
  rw [hkeys]
  exact List.mem_map_of_mem hf

end Programs

/-- A change of one row of the outbox, which stays delivered if it was. -/
theorem moves_updateEvent {id : String} {p : OutboxPatch} (hp : p.deliveredAt ≠ some none) (h : Hub) :
    h.Moves (· = id) [] id (h.updateEvent id p) := by
  have hsame : h.SameButOutbox (h.updateEvent id p) := ⟨_, rfl⟩
  refine ⟨delivers_of_map rfl (fun r => ?_) fun r hd => ?_, ⟨rfl, rfl, rfl, rfl⟩,
    fun hsound => ⟨hsound.keys, hsound.cases.sameButOutbox hsame⟩,
    fun _ scope other _ _ => .of_sameButOutbox scope other hsame⟩
  · split
    · refine ⟨rfl, rfl, fun hd => ?_⟩
      show (p.deliveredAt.getD r.deliveredAt).isSome = true
      cases hdelivered : p.deliveredAt with
      | none => exact hd
      | some at? =>
          cases at? with
          | none => exact absurd hdelivered hp
          | some now => rfl
    · exact ⟨rfl, rfl, fun hd => hd⟩
  · split at hd
    · next heq => exact .inl heq
    · exact .inr hd

/-- Events stay, delivered if they were. -/
def Hub.Keeps (h h' : Hub) : Prop := h.Delivers (fun _ => True) h'

/-- `complete_event` marks its event, whatever the others do. -/
theorem completeEvent_moves {event : OutboxEvent} {h : Hub} (now : Instant)
    (hstored : ∃ r ∈ h.outboxEvents.rows, r.id = event.id) :
    (completeEvent event now).Wp Hub.Keeps (Hub.Moves (· = event.id) [] event.id)
      (fun out s => out.isReturned = true ∧ s.db.Delivered event.id ∧ Clean s)
      (Session.fresh h) := by
  unfold completeEvent
  refine Program.wp_add_bind (Program.wp_commitAll (fun t _ hfailed => ?_) fun t t' ht hflush => ?_)
  · cases hfailed
  · cases hflush
    refine ⟨moves_updateEvent (by simp) t, rfl, ?_, rfl, rfl⟩
    obtain ⟨r, hr, hid⟩ := hstored
    obtain ⟨r', hr', hid', -⟩ := ht.kept r hr
    refine ⟨_, List.mem_map_of_mem hr', ?_⟩
    have heq : Keyed.key r' = event.id := hid'.trans hid
    rw [if_pos heq]
    exact ⟨heq, rfl⟩

/-- `fail_event` counts an attempt. -/
theorem failEvent_moves (event : OutboxEvent) (s : Session Hub) :
    (failEvent event).Wp Hub.Keeps (Hub.Moves (· = event.id) [] event.id) (fun _ _ => True) s := by
  unfold failEvent
  refine Program.wp_rollbackAll_bind (Program.wp_lookup_bind (fun _ _ _ => trivial)
    fun t stored _ _ => Program.wp_add_bind ?_)
  refine Program.wp_commitAll (fun _ _ _ => trivial) fun u u' _ hflush => ?_
  cases hflush
  exact ⟨moves_updateEvent (by simp) u, trivial⟩

section Exclusion

variable [Python] [Packaging]

/-! ## The condition -/

/-- The keys of the exposures a worker is recording. -/
def Member.keys (m : Member) (h : Hub) : List ExposureKey :=
  match m.phase, m.held with
  | .handling, event :: _ => eventKeys m.handling event h
  | _, _ => []

/-- No worker claims an event that another one holds, and none begins with an event whose exposures
    another one is recording. -/
def Crew.Clear (s : Crew) : Act → Prop
  | .claim i => ∀ m ∈ s.members[i]?, ∀ e ∈ s.claimed i m, ∀ n ∈ s.others i, e.id ∉ n.held.map (·.id)
  | .take i => ∀ m ∈ s.members[i]?, ∀ e ∈ m.held.head?, ∀ n ∈ s.others i, ∀ key ∈ n.keys s.db,
      key ∉ eventKeys m.handling e s.db
  | .run _ | .crash _ => True

instance (s : Crew) : (a : Act) → Decidable (s.Clear a)
  | .claim i => inferInstanceAs (Decidable (∀ m ∈ s.members[i]?, _))
  | .take i => inferInstanceAs (Decidable (∀ m ∈ s.members[i]?, _))
  | .run _ => inferInstanceAs (Decidable True)
  | .crash _ => inferInstanceAs (Decidable True)

/-! ## The invariant -/

/-- The events of its batch that a worker has yet to mark. -/
def Member.waiting (m : Member) : List OutboxEvent :=
  match m.phase with
  | .completing _ | .failing => m.held.tail
  | _ => m.held

/-- The program `p` of a worker, in the session `s`, goes on as it should as long as the others spare
    it. -/
structure Member.Going (m : Member) (h : Hub) (p : HubProg Unit) (s : Session Hub) : Prop where
  handling : ∀ e rest, m.phase = .handling → m.held = e :: rest →
    p.Ready (Hub.Spares (· ∈ m.keys h) e.id) (Hub.Moves (fun _ => False) (m.keys h) e.id)
      (fun _ s => Clean s) s
  completing : ∀ e rest handled, m.phase = .completing handled → m.held = e :: rest →
    p.Ready Hub.Keeps (Hub.Moves (· = e.id) [] e.id)
      (fun out s => out.isReturned = true ∧ s.db.Delivered e.id ∧ Clean s) s
  failing : ∀ e rest, m.phase = .failing → m.held = e :: rest →
    p.Ready Hub.Keeps (Hub.Moves (· = e.id) [] e.id) (fun _ _ => True) s

/-- Where a worker is: its events are stored and wait, and it holds an empty transaction or goes on
    with a program. -/
structure Member.Sound (m : Member) (h : Hub) : Prop where
  nodup : (m.held.map (·.id)).Nodup
  stored : ∀ e ∈ m.held, ∃ r ∈ h.outboxEvents.rows, r.id = e.id
  waiting : ∀ e ∈ m.waiting, ¬ h.Delivered e.id
  idle : m.phase = .idle → Clean (m.session h)
  going : m.Going h m.prog (m.session h)

/-- No two workers hold one event. -/
def Member.HeldApart (m n : Member) : Prop := ∀ e ∈ m.held, e.id ∉ n.held.map (·.id)

/-- No two workers record under one key. -/
def Member.KeysApart (h : Hub) (m n : Member) : Prop := ∀ key ∈ m.keys h, key ∉ n.keys h

/-- How often the handler of an event has run to completion. -/
def Crew.times (s : Crew) (id : String) : ℕ := (s.done.map Prod.snd).count id

/-- The event is delivered, or a worker that has been through its handler is to mark it. -/
def Crew.Settled (s : Crew) (id : String) : Prop :=
  s.db.Delivered id ∨ ∃ m ∈ s.members, m.finished = some id

/-- When a handler has run to completion, its event is settled from then on, unless the worker dies
    before it has marked it. -/
structure Crew.Accounted (s : Crew) : Prop where
  once : ∀ id, s.times id ≤ s.lost.count id + 1
  unsettled : ∀ id, ¬ s.Settled id → s.times id ≤ s.lost.count id

/-- Where a crew is. -/
structure Crew.Sound (s : Crew) : Prop where
  rows : s.db.Sound
  members : Crew.Each (fun _ m => m.Sound s.db) s.members
  heldApart : Crew.Apart Member.HeldApart s.members
  keysApart : Crew.Apart (Member.KeysApart s.db) s.members
  accounted : s.Accounted

section Members

variable {m n : Member} {h h' : Hub} {only : String → Prop} {keys : List ExposureKey} {ref : String}

omit [Python] [Packaging] in
theorem Member.HeldApart.symm (m n : Member) (happart : m.HeldApart n) : n.HeldApart m := by
  intro e he hmem
  obtain ⟨e', he', hid⟩ := List.mem_map.1 hmem
  exact happart e' he' (hid ▸ List.mem_map_of_mem he)

theorem Member.KeysApart.symm (h : Hub) (m n : Member) (happart : m.KeysApart h n) :
    n.KeysApart h m := fun key hkey hkey' => happart key hkey' hkey

theorem Member.keys_of_ne (hphase : m.phase ≠ .handling) (h : Hub) : m.keys h = [] := by
  unfold keys
  split
  · next hhandling _ => exact absurd hhandling hphase
  · rfl

theorem Member.keys_congr (m : Member) (hoccurrences : h'.occurrences = h.occurrences) :
    m.keys h' = m.keys h := by
  unfold keys
  split
  · exact eventKeys_congr _ _ hoccurrences
  · rfl

omit [Python] [Packaging] in
theorem Member.waiting_subset (m : Member) : m.waiting ⊆ m.held := by
  unfold waiting
  split
  · exact List.tail_subset _
  · exact List.tail_subset _
  · exact List.Subset.refl _

omit [Python] [Packaging] in
theorem Hub.Moves.refl (only : String → Prop) (keys : List ExposureKey) (ref : String) (h : Hub) :
    h.Moves only keys ref h :=
  ⟨.refl only h, .refl h, fun hsound => hsound, fun _ scope other _ _ => .refl scope other h⟩

omit [Python] [Packaging] in
theorem Hub.Moves.keeps (hmoves : h.Moves only keys ref h') : h.Keeps h' :=
  hmoves.delivers.mono fun _ _ => trivial

omit [Python] [Packaging] in
theorem Hub.Moves.not_delivered (hmoves : h.Moves only keys ref h') {id : String} (hid : ¬ only id)
    (hnot : ¬ h.Delivered id) : ¬ h'.Delivered id := by
  rintro ⟨r, hr, rfl, hd⟩
  exact (hmoves.delivers.delivered r hr hd).elim hid hnot

omit [Python] [Packaging] in
theorem Hub.Moves.stored (hmoves : h.Moves only keys ref h') {id : String}
    (hstored : ∃ r ∈ h.outboxEvents.rows, r.id = id) : ∃ r ∈ h'.outboxEvents.rows, r.id = id := by
  obtain ⟨r, hr, rfl⟩ := hstored
  obtain ⟨r', hr', hid, -⟩ := hmoves.delivers.kept r hr
  exact ⟨r', hr', hid⟩

/-- **A commit of another worker** leaves a worker where it is. -/
theorem Member.Sound.spared (hn : n.Sound h) (hinv : CaseInv h) (hmoves : h.Moves only keys ref h')
    (honly : ∀ id, only id → id = ref) (href : ref ∉ n.held.map (·.id))
    (hkeys : ∀ key ∈ keys, key ∉ n.keys h) : n.Sound h' := by
  have hother : ∀ e ∈ n.held, e.id ≠ ref := fun e he heq => href (heq ▸ List.mem_map_of_mem he)
  refine ⟨hn.nodup, fun e he => hmoves.stored (hn.stored e he), fun e he => ?_, hn.idle,
    fun e rest hphase hheld => ?_, fun e rest handled hphase hheld => ?_,
    fun e rest hphase hheld => ?_⟩
  · exact hmoves.not_delivered (fun h => hother e (n.waiting_subset he) (honly _ h)) (hn.waiting e he)
  · rw [n.keys_congr hmoves.inputs.occurrences]
    refine (hn.going.handling e rest hphase hheld).interfere (fun h₁ h₂ => h₁.trans h₂) ?_
    exact hmoves.spares hinv _ _ hkeys (hother e (by rw [hheld]; exact List.mem_cons_self))
  · exact (hn.going.completing e rest handled hphase hheld).interfere (fun h₁ h₂ => h₁.trans h₂)
      hmoves.keeps
  · exact (hn.going.failing e rest hphase hheld).interfere (fun h₁ h₂ => h₁.trans h₂) hmoves.keeps

/-! ## A worker's own steps -/

/-- The worker after a statement. -/
def Member.turned (m : Member) (t : Program.Turn Hub PyError Unit) : Member :=
  { m with
    locked := if t.ended then [] else m.locked
    prog := t.prog
    executed := t.session.executed
    staged := t.session.staged }

/-- What a worker may deliver by a commit: the event it completes. -/
def Member.delivering (m : Member) (event : OutboxEvent) (id : String) : Prop :=
  m.phase ≠ .handling ∧ id = event.id

theorem Member.keys_turned (m : Member) (t : Program.Turn Hub PyError Unit) (h : Hub) :
    (m.turned t).keys h = m.keys h := rfl

/-- A statement of its program moves the rows, and the program goes on. -/
theorem Member.Going.next {event : OutboxEvent} {rest : List OutboxEvent}
    {t : Program.Turn Hub PyError Unit} (hgoing : m.Going h m.prog (m.session h))
    (hbusy : m.phase ≠ .idle) (hheld : m.held = event :: rest)
    (hnext : m.prog.next (m.session h) = some t) :
    h.Moves (m.delivering event) (m.keys h) event.id t.session.db ∧ m.Going h t.prog t.session := by
  have hhead : ∀ {e rest'}, m.held = e :: rest' → e = event := fun he =>
    (List.cons.inj (he.symm.trans hheld)).1
  cases hphase : m.phase with
  | idle => exact absurd hphase hbusy
  | handling =>
      obtain ⟨hready, hdb⟩ := (hgoing.handling event rest hphase hheld).next (Hub.Spares.refl _ _) hnext
      refine ⟨?_, fun e rest' _ he => hhead he ▸ hready, by simp [hphase], by simp [hphase]⟩
      rcases hdb with hsame | ⟨-, hmoves⟩
      · rw [hsame]
        exact .refl _ _ _ _
      · exact { hmoves with delivers := hmoves.delivers.mono fun _ hfalse => hfalse.elim }
  | completing handled =>
      obtain ⟨hready, hdb⟩ := (hgoing.completing event rest handled hphase hheld).next
        (Hub.Delivers.refl _) hnext
      refine ⟨?_, by simp [hphase], fun e rest' _ _ he => hhead he ▸ hready, by simp [hphase]⟩
      rw [m.keys_of_ne (by simp [hphase])]
      rcases hdb with hsame | ⟨-, hmoves⟩
      · rw [hsame]
        exact .refl _ _ _ _
      · exact { hmoves with delivers := hmoves.delivers.mono fun _ hid => ⟨by simp [hphase], hid⟩ }
  | failing =>
      obtain ⟨hready, hdb⟩ := (hgoing.failing event rest hphase hheld).next (Hub.Delivers.refl _) hnext
      refine ⟨?_, by simp [hphase], by simp [hphase], fun e rest' _ he => hhead he ▸ hready⟩
      rw [m.keys_of_ne (by simp [hphase])]
      rcases hdb with hsame | ⟨-, hmoves⟩
      · rw [hsame]
        exact .refl _ _ _ _
      · exact { hmoves with delivers := hmoves.delivers.mono fun _ hid => ⟨by simp [hphase], hid⟩ }

/-- The events a worker that marks one has yet to mark are the others. -/
theorem Member.Sound.waiting_ne {event : OutboxEvent} {rest : List OutboxEvent} (hm : m.Sound h)
    (hbusy : m.phase ≠ .idle) (hphase : m.phase ≠ .handling) (hheld : m.held = event :: rest)
    {e : OutboxEvent} (he : e ∈ m.waiting) : e.id ≠ event.id := by
  have htail : e ∈ rest := by
    unfold Member.waiting at he
    rw [hheld] at he
    cases hphase' : m.phase with
    | idle => exact absurd hphase' hbusy
    | handling => exact absurd hphase' hphase
    | completing handled => simpa [hphase'] using he
    | failing => simpa [hphase'] using he
  have hnodup := hm.nodup
  rw [hheld, List.map_cons, List.nodup_cons] at hnodup
  exact fun hid => hnodup.1 (hid ▸ List.mem_map_of_mem htail)

/-- **A statement of a worker** moves the rows, and leaves the worker where it should be. -/
theorem Member.Sound.turned {event : OutboxEvent} {rest : List OutboxEvent}
    {t : Program.Turn Hub PyError Unit} (hm : m.Sound h) (hbusy : m.phase ≠ .idle)
    (hheld : m.held = event :: rest) (hnext : m.prog.next (m.session h) = some t) :
    h.Moves (m.delivering event) (m.keys h) event.id t.session.db ∧
      (m.turned t).Sound t.session.db := by
  obtain ⟨hmoves, hgoing⟩ := hm.going.next hbusy hheld hnext
  refine ⟨hmoves, hm.nodup, fun e he => hmoves.stored (hm.stored e he), fun e he => ?_,
    fun hidle => absurd hidle hbusy, fun e rest' hphase he => ?_, hgoing.completing, hgoing.failing⟩
  · exact hmoves.not_delivered (fun hid => hm.waiting_ne hbusy hid.1 hheld he hid.2) (hm.waiting e he)
  · rw [m.keys_turned, m.keys_congr hmoves.inputs.occurrences]
    exact hgoing.handling e rest' hphase he

/-- A worker that starts to mark an event. -/
theorem Member.Sound.complete {event : OutboxEvent} {rest : List OutboxEvent} (hm : m.Sound h)
    (hclean : Clean (m.session h)) (hheld : m.held = event :: rest) (handled : Bool)
    (hwaiting : ∀ e ∈ rest, ¬ h.Delivered e.id) : (m.complete event handled).Sound h := by
  refine ⟨hm.nodup, hm.stored, fun e he => hwaiting e ?_, by simp [Member.complete],
    by simp [Member.complete], fun e rest' _ _ he => ?_, by simp [Member.complete]⟩
  · have he' : e ∈ m.held.tail := he
    rwa [hheld] at he'
  · have he' : m.held = e :: rest' := he
    obtain rfl : e = event := (List.cons.inj (he'.symm.trans hheld)).1
    have hsession : (m.complete e handled).session h = Session.fresh h := hclean.session_eq
    rw [hsession]
    exact .of_wp (Hub.Delivers.refl _) (completeEvent_moves _
      (hm.stored e (by rw [hheld]; exact List.mem_cons_self)))

/-- A worker that begins with the first event it holds. -/
theorem Member.Sound.begin {event : OutboxEvent} {rest : List OutboxEvent} (hm : m.Sound h)
    (hidle : m.phase = .idle) (hheld : m.held = event :: rest) : (m.begin event).Sound h := by
  have hwaiting : ∀ e ∈ m.held, ¬ h.Delivered e.id := by
    intro e he
    refine hm.waiting e ?_
    unfold Member.waiting
    rw [hidle]
    exact he
  have hclean := hm.idle hidle
  unfold Member.begin
  split
  · exact hm.complete hclean hheld false fun e he =>
      hwaiting e (by rw [hheld]; exact List.mem_cons_of_mem _ he)
  · next handler hhandler =>
      refine ⟨hm.nodup, hm.stored, hwaiting, by simp, fun e rest' _ he => ?_, by simp, by simp⟩
      have he' : m.held = e :: rest' := he
      obtain rfl : e = event := (List.cons.inj (he'.symm.trans hheld)).1
      -- a clean session begins with the rows
      refine .of_wp (Hub.Spares.refl _ _) ?_
      have hsession : Member.session { m with
          phase := .handling, prog := (handler m.handling e).map fun _ => () } h
            = Session.fresh h := hclean.session_eq
      have hkeys : Member.keys { m with
          phase := .handling, prog := (handler m.handling e).map fun _ => () } h
            = eventKeys m.handling e h := by
        unfold Member.keys
        simp only [hheld]
        rfl
      rw [hsession, hkeys]
      exact handler_moves hhandler h

/-- A worker that closes its session. -/
theorem Member.Sound.closed (m : Member) (h : Hub) : m.closed.Sound h :=
  ⟨List.nodup_nil, fun _ he => absurd he List.not_mem_nil, fun _ he => absurd he List.not_mem_nil,
    fun _ => ⟨rfl, rfl⟩, by simp [Member.closed], by simp [Member.closed], by simp [Member.closed]⟩

/-- A worker that has marked its event has delivered it. -/
theorem Member.Going.marked {event : OutboxEvent} {rest : List OutboxEvent} {handled : Bool}
    {out : Outcome PyError Unit} (hgoing : m.Going h (.ret out) (m.session h))
    (hphase : m.phase = .completing handled) (hheld : m.held = event :: rest) :
    out.isReturned = true ∧ h.Delivered event.id ∧ Clean (m.session h) := by
  obtain ⟨d, hd, hreturned, hdelivered, hclean⟩ :=
    (hgoing.completing event rest handled hphase hheld).ended
  exact ⟨hreturned, hd.delivered_kept hdelivered, hclean⟩

/-- A worker whose program has ended. -/
theorem Member.Sound.afterEnd {event : OutboxEvent} {rest : List OutboxEvent}
    {out : Outcome PyError Unit} (hm : m.Sound h) (hret : m.prog = .ret out)
    (hheld : m.held = event :: rest) : (m.afterEnd event rest out).Sound h := by
  have hgoing := hm.going
  rw [hret] at hgoing
  have htail : ∀ e ∈ rest, e ∈ m.held := fun e he => by
    rw [hheld]
    exact List.mem_cons_of_mem _ he
  unfold Member.afterEnd
  split
  · next hphase =>
      have hwaiting : ∀ e ∈ rest, ¬ h.Delivered e.id := by
        intro e he
        refine hm.waiting e ?_
        unfold Member.waiting
        rw [hphase]
        exact htail e he
      obtain ⟨d, -, hclean⟩ := (hgoing.handling event rest hphase hheld).ended
      split
      · exact hm.complete hclean hheld true hwaiting
      · refine ⟨hm.nodup, hm.stored, fun e he => hwaiting e ?_, by simp [Member.fail],
          by simp [Member.fail], by simp [Member.fail], fun e rest' _ he => ?_⟩
        · have he' : e ∈ m.held.tail := he
          rwa [hheld] at he'
        · have he' : m.held = e :: rest' := he
          obtain rfl : e = event := (List.cons.inj (he'.symm.trans hheld)).1
          exact .of_wp (Hub.Delivers.refl _) (failEvent_moves e _)
  · next handled hphase =>
      obtain ⟨hreturned, -, hclean⟩ := hgoing.marked hphase hheld
      rw [if_pos hreturned]
      have hnodup := hm.nodup
      rw [hheld, List.map_cons, List.nodup_cons] at hnodup
      refine ⟨hnodup.2, fun e he => hm.stored e (htail e he), fun e he => hm.waiting e ?_,
        fun _ => hclean, by simp, by simp, by simp⟩
      unfold Member.waiting
      rw [hphase, hheld]
      exact he
  · exact .closed m h

omit [Python] [Packaging] in
theorem Member.held_afterEnd {event : OutboxEvent} {rest : List OutboxEvent}
    {out : Outcome PyError Unit} (hheld : m.held = event :: rest) :
    (m.afterEnd event rest out).held ⊆ m.held := by
  unfold Member.afterEnd
  split
  · split <;> exact List.Subset.refl _
  · split
    · rw [hheld]
      exact List.subset_cons_self _ _
    · exact List.nil_subset _
  · exact List.nil_subset _

theorem Member.keys_afterEnd (m : Member) (event : OutboxEvent) (rest : List OutboxEvent)
    (out : Outcome PyError Unit) (h : Hub) : (m.afterEnd event rest out).keys h = [] := by
  refine Member.keys_of_ne ?_ h
  unfold Member.afterEnd
  split
  · split <;> simp [Member.complete, Member.fail]
  · split <;> simp [Member.closed]
  · simp [Member.closed]

theorem Member.held_begin (m : Member) (event : OutboxEvent) : (m.begin event).held = m.held := by
  unfold Member.begin
  split <;> rfl

theorem Member.keys_begin {event : OutboxEvent} {rest : List OutboxEvent}
    (hheld : m.held = event :: rest) (h : Hub) :
    (m.begin event).keys h ⊆ eventKeys m.handling event h := by
  unfold Member.begin
  split
  · rw [Member.keys_of_ne (by simp [Member.complete])]
    exact List.nil_subset _
  · unfold Member.keys
    simp only [hheld]
    exact List.Subset.refl _

end Members

/-! ## A step of the crew -/

namespace Crew

variable {s s' : Crew} {a : Act}

omit [Python] [Packaging] in
theorem nodup_claimed (s : Crew) (i : ℕ) (m : Member) : ((s.claimed i m).map (·.id)).Nodup := by
  refine List.Nodup.sublist ((List.take_sublist _ _).map _) ?_
  refine (((m.worker.order m.tick).perm _).map _).nodup_iff.2 ?_
  exact s.db.outboxEvents.nodup.sublist (List.filter_sublist.map _)

omit [Python] [Packaging] in
theorem not_delivered_of_claimable {h : Hub} {e : OutboxEvent} {maxAttempts : ℕ}
    (he : e ∈ h.outboxEvents.rows) (hclaim : claimable maxAttempts e = true) :
    ¬ h.Delivered e.id := by
  rintro ⟨r, hr, hid, hd⟩
  obtain rfl := Table.eq_of_id hr he hid
  unfold claimable at hclaim
  cases hdelivered : r.deliveredAt <;> simp_all

/-! ### Handlers that have run to completion -/

omit [Python] [Packaging] in
theorem finished_of_ne {m : Member} (hphase : m.phase ≠ .completing true) : m.finished = none :=
  if_neg hphase

omit [Python] [Packaging] in
theorem finished_eq_some {m : Member} {id : String} (h : m.finished = some id) :
    m.phase = .completing true ∧ ∃ e rest, m.held = e :: rest ∧ e.id = id := by
  unfold Member.finished at h
  split_ifs at h with hphase
  obtain ⟨e, hhead, rfl⟩ := Option.map_eq_some_iff.1 h
  obtain ⟨rest, hheld⟩ := List.head?_eq_some_iff.1 hhead
  exact ⟨hphase, e, rest, hheld, rfl⟩

omit [Python] [Packaging] in
/-- An event stays settled when a worker moves. -/
theorem settled_set {i : ℕ} {m m' : Member} {id : String} (hi : s.members[i]? = some m)
    (hmembers : s'.members = s.members.set i m')
    (hkept : s.db.Delivered id → s'.db.Delivered id)
    (hm : m.finished = some id → s'.db.Delivered id ∨ m'.finished = some id)
    (hsettled : s.Settled id) : s'.Settled id := by
  have hlt : i < s.members.length := (List.getElem?_eq_some_iff.1 hi).1
  rcases hsettled with hdelivered | ⟨n, hn, hfinished⟩
  · exact .inl (hkept hdelivered)
  · obtain ⟨j, hj⟩ := List.mem_iff_getElem?.1 hn
    by_cases hij : i = j
    · subst hij
      obtain rfl := Option.some.inj (hi.symm.trans hj)
      refine (hm hfinished).imp_right fun hm' => ⟨m', ?_, hm'⟩
      rw [hmembers]
      exact List.mem_of_getElem? (List.getElem?_set_self hlt)
    · refine .inr ⟨n, ?_, hfinished⟩
      rw [hmembers]
      exact List.mem_of_getElem? ((List.getElem?_set_ne hij).trans hj)

omit [Python] [Packaging] in
/-- No handler has run to completion, and no worker has died. -/
theorem Accounted.moved (hs : s.Accounted) (hdone : s'.done = s.done) (hlost : s'.lost = s.lost)
    (hsettled : ∀ id, s.Settled id → s'.Settled id) : s'.Accounted := by
  refine ⟨fun id => ?_, fun id hid => ?_⟩
  · unfold Crew.times
    rw [hdone, hlost]
    exact hs.once id
  · unfold Crew.times
    rw [hdone, hlost]
    exact hs.unsettled id fun h => hid (hsettled id h)

omit [Python] [Packaging] in
/-- A handler has run to completion for an event that was not settled, and is now. -/
theorem Accounted.ended (i : ℕ) (id : String) (hs : s.Accounted)
    (hdone : s'.done = s.done ++ [(i, id)]) (hlost : s'.lost = s.lost) (hnot : ¬ s.Settled id)
    (hnow : s'.Settled id) (hsettled : ∀ id, s.Settled id → s'.Settled id) : s'.Accounted := by
  have htimes : ∀ id', s'.times id' = s.times id' + if id = id' then 1 else 0 := by
    intro id'
    unfold Crew.times
    rw [hdone, List.map_append, List.count_append]
    simp [List.count_singleton]
  refine ⟨fun id' => ?_, fun id' hid' => ?_⟩
  · rw [htimes, hlost]
    by_cases hid : id = id'
    · subst hid
      rw [if_pos rfl]
      exact Nat.add_le_add_right (hs.unsettled id hnot) 1
    · rw [if_neg hid]
      exact hs.once id'
  · have hid : id ≠ id' := fun h => hid' (h ▸ hnow)
    rw [htimes, hlost, if_neg hid]
    exact hs.unsettled id' fun h => hid' (hsettled id' h)

omit [Python] [Packaging] in
/-- A worker has died. -/
theorem Accounted.crash {i : ℕ} {m : Member} (hs : s.Accounted) (hi : s.members[i]? = some m) :
    (s.afterCrash i m).Accounted := by
  have hlost : ∀ id, (s.afterCrash i m).lost.count id
      = s.lost.count id + if m.finished = some id then 1 else 0 := by
    intro id
    show (s.lost ++ m.finished.toList).count id = _
    rw [List.count_append]
    cases m.finished <;> simp [List.count_singleton]
  refine ⟨fun id => ?_, fun id hid => ?_⟩
  · rw [hlost]
    exact (hs.once id).trans (by omega)
  · rw [hlost]
    by_cases hfinished : m.finished = some id
    · rw [if_pos hfinished]
      exact hs.once id
    · rw [if_neg hfinished]
      refine hs.unsettled id fun h => hid ?_
      exact settled_set hi rfl (fun hd => hd) (fun hm => absurd hm hfinished) h

/-! ### Moves -/

/-- A claim. -/
theorem Sound.claim {i : ℕ} {m : Member} (hs : s.Sound) (hi : s.members[i]? = some m)
    (hidle : m.phase = .idle) (hclear : s.Clear (.claim i)) :
    ({ s with members := s.members.set i (m.claim (s.claimed i m)) } : Crew).Sound := by
  have hkeys : (m.claim (s.claimed i m)).keys s.db = [] :=
    Member.keys_of_ne (by simp [Member.claim, hidle]) _
  have hwaiting : (m.claim (s.claimed i m)).waiting = s.claimed i m := by
    unfold Member.waiting Member.claim
    rw [hidle]
  refine ⟨hs.rows, hs.members.set hi ?_ (fun _ _ _ _ hn => hn),
    hs.heldApart.set Member.HeldApart.symm hi fun j n hne hj e he => ?_,
    hs.keysApart.set (Member.KeysApart.symm s.db) hi fun j n _ _ key hkey => ?_,
    hs.accounted.moved rfl rfl fun id => settled_set hi rfl (fun hd => hd) fun hm => ?_⟩
  · refine ⟨nodup_claimed s i m, fun e he => ⟨e, (mem_claimed he).1, rfl⟩, fun e he => ?_,
      (hs.members i m hi).idle, by simp [Member.claim, hidle], by simp [Member.claim, hidle],
      by simp [Member.claim, hidle]⟩
    rw [hwaiting] at he
    exact not_delivered_of_claimable (mem_claimed he).1 (mem_claimed he).2.1
  · exact hclear m hi e he n (mem_others hne hj)
  · rw [hkeys] at hkey
    cases hkey
  · rw [finished_of_ne (by simp [hidle])] at hm
    cases hm

/-- A worker begins with an event. -/
theorem Sound.take {i : ℕ} {m : Member} {event : OutboxEvent} {rest : List OutboxEvent}
    (hs : s.Sound) (hi : s.members[i]? = some m) (hidle : m.phase = .idle)
    (hheld : m.held = event :: rest) (hclear : s.Clear (.take i)) :
    ({ s with members := s.members.set i (m.begin event) } : Crew).Sound := by
  refine ⟨hs.rows, hs.members.set hi ((hs.members i m hi).begin hidle hheld) (fun _ _ _ _ hn => hn),
    hs.heldApart.set Member.HeldApart.symm hi fun j n hne hj => ?_,
    hs.keysApart.set (Member.KeysApart.symm s.db) hi fun j n hne hj key hkey hkey' => ?_,
    hs.accounted.moved rfl rfl fun id => settled_set hi rfl (fun hd => hd) fun hm => ?_⟩
  · unfold Member.HeldApart
    rw [m.held_begin]
    exact hs.heldApart i j m n (Ne.symm hne) hi hj
  · exact hclear m hi event (by rw [hheld]; rfl) n (mem_others hne hj) key hkey'
      (Member.keys_begin hheld s.db hkey)
  · rw [finished_of_ne (by simp [hidle])] at hm
    cases hm

/-- A program of a worker has ended. -/
theorem Sound.ended {i : ℕ} {m : Member} {event : OutboxEvent} {rest : List OutboxEvent}
    {out : Outcome PyError Unit} (hs : s.Sound) (hi : s.members[i]? = some m)
    (hheld : m.held = event :: rest) (hret : m.prog = .ret out) :
    (s.afterEnd i m event rest out).Sound := by
  have hm := hs.members i m hi
  have hlt : i < s.members.length := (List.getElem?_eq_some_iff.1 hi).1
  have hkept : ∀ id, s.Settled id → (s.afterEnd i m event rest out).Settled id := by
    refine fun id => settled_set hi rfl (fun hd => hd) fun hfinished => .inl ?_
    obtain ⟨hphase, e, rest', hheld', rfl⟩ := finished_eq_some hfinished
    have hgoing := hm.going
    rw [hret] at hgoing
    exact (hgoing.marked hphase hheld').2.1
  refine ⟨hs.rows, hs.members.set hi (hm.afterEnd hret hheld) (fun _ _ _ _ hn => hn),
    hs.heldApart.set Member.HeldApart.symm hi fun j n hne hj e he => ?_,
    hs.keysApart.set (Member.KeysApart.symm s.db) hi fun j n _ _ key hkey => ?_, ?_⟩
  · exact hs.heldApart i j m n (Ne.symm hne) hi hj e (Member.held_afterEnd hheld he)
  · rw [m.keys_afterEnd] at hkey
    cases hkey
  · by_cases hdone : m.phase = .handling ∧ out.isReturned = true
    · have hend : m.afterEnd event rest out = m.complete event true := by
        unfold Member.afterEnd
        rw [hdone.1]
        exact if_pos hdone.2
      refine hs.accounted.ended i event.id ?_ rfl ?_ (.inr ⟨m.complete event true, ?_, ?_⟩) hkept
      · show s.done ++ (if _ then _ else _) = _
        rw [if_pos hdone]
      · -- the event is not marked, and no other worker holds it
        rintro (hdelivered | ⟨n, hn, hfinished⟩)
        · refine hm.waiting event ?_ hdelivered
          unfold Member.waiting
          rw [hdone.1, hheld]
          exact List.mem_cons_self
        · obtain ⟨j, hj⟩ := List.mem_iff_getElem?.1 hn
          obtain ⟨hphase, e, rest', hheld', hid⟩ := finished_eq_some hfinished
          by_cases hij : i = j
          · subst hij
            obtain rfl := Option.some.inj (hi.symm.trans hj)
            rw [hdone.1] at hphase
            cases hphase
          · refine hs.heldApart i j m n hij hi hj event (by rw [hheld]; exact List.mem_cons_self) ?_
            rw [hheld', List.map_cons, hid]
            exact List.mem_cons_self
      · rw [← hend]
        exact List.mem_of_getElem? (List.getElem?_set_self hlt)
      · show (if Member.Phase.completing true = .completing true then m.held.head?.map (·.id)
          else none) = some event.id
        rw [if_pos rfl, hheld]
        rfl
    · refine hs.accounted.moved ?_ rfl hkept
      show s.done ++ (if _ then _ else _) = _
      rw [if_neg hdone, List.append_nil]

/-- A worker executes a statement. -/
theorem Sound.turn {i : ℕ} {m : Member} {event : OutboxEvent} {rest : List OutboxEvent}
    {t : Program.Turn Hub PyError Unit} (hs : s.Sound) (hi : s.members[i]? = some m)
    (hbusy : m.phase ≠ .idle) (hheld : m.held = event :: rest)
    (hnext : m.prog.next (m.session s.db) = some t) : (s.afterTurn i m t).Sound := by
  obtain ⟨hmoves, hturned⟩ := (hs.members i m hi).turned hbusy hheld hnext
  have hkeys : ∀ n : Member, n.keys t.session.db = n.keys s.db := fun n =>
    n.keys_congr hmoves.inputs.occurrences
  have hapart : Apart (Member.KeysApart t.session.db) s.members := by
    intro j k n n' hne hj hk key hkey
    rw [hkeys] at hkey ⊢
    exact hs.keysApart j k n n' hne hj hk key hkey
  refine ⟨hmoves.sound hs.rows, hs.members.set hi hturned fun j n hne hj hn => ?_,
    hs.heldApart.set Member.HeldApart.symm hi fun j n hne hj => ?_,
    hapart.set (Member.KeysApart.symm _) hi fun j n hne hj => ?_,
    hs.accounted.moved rfl rfl fun id => settled_set hi rfl hmoves.delivers.delivered_kept .inr⟩
  · refine hn.spared hs.rows.cases hmoves (fun _ hid => hid.2) ?_ ?_
    · exact hs.heldApart i j m n (Ne.symm hne) hi hj event (by rw [hheld]; exact List.mem_cons_self)
    · exact hs.keysApart i j m n (Ne.symm hne) hi hj
  · exact hs.heldApart i j m n (Ne.symm hne) hi hj
  · exact hapart i j m n (Ne.symm hne) hi hj

/-- A worker dies, and starts again. -/
theorem Sound.crash {i : ℕ} {m : Member} (hs : s.Sound) (hi : s.members[i]? = some m) :
    (s.afterCrash i m).Sound := by
  refine ⟨hs.rows, hs.members.set hi (.closed m s.db) (fun _ _ _ _ hn => hn),
    hs.heldApart.set Member.HeldApart.symm hi fun j n _ _ e he => absurd he List.not_mem_nil,
    hs.keysApart.set (Member.KeysApart.symm s.db) hi fun j n _ _ key hkey => ?_,
    hs.accounted.crash hi⟩
  rw [Member.keys_of_ne (by simp [Member.closed])] at hkey
  cases hkey

/-- **The step lemma.** -/
theorem Stepped.sound (h : Stepped s a s') (hclear : s.Clear a) (hs : s.Sound) : s'.Sound := by
  cases h with
  | claim member idle held => exact hs.claim member idle hclear
  | take member idle held => exact hs.take member idle held hclear
  | ended member busy held ret => exact hs.ended member held ret
  | turn member busy held free next => exact hs.turn member busy held next
  | crash member => exact hs.crash member

theorem sound_start (workers : List Orchestrator) {db : Hub} (hdb : db.Sound) :
    (Crew.start workers db).Sound := by
  have hinitial : ∀ (i : ℕ) (m : Member), (Crew.start workers db).members[i]? = some m →
      ∃ worker, m = .initial worker := by
    intro i m hi
    obtain ⟨worker, -, rfl⟩ := List.mem_map.1 (List.mem_of_getElem? hi)
    exact ⟨worker, rfl⟩
  refine ⟨hdb, fun i m hi => ?_, fun i j m n _ hi _ e he => ?_, fun i j m n _ hi _ key hkey => ?_,
    ⟨fun _ => Nat.zero_le _, fun _ _ => Nat.zero_le _⟩⟩
  · obtain ⟨worker, rfl⟩ := hinitial i m hi
    exact ⟨List.nodup_nil, fun _ he => absurd he List.not_mem_nil,
      fun _ he => absurd he List.not_mem_nil, fun _ => ⟨rfl, rfl⟩, by simp [Member.initial],
      by simp [Member.initial], by simp [Member.initial]⟩
  · obtain ⟨worker, rfl⟩ := hinitial i m hi
    cases he
  · obtain ⟨worker, rfl⟩ := hinitial i m hi
    cases hkey

/-- **Exclusive processing.** Suppose no worker claims an event another one holds, and none begins with
    an event whose exposures another one is recording. Then whatever the interleaving, each handler
    runs to completion at most once, and once more for each time that its worker dies between the end
    of it and the mark; and whenever a worker dies, no two exposures have one key, and no two open
    cases are about one exposure. -/
theorem exclusive_processing (workers : List Orchestrator) (db : Hub)
    (hkeys : (db.exposures.rows.map Exposure.key).Nodup) (hcases : CaseInv db) {s : Crew}
    (hrun : Run (fun s a => s.Clear a) (Crew.start workers db) s) :
    (∀ id, (s.done.map Prod.snd).count id ≤ s.lost.count id + 1) ∧
      (s.db.exposures.rows.map Exposure.key).Nodup ∧
      ∀ x c c', s.db.OpenFor x c → s.db.OpenFor x c' → c = c' := by
  have hsound : s.Sound := by
    induction hrun with
    | start => exact sound_start workers ⟨hkeys, hcases⟩
    | step run a ok next ih => exact (stepped next).sound ok ih
  exact ⟨hsound.accounted.once, hsound.rows.keys, fun x c c' => hsound.rows.cases.openFor_unique⟩

end Crew

end Exclusion

/-! ## Two workers -/

/-- A worker that claims one event at a time, and another one. -/
def sampleOneWorker : Orchestrator :=
  { sampleOrchestrator with settings := { sampleOrchestrator.settings with batchSize := 1 } }

def sampleOtherWorker : Orchestrator :=
  { sampleOneWorker with
    uuid := fun tick i j => toString (1000000 + 10000 * tick + 100 * i + j) }

/-- Events about two bills of materials wait. -/
def sampleTwoSboms : Hub :=
  { sampleWaiting with
    occurrences := ⟨[sampleOccurrence, { sampleOccurrence with id := "occ_2", sbomId := "sbom_2" }],
      by decide⟩
    outboxEvents := ⟨[sampleSbomEvent,
      { sampleSbomEvent with id := "evt_2", payload := .obj [("sbom_id", .str "sbom_2")] }], by decide⟩ }

/-- Each of the two takes one, and they take turns. The first one dies when it has been through its
    handler, and has to handle its event again. -/
def sampleAlternating : List Act :=
  [.claim 0, .claim 1, .take 0, .take 1] ++ (List.range 36).map (fun k => .run (k % 2))
    ++ [.crash 0, .claim 0, .take 0] ++ List.replicate 3 (.run 1) ++ List.replicate 12 (.run 0)

theorem exclusive_processing_alternating : ∃ s, @Crew.Run asciiPython dottedPackaging
    (fun s a => @Crew.Clear asciiPython dottedPackaging s a)
    (.start [sampleOneWorker, sampleOtherWorker] sampleTwoSboms) s ∧
    s.done = [(0, "evt_1"), (1, "evt_2"), (0, "evt_1")] ∧ s.db.cases.rows.length = 2 ∧
    (∀ id, (s.done.map Prod.snd).count id ≤ s.lost.count id + 1) ∧
    (s.db.exposures.rows.map Exposure.key).Nodup ∧
    ∀ x c c', s.db.OpenFor x c → s.db.OpenFor x c' → c = c' := by
  have hacts : ((@Crew.runActs asciiPython dottedPackaging
      (fun s a => decide (@Crew.Clear asciiPython dottedPackaging s a))
      (.start [sampleOneWorker, sampleOtherWorker] sampleTwoSboms) sampleAlternating).any fun s =>
        s.done = [(0, "evt_1"), (1, "evt_2"), (0, "evt_1")] ∧ s.db.cases.rows.length = 2) = true := by
    decide +kernel
  obtain ⟨s, hs, hdone⟩ := (Option.any_eq_true _ _).1 hacts
  have hrun := @Crew.Run.of_acts asciiPython dottedPackaging
    (fun s a => @Crew.Clear asciiPython dottedPackaging s a) _ _ _ _ _
    (@Crew.Run.start asciiPython dottedPackaging _ _) hs
  have hnone : sampleTwoSboms.cases.rows = [] ∧ sampleTwoSboms.links.rows = [] := ⟨rfl, rfl⟩
  obtain ⟨honce, hkeys, hunique⟩ := @Crew.exclusive_processing asciiPython dottedPackaging _
    sampleTwoSboms List.nodup_nil ⟨by simp [hnone.1], by simp [hnone.2], by simp [hnone.1]⟩ _ hrun
  exact ⟨s, hrun, (of_decide_eq_true hdone).1, (of_decide_eq_true hdone).2, honce, hkeys, hunique⟩

/-- The second worker claims the event after the first commit of its handler, when the first one has
    looked for an open case and found none. -/
def sampleOverlapping : List Act :=
  [.claim 0, .take 0] ++ List.replicate 12 (.run 0) ++ [.claim 1, .take 1]
    ++ List.replicate 20 (.run 1) ++ List.replicate 9 (.run 0)

/-- Nothing in the code sees to the condition: both workers run the handler of one event to completion,
    and its exposure has two open cases. -/
theorem overlapping_claims : ((@Crew.runActs asciiPython dottedPackaging (fun _ _ => true)
    (.start [sampleOneWorker, sampleOtherWorker] sampleWaiting) sampleOverlapping).any fun s =>
      s.done = [(1, "evt_1"), (0, "evt_1")] ∧
      s.db.cases.rows.map (fun c => (c.exposures, c.status)) =
        [(["exp_7"], .new), (["exp_7"], .new)]) = true := by decide +kernel

end VulnOpsHub
