import VulnOpsHub.Lib.Flushing
import VulnOpsHub.Workers.Exposures

set_option autoImplicit false

/-! # Sequences of upserts

`upsert_exposure` in the production session, which does not flush by itself: each lookup sees the
rows added before only because every one of them was flushed. Calls on one session keep one exposure
for each key and one piece of evidence for each reference, whatever they are about and wherever the
caller commits. -/

namespace VulnOpsHub

/-! ## Calls -/

abbrev UpsertSession : Type := Unflushed Hub HubWrite

/-- The first half of `upsert_exposure`: refresh the exposure that is there, or add one and flush. -/
def storeExposure (a : UpsertArgs) (env : CallEnv) (s : UpsertSession) : Option UpsertSession :=
  match s.flushed.exposureAt a.key with
  | some e => some (s.change fun h =>
      { h with
        exposures := h.exposures.update e.id
          (ExposurePatch.ofChange e (a.refreshed env e)).toRow })
  | none => (s.add (.insertExposure (a.newExposure env))).flush HubWrite.apply

/-- The second half: add the evidence, unless it is there, and flush. -/
def noteEvidence (a : UpsertArgs) (env : CallEnv) (id : String) (s : UpsertSession) :
    Option UpsertSession :=
  match nonEmpty a.evidenceRef with
  | none => some s
  | some ref =>
      if s.flushed.seen id ref then some s
      else (s.add (.insertEvidence (a.evidence env id))).flush HubWrite.apply

/-- `upsert_exposure`; `none` when the database refuses a row. -/
def upsertIn (a : UpsertArgs) (env : CallEnv) (s : UpsertSession) : Option UpsertSession := do
  let id := a.exposureId env (s.flushed.exposureAt a.key)
  let t ← storeExposure a env s
  noteEvidence a env id t

/-- What the caller does with its session. -/
inductive UpsertCall where
  | upsert (a : UpsertArgs) (env : CallEnv)
  | commit

def UpsertCall.run (s : UpsertSession) : UpsertCall → Option UpsertSession
  | .upsert a env => upsertIn a env s
  | .commit => s.commit HubWrite.apply

def runCalls (calls : List UpsertCall) (s : UpsertSession) : Option UpsertSession :=
  calls.foldlM UpsertCall.run s

/-- The arguments of the call, if it is one for that key. -/
def UpsertCall.forKey (key : ExposureKey) : UpsertCall → Option UpsertArgs
  | .upsert a _ => if a.key = key then some a else none
  | .commit => none

/-- The arguments of the last call for a key. -/
def lastFor (calls : List UpsertCall) (key : ExposureKey) : Option UpsertArgs :=
  (calls.filterMap (UpsertCall.forKey key)).getLast?

/-! ## One row for each key -/

/-- One exposure for each key, one piece of evidence for each exposure and reference. -/
structure OnePerKey (h : Hub) : Prop where
  exposures : ∀ e ∈ h.exposures.rows, ∀ e' ∈ h.exposures.rows, e.key = e'.key → e = e'
  evidence : ∀ m ∈ h.evidence.rows, ∀ m' ∈ h.evidence.rows, ∀ ref, m.exposureId = m'.exposureId →
    m.evidenceRef = some ref → m'.evidenceRef = some ref → m = m'

theorem onePerKey_empty : OnePerKey Hub.empty :=
  ⟨fun _ he => absurd he List.not_mem_nil, fun _ hm => absurd hm List.not_mem_nil⟩

theorem Hub.exposureAt_eq_some_iff {h : Hub} (hinv : OnePerKey h) {key : ExposureKey} {e : Exposure} :
    h.exposureAt key = some e ↔ e ∈ h.exposures.rows ∧ e.key = key := by
  constructor
  · intro he
    exact ⟨List.mem_of_find?_eq_some he, by simpa using List.find?_some he⟩
  · rintro ⟨he, rfl⟩
    cases hfound : h.exposureAt e.key with
    | none =>
        have hnone := List.find?_eq_none.1 hfound e he
        simp at hnone
    | some e' =>
        have hkey : e'.key = e.key := by simpa using List.find?_some hfound
        rw [hinv.exposures e' (List.mem_of_find?_eq_some hfound) e he hkey]

theorem Hub.exposureAt_eq_none_iff {h : Hub} {key : ExposureKey} :
    h.exposureAt key = none ↔ ∀ e ∈ h.exposures.rows, e.key ≠ key := by
  simp [Hub.exposureAt, List.find?_eq_none]

/-- What a call for `key` leaves of the exposures: those under other keys are untouched, and the one
    under `key` has the state of the class and, if it was there, its id and its first observation. -/
structure Upserted (key : ExposureKey) (matchClass : MatchClass) (h h' : Hub) : Prop where
  frame : ∀ other, other ≠ key → h'.exposureAt other = h.exposureAt other
  stored : ∃ e, h'.exposureAt key = some e ∧ e.state = exposureState matchClass ∧
    ∀ e₀, h.exposureAt key = some e₀ → e.id = e₀.id ∧ e.firstObservedAt = e₀.firstObservedAt

/-! ## The exposure -/

section Exposures

variable {h : Hub} {e : Exposure} {key : ExposureKey}

/-- The row that an update of `e` leaves in the place of `r`. -/
def patchedRow (e : Exposure) (p : ExposurePatch) (r : Exposure) : Exposure :=
  if r.id = e.id then p.toRow.apply r else r

theorem key_patchedRow (e : Exposure) (p : ExposurePatch) (r : Exposure) :
    (patchedRow e p r).key = r.key := by
  unfold patchedRow
  split
  · exact p.key_toRow r
  · rfl

theorem exposureAt_update (hinv : OnePerKey h) (he : e ∈ h.exposures.rows) (p : ExposurePatch)
    (key : ExposureKey) :
    { h with exposures := h.exposures.update e.id p.toRow }.exposureAt key =
      if key = e.key then some (p.toRow.apply e) else h.exposureAt key := by
  have hmap : { h with exposures := h.exposures.update e.id p.toRow }.exposureAt key
      = (h.exposureAt key).map (patchedRow e p) := by
    show (h.exposures.rows.map (patchedRow e p)).find? (fun r => decide (r.key = key)) = _
    rw [List.find?_map]
    simp only [Function.comp_def, key_patchedRow]
    rfl
  rw [hmap]
  split_ifs with hkey
  · rw [hkey, (Hub.exposureAt_eq_some_iff hinv).2 ⟨he, rfl⟩]
    simp [patchedRow]
  · cases hfound : h.exposureAt key with
    | none => rfl
    | some r =>
        obtain ⟨hr, hrkey⟩ := (Hub.exposureAt_eq_some_iff hinv).1 hfound
        have hne : r.id ≠ e.id := by
          intro hid
          have hsame : r = e := List.inj_on_of_nodup_map h.exposures.nodup hr he hid
          exact hkey (hrkey ▸ congrArg Exposure.key hsame)
        simp [patchedRow, hne]

theorem OnePerKey.update (hinv : OnePerKey h) (e : Exposure) (p : ExposurePatch) :
    OnePerKey { h with exposures := h.exposures.update e.id p.toRow } := by
  refine ⟨fun r hr r' hr' hkey => ?_, hinv.evidence⟩
  obtain ⟨x, hx, hxr⟩ : ∃ x ∈ h.exposures.rows, patchedRow e p x = r := List.mem_map.1 hr
  obtain ⟨y, hy, hyr⟩ : ∃ y ∈ h.exposures.rows, patchedRow e p y = r' := List.mem_map.1 hr'
  rw [← hxr, ← hyr, key_patchedRow, key_patchedRow] at hkey
  rw [← hxr, ← hyr, hinv.exposures x hx y hy hkey]

theorem exposureAt_insert {rows : Table Exposure} (hinsert : h.exposures.insert e = some rows)
    (hnone : h.exposureAt e.key = none) (key : ExposureKey) :
    { h with exposures := rows }.exposureAt key =
      if key = e.key then some e else h.exposureAt key := by
  show rows.rows.find? (fun r => decide (r.key = key)) = _
  rw [Table.rows_insert hinsert, List.find?_append]
  split_ifs with hkey
  · subst hkey
    rw [show h.exposures.rows.find? (fun r => decide (r.key = e.key)) = none from hnone]
    simp
  · have hne : e.key ≠ key := fun heq => hkey heq.symm
    simp [hne, Hub.exposureAt]

theorem OnePerKey.insert (hinv : OnePerKey h) {rows : Table Exposure}
    (hinsert : h.exposures.insert e = some rows) (hnone : h.exposureAt e.key = none) :
    OnePerKey { h with exposures := rows } := by
  have hfresh := Hub.exposureAt_eq_none_iff.1 hnone
  refine ⟨fun r hr r' hr' hkey => ?_, hinv.evidence⟩
  simp only [Table.rows_insert hinsert, List.mem_append, List.mem_singleton] at hr hr'
  rcases hr with hr | rfl
  · rcases hr' with hr' | rfl
    · exact hinv.exposures r hr r' hr' hkey
    · exact absurd hkey (hfresh r hr)
  · rcases hr' with hr' | rfl
    · exact absurd hkey.symm (hfresh r' hr')
    · rfl

end Exposures

/-- What storing the exposure does: nothing is pending afterwards, and nothing is committed. -/
theorem storeExposure_spec {a : UpsertArgs} {env : CallEnv} {s t : UpsertSession}
    (hinv : OnePerKey s.flushed) (hpending : s.pending = []) (h : storeExposure a env s = some t) :
    t.pending = [] ∧ t.committed = s.committed ∧ OnePerKey t.flushed ∧
      Upserted a.key a.matchClass s.flushed t.flushed := by
  unfold storeExposure at h
  cases hfound : s.flushed.exposureAt a.key with
  | some e =>
      rw [hfound] at h
      cases h
      obtain ⟨he, hkey⟩ := (Hub.exposureAt_eq_some_iff hinv).1 hfound
      refine ⟨hpending, rfl, hinv.update e _, fun other hne => ?_, ?_⟩
      · exact (exposureAt_update hinv he _ other).trans (if_neg (hkey ▸ hne))
      · refine ⟨a.refreshed env e, ?_, rfl, fun e₀ he₀ => ?_⟩
        · refine (exposureAt_update hinv he _ a.key).trans ?_
          rw [if_pos hkey.symm, a.ofChange_refreshed]
        · rw [← Option.some.inj (hfound.symm.trans he₀)]
          exact ⟨rfl, rfl⟩
  | none =>
      rw [hfound] at h
      obtain ⟨db, hdb, rfl⟩ := (Unflushed.flush_add_eq_some hpending).1 h
      obtain ⟨rows, hrows, rfl⟩ := Option.map_eq_some_iff.1 hdb
      refine ⟨rfl, rfl, hinv.insert hrows hfound, fun other hne => ?_, ?_⟩
      · exact (exposureAt_insert hrows hfound other).trans (if_neg hne)
      · refine ⟨a.newExposure env, ?_, rfl, fun e₀ he₀ => ?_⟩
        · exact (exposureAt_insert hrows hfound a.key).trans (if_pos rfl)
        · rw [hfound] at he₀
          cases he₀

/-! ## The evidence -/

/-- Evidence that no row shows yet. -/
theorem OnePerKey.insertEvidence {h : Hub} {m : MatchEvidence} {ref : String} (hinv : OnePerKey h)
    {rows : Table MatchEvidence} (hinsert : h.evidence.insert m = some rows)
    (href : m.evidenceRef = some ref) (hseen : h.seen m.exposureId ref = false) :
    OnePerKey { h with evidence := rows } := by
  have hfresh : ∀ x ∈ h.evidence.rows, x.exposureId = m.exposureId → x.evidenceRef ≠ some ref := by
    simpa [Hub.seen] using hseen
  refine ⟨hinv.exposures, fun x hx y hy ref' hid hxref hyref => ?_⟩
  simp only [Table.rows_insert hinsert, List.mem_append, List.mem_singleton] at hx hy
  rcases hx with hx | rfl
  · rcases hy with hy | rfl
    · exact hinv.evidence x hx y hy ref' hid hxref hyref
    · rw [← Option.some.inj (href.symm.trans hyref)] at hxref
      exact absurd hxref (hfresh x hx hid)
  · rcases hy with hy | rfl
    · rw [← Option.some.inj (href.symm.trans hxref)] at hyref
      exact absurd hyref (hfresh y hy hid.symm)
    · rfl

theorem noteEvidence_spec {a : UpsertArgs} {env : CallEnv} {id : String} {s t : UpsertSession}
    (hinv : OnePerKey s.flushed) (hpending : s.pending = [])
    (h : noteEvidence a env id s = some t) :
    t.pending = [] ∧ t.committed = s.committed ∧ OnePerKey t.flushed ∧
      t.flushed.exposures = s.flushed.exposures := by
  unfold noteEvidence at h
  cases hout : nonEmpty a.evidenceRef with
  | none =>
      rw [hout] at h
      cases h
      exact ⟨hpending, rfl, hinv, rfl⟩
  | some ref =>
      rw [hout] at h
      dsimp only at h
      split_ifs at h with hseen
      · cases h
        exact ⟨hpending, rfl, hinv, rfl⟩
      · obtain ⟨db, hdb, rfl⟩ := (Unflushed.flush_add_eq_some hpending).1 h
        obtain ⟨rows, hrows, rfl⟩ := Option.map_eq_some_iff.1 hdb
        refine ⟨rfl, rfl, hinv.insertEvidence hrows (nonEmpty_eq_some.1 hout).1 ?_, rfl⟩
        exact eq_false_of_ne_true hseen

/-- **One call.** -/
theorem upsertIn_spec {a : UpsertArgs} {env : CallEnv} {s t : UpsertSession}
    (hinv : OnePerKey s.flushed) (hpending : s.pending = []) (h : upsertIn a env s = some t) :
    t.pending = [] ∧ t.committed = s.committed ∧ OnePerKey t.flushed ∧
      Upserted a.key a.matchClass s.flushed t.flushed := by
  obtain ⟨u, hu, ht⟩ := Option.bind_eq_some_iff.1 h
  obtain ⟨hupending, hucommitted, huinv, hupserted⟩ := storeExposure_spec hinv hpending hu
  obtain ⟨htpending, htcommitted, htinv, hexposures⟩ := noteEvidence_spec huinv hupending ht
  have hat : t.flushed.exposureAt = u.flushed.exposureAt := by
    unfold Hub.exposureAt
    rw [hexposures]
  refine ⟨htpending, htcommitted.trans hucommitted, htinv, fun other hne => ?_, ?_⟩
  · rw [hat]
    exact hupserted.frame other hne
  · rw [hat]
    exact hupserted.stored

/-! ## The orchestrator's calls

Within a call of the orchestrator the same function is a program over the session's view: what it
shows there is what the flushes leave here. -/

theorem overlay_write {a : UpsertArgs} {env : CallEnv} {s t : UpsertSession}
    (hpending : s.pending = []) (h : storeExposure a env s = some t) :
    (a.write env (s.flushed.exposureAt a.key)).overlay s.flushed = t.flushed := by
  unfold storeExposure at h
  unfold UpsertArgs.write
  cases hfound : s.flushed.exposureAt a.key with
  | some e =>
      rw [hfound] at h
      cases h
      rfl
  | none =>
      rw [hfound] at h
      obtain ⟨db, hdb, rfl⟩ := (Unflushed.flush_add_eq_some hpending).1 h
      show ((HubWrite.insertExposure (a.newExposure env)).apply s.flushed).getD s.flushed = db
      rw [hdb]
      rfl

/-- **The program shows what the session has flushed.** -/
theorem upsertExposure_view {a : UpsertArgs} {env : CallEnv} {s t : UpsertSession} {db : Hub}
    {staged : List HubWrite} (hview : sessionView [] staged db = s.flushed)
    (hpending : s.pending = []) (h : upsertIn a env s = some t) :
    ∃ created staged', (upsertExposure a env).run ⟨db, [], staged⟩
        = (.returned (a.exposureId env (s.flushed.exposureAt a.key), created), ⟨db, [], staged'⟩) ∧
      sessionView [] staged' db = t.flushed := by
  obtain ⟨u, hu, ht⟩ := Option.bind_eq_some_iff.1 h
  have hstored : sessionView [] (staged ++ [a.write env (s.flushed.exposureAt a.key)]) db
      = u.flushed := by
    have hsteps : sessionView [] (staged ++ [a.write env (s.flushed.exposureAt a.key)]) db
        = (a.write env (s.flushed.exposureAt a.key)).overlay (sessionView [] staged db) := by
      unfold sessionView
      rw [List.foldl_append]
      rfl
    rw [hsteps, hview]
    exact overlay_write hpending hu
  have hupending : u.pending = [] := by
    unfold storeExposure at hu
    split at hu
    · cases hu
      exact hpending
    · obtain ⟨db', -, rfl⟩ := (Unflushed.flush_add_eq_some hpending).1 hu
      rfl
  unfold upsertExposure
  rw [Program.run_select_bind]
  simp only [hview]
  rw [Program.run_add_bind]
  unfold noteEvidence at ht
  cases hout : nonEmpty a.evidenceRef with
  | none =>
      rw [hout] at ht
      cases ht
      exact ⟨_, _, rfl, hstored⟩
  | some ref =>
      rw [hout] at ht
      dsimp only at ht ⊢
      rw [Program.run_select_bind]
      simp only [hstored]
      split_ifs at ht ⊢ with hseen
      · cases ht
        exact ⟨_, _, rfl, hstored⟩
      · obtain ⟨db', hdb', rfl⟩ := (Unflushed.flush_add_eq_some hupending).1 ht
        refine ⟨_, _, rfl, ?_⟩
        unfold sessionView
        rw [List.foldl_append]
        show (HubWrite.insertEvidence (a.evidence env _)).overlay (sessionView [] _ db) = db'
        rw [hstored]
        show ((HubWrite.insertEvidence (a.evidence env _)).apply u.flushed).getD u.flushed = db'
        rw [hdb']
        rfl

/-! ## Runs -/

/-- Between calls nothing is pending, and what the session sees and what is committed have one row
    for each key. -/
structure SessionInv (s : UpsertSession) : Prop where
  pending : s.pending = []
  flushed : OnePerKey s.flushed
  committed : OnePerKey s.committed

theorem SessionInv.start {db : Hub} (hinv : OnePerKey db) : SessionInv (.start db) :=
  ⟨rfl, hinv, hinv⟩

/-- What a step leaves of the exposure under a key. -/
structure CallEffect (c : UpsertCall) (key : ExposureKey) (h h' : Hub) : Prop where
  frame : c.forKey key = none → h'.exposureAt key = h.exposureAt key
  stored : ∀ a, c.forKey key = some a → ∃ e, h'.exposureAt key = some e ∧
    e.state = exposureState a.matchClass
  kept : ∀ e₀, h.exposureAt key = some e₀ → ∃ e, h'.exposureAt key = some e ∧ e.id = e₀.id ∧
    e.firstObservedAt = e₀.firstObservedAt

/-- **A step keeps the invariant**, and touches the exposure of its key only. -/
theorem UpsertCall.run_spec {c : UpsertCall} {s t : UpsertSession} (hs : SessionInv s)
    (h : c.run s = some t) : SessionInv t ∧ ∀ key, CallEffect c key s.flushed t.flushed := by
  cases c with
  | commit =>
      have hcommit : s.commit HubWrite.apply = some t := h
      rw [Unflushed.commit_of_pending hs.pending] at hcommit
      cases hcommit
      exact ⟨⟨rfl, hs.flushed, hs.flushed⟩, fun key => ⟨fun _ => rfl, fun a ha => (by cases ha),
        fun e he => ⟨e, he, rfl, rfl⟩⟩⟩
  | upsert a env =>
      obtain ⟨hpending, hcommitted, hflushed, hupserted⟩ := upsertIn_spec hs.flushed hs.pending h
      refine ⟨⟨hpending, hflushed, hcommitted ▸ hs.committed⟩, fun key => ?_⟩
      obtain ⟨e, he, hstate, hsame⟩ := hupserted.stored
      by_cases hkey : a.key = key
      · subst hkey
        refine ⟨fun hnone => ?_, fun a' ha' => ?_, fun e₀ he₀ => ⟨e, he, hsame e₀ he₀⟩⟩
        · simp [UpsertCall.forKey] at hnone
        · obtain rfl : a = a' := by simpa [UpsertCall.forKey] using ha'
          exact ⟨e, he, hstate⟩
      · have hframe := hupserted.frame key fun heq => hkey heq.symm
        refine ⟨fun _ => hframe, fun a' ha' => ?_, fun e₀ he₀ => ⟨e₀, hframe.trans he₀, rfl, rfl⟩⟩
        simp [UpsertCall.forKey, hkey] at ha'

theorem lastFor_append_singleton (calls : List UpsertCall) (c : UpsertCall) (key : ExposureKey) :
    lastFor (calls ++ [c]) key = (c.forKey key).or (lastFor calls key) := by
  unfold lastFor
  rw [List.filterMap_append]
  cases hc : c.forKey key with
  | none => simp [hc]
  | some a => simp [hc]

/-- **A run keeps the invariant**; the exposure of a key is what the last call for it says, and is
    left alone when there is none. -/
theorem runCalls_spec {calls : List UpsertCall} {s t : UpsertSession} (hs : SessionInv s)
    (h : runCalls calls s = some t) : SessionInv t ∧ ∀ key,
      ((∀ c ∈ calls, c.forKey key = none) →
        t.flushed.exposureAt key = s.flushed.exposureAt key) ∧
      (∀ a, lastFor calls key = some a → ∃ e, t.flushed.exposureAt key = some e ∧
        e.state = exposureState a.matchClass) ∧
      (∀ e₀, s.flushed.exposureAt key = some e₀ → ∃ e, t.flushed.exposureAt key = some e ∧
        e.id = e₀.id ∧ e.firstObservedAt = e₀.firstObservedAt) := by
  induction calls using List.reverseRecOn generalizing t with
  | nil =>
      cases h
      exact ⟨hs, fun key => ⟨fun _ => rfl, fun a ha => (by cases ha),
        fun e he => ⟨e, he, rfl, rfl⟩⟩⟩
  | append_singleton calls c ih =>
      obtain ⟨u, hu, ht⟩ : ∃ u, runCalls calls s = some u ∧ c.run u = some t := by
        unfold runCalls at h
        rw [List.foldlM_append, Option.bind_eq_bind, Option.bind_eq_some_iff] at h
        obtain ⟨u, hu, ht⟩ := h
        refine ⟨u, hu, ?_⟩
        simpa using ht
      obtain ⟨huinv, hrun⟩ := ih hu
      obtain ⟨htinv, heffect⟩ := UpsertCall.run_spec huinv ht
      refine ⟨htinv, fun key => ?_⟩
      obtain ⟨hframe, hlast, hkept⟩ := hrun key
      refine ⟨fun hnone => ?_, fun a ha => ?_, fun e₀ he₀ => ?_⟩
      · have hc := hnone c (List.mem_append_right calls List.mem_cons_self)
        rw [(heffect key).frame hc]
        exact hframe fun c' hc' => hnone c' (List.mem_append_left [c] hc')
      · rw [lastFor_append_singleton] at ha
        cases hc : c.forKey key with
        | some a' =>
            rw [hc] at ha
            exact (heffect key).stored a (hc.trans ha)
        | none =>
            rw [hc] at ha
            rw [(heffect key).frame hc]
            exact hlast a ha
      · obtain ⟨e₁, he₁, hid₁, hfirst₁⟩ := hkept e₀ he₀
        obtain ⟨e₂, he₂, hid₂, hfirst₂⟩ := (heffect key).kept e₁ he₁
        exact ⟨e₂, he₂, hid₂.trans hid₁, hfirst₂.trans hfirst₁⟩

/-- **Sequential identity**: `before` and `after` are any calls on one session, one after the other,
    with commits between them. There is one exposure for each key and one piece of evidence for each
    reference, seen and committed; each exposure has the state of the last call for its key; an
    exposure that is there keeps its id and its first observation; and what no call is about stays
    as it is. -/
theorem upserts_identity (db : Hub) (before after : List UpsertCall) (s t : UpsertSession)
    (hdb : OnePerKey db) (hbefore : runCalls before (.start db) = some s)
    (hafter : runCalls after s = some t) :
    (OnePerKey t.flushed ∧ OnePerKey t.committed) ∧
      (∀ e ∈ t.flushed.exposures.rows, ∀ a, lastFor (before ++ after) e.key = some a →
        e.state = exposureState a.matchClass) ∧
      (∀ e ∈ s.flushed.exposures.rows, ∃ e' ∈ t.flushed.exposures.rows, e'.key = e.key ∧
        e'.id = e.id ∧ e'.firstObservedAt = e.firstObservedAt) ∧
      ∀ key, (∀ c ∈ after, c.forKey key = none) → ∀ e : Exposure, e.key = key →
        (e ∈ t.flushed.exposures.rows ↔ e ∈ s.flushed.exposures.rows) := by
  obtain ⟨hs, -⟩ := runCalls_spec (SessionInv.start hdb) hbefore
  obtain ⟨ht, hrun⟩ := runCalls_spec hs hafter
  have hall : runCalls (before ++ after) (.start db) = some t := by
    unfold runCalls at hbefore hafter ⊢
    rw [List.foldlM_append, hbefore]
    exact hafter
  obtain ⟨-, hwhole⟩ := runCalls_spec (SessionInv.start hdb) hall
  refine ⟨⟨ht.flushed, ht.committed⟩, fun e he a ha => ?_, fun e he => ?_, fun key hnone e hkey => ?_⟩
  · obtain ⟨e', he', hstate⟩ := (hwhole e.key).2.1 a ha
    rw [(Hub.exposureAt_eq_some_iff ht.flushed).2 ⟨he, rfl⟩] at he'
    rw [Option.some.inj he']
    exact hstate
  · obtain ⟨e', he', hid, hfirst⟩ :=
      (hrun e.key).2.2 e ((Hub.exposureAt_eq_some_iff hs.flushed).2 ⟨he, rfl⟩)
    obtain ⟨hmem, hkey⟩ := (Hub.exposureAt_eq_some_iff ht.flushed).1 he'
    exact ⟨e', hmem, hkey, hid, hfirst⟩
  · have hframe := (hrun key).1 hnone
    subst hkey
    constructor
    · intro he
      have hfound := (Hub.exposureAt_eq_some_iff ht.flushed).2 ⟨he, rfl⟩
      exact ((Hub.exposureAt_eq_some_iff hs.flushed).1 (hframe.symm.trans hfound)).1
    · intro he
      have hfound := (Hub.exposureAt_eq_some_iff hs.flushed).2 ⟨he, rfl⟩
      exact ((Hub.exposureAt_eq_some_iff ht.flushed).1 (hframe.trans hfound)).1

/-- A call about a vulnerability, with or without an occurrence. -/
def sampleUpsert (n : ℕ) (occurrence : Option String) (matchClass : MatchClass) : UpsertCall :=
  .upsert
    { organizationId := "org"
      vulnerabilityId := "CVE-2026-1"
      detectionContext := "sbom:1"
      componentOccurrenceId := occurrence
      assetId := none
      matchClass := matchClass
      confidence := 1
      matchedRules := none
      evidenceRefs := none
      limitations := none
      matcherVersion := none
      priority := none
      policyVersion := none
      evidenceRef := some "evt_1"
      componentPurl := none }
    ⟨fun _ => n, fun i => toString (100 * n + i), none⟩

def sampleBefore : List UpsertCall := [sampleUpsert 1 (some "occ_1") .candidate, .commit]

/-- The candidate is confirmed later; between the calls for it there is one without occurrence. -/
def sampleAfter : List UpsertCall :=
  [sampleUpsert 2 none .candidate, sampleUpsert 3 (some "occ_1") .confirmed]

theorem upserts_identity_sample : ∃ s t, runCalls sampleBefore (.start Hub.empty) = some s ∧
    runCalls sampleAfter s = some t ∧
      t.flushed.exposures.rows.map (·.state) = [.active, .candidate] ∧ OnePerKey t.flushed := by
  refine ⟨_, _, rfl, rfl, by decide +kernel, ?_⟩
  exact (upserts_identity Hub.empty sampleBefore sampleAfter _ _ onePerKey_empty rfl rfl).1.1

end VulnOpsHub
