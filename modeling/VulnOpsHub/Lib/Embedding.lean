import VulnOpsHub.Lib.Transactions

set_option autoImplicit false

/-! # A store inside a larger one

A `StoreView` shows a store as a part of a larger one: every write of the part is a write of the
whole, which changes that part and nothing else. A program over the part then runs unchanged over
the whole (`Program.embed`), and what it does to the part is what it does there
(`run_embed`). -/

namespace VulnOpsHub

/-- The store `σ` as a part of the store `τ`. -/
structure StoreView (σ τ : Type) {ω ρ ω' ρ' : Type} [Store σ ω ρ] [Store τ ω' ρ'] where
  view : τ → σ
  put : τ → σ → τ
  write : ω → ω'
  row : ρ → ρ'
  put_view : ∀ t, put t (view t) = t
  put_put : ∀ t s s', put (put t s) s' = put t s'
  apply_write : ∀ w t, Store.apply (write w) t = (Store.apply w (view t)).map (put t)
  view_put : ∀ {w t s}, Store.apply w (view t) = some s → view (put t s) = s
  overlay_write : ∀ w t, view (Store.overlay (write w) t) = Store.overlay w (view t)
  touches_write : ∀ w, Store.touches τ (write w) = (Store.touches σ w).map row
  same_row : ∀ {r s t}, Store.Same (row r) s t → Store.Same r (view s) (view t)

variable {σ τ ω ρ ω' ρ' : Type} [Store σ ω ρ] [Store τ ω' ρ'] {ε α β : Type}

namespace StoreView

variable (V : StoreView σ τ)

/-- A conditional UPDATE of the part, as one of the whole. -/
def update (u : CondUpdate σ) : CondUpdate τ where
  row := V.row u.row
  guard := fun t => u.guard (V.view t)
  write := V.write u.write
  guard_congr := fun h => u.guard_congr (V.same_row h)
  touches_write := by rw [V.touches_write, u.touches_write]; rfl

/-- The session of the whole whose transaction is that of a session of the part. -/
def session (t : τ) (s : Session σ) : Session τ :=
  ⟨V.put t s.db, s.executed.map V.update, s.staged.map V.write⟩

/-- A transaction of the part changes the part. -/
theorem flush_map {ws : List ω} {t : τ} :
    Store.flush (ws.map V.write) t = (Store.flush ws (V.view t)).map (V.put t) := by
  induction ws generalizing t with
  | nil => simp [Store.flush, V.put_view]
  | cons w ws ih =>
      simp only [List.map_cons, Store.flush, V.apply_write]
      cases hw : Store.apply w (V.view t) with
      | none => rfl
      | some s =>
          simp only [Option.map_some, Option.bind_some, ih, V.view_put hw]
          cases Store.flush ws s with
          | none => rfl
          | some s' => simp [V.put_put]

/-- What a transaction of the part writes is there to be read. -/
theorem view_put_flush {ws : List ω} {t : τ} {s : σ} (h : Store.flush ws (V.view t) = some s) :
    V.view (V.put t s) = s := by
  induction ws generalizing t with
  | nil => cases h; rw [V.put_view]
  | cons w ws ih =>
      obtain ⟨s', hw, hrest⟩ := Store.flush_cons h
      rw [← V.view_put hw] at hrest
      have hput := ih hrest
      rwa [V.put_put] at hput

theorem transactionWrites_map (executed : List (CondUpdate σ)) (staged : List ω) :
    transactionWrites (executed.map V.update) (staged.map V.write)
      = (transactionWrites executed staged).map V.write := by
  simp [transactionWrites, update]

theorem view_foldl_overlay (ws : List ω) (t : τ) :
    V.view ((ws.map V.write).foldl (fun t w => Store.overlay w t) t)
      = ws.foldl (fun s w => Store.overlay w s) (V.view t) := by
  induction ws generalizing t with
  | nil => rfl
  | cons w ws ih => simp only [List.map_cons, List.foldl_cons, ih, V.overlay_write]

theorem view_sessionView (executed : List (CondUpdate σ)) (staged : List ω) (t : τ) :
    V.view (sessionView (executed.map V.update) (staged.map V.write) t)
      = sessionView executed staged (V.view t) := by
  have hexecuted : (executed.map V.update).foldl (fun t u => Store.overlay u.write t) t
      = ((executed.map (·.write)).map V.write).foldl (fun t w => Store.overlay w t) t := by
    simp [List.foldl_map, update]
  unfold sessionView
  rw [view_foldl_overlay, hexecuted, view_foldl_overlay, List.foldl_map]

end StoreView

namespace Program

variable (V : StoreView σ τ)

/-- The same call, over the larger store. -/
def embed : Program σ ε α → Program τ ε α
  | .ret o => .ret o
  | .read k => .read fun t => (k (V.view t)).embed
  | .stage ws k => .stage (ws.map V.write) k.embed
  | .exec u k => .exec (V.update u) fun b => (k b).embed
  | .commit k => .commit k.embed
  | .rollback k => .rollback k.embed

@[simp]
theorem embed_bind (p : Program σ ε α) (f : α → Program σ ε β) :
    (p >>= f).embed V = p.embed V >>= fun a => (f a).embed V := by
  show (p.bind f).embed V = (p.embed V).bind fun a => (f a).embed V
  induction p with
  | ret o => cases o <;> rfl
  | read k ih => exact congrArg _ (funext fun t => ih (V.view t))
  | stage ws k ih => exact congrArg _ ih
  | exec u k ih => exact congrArg _ (funext ih)
  | commit k ih => exact congrArg _ ih
  | rollback k ih => exact congrArg _ ih

theorem embed_add (ws : List ω) :
    (add ws : Program σ ε Unit).embed V = add (ws.map V.write) := rfl

theorem embed_commitAll : (commitAll : Program σ ε Unit).embed V = commitAll := rfl

theorem embed_lookup (g : σ → Option α) (e : ε) :
    (lookup g e).embed V = lookup (fun t => g (V.view t)) e := by
  refine congrArg Program.read (funext fun t => ?_)
  dsimp only
  split <;> rfl

/-- A query that `rely` does not disturb in the part is not disturbed in the whole. -/
theorem Steady.embed {rely : σ → σ → Prop} {rely' : τ → τ → Prop}
    (h : ∀ s t, rely' s t → rely (V.view s) (V.view t)) {p : Program σ ε α} (hp : p.Steady rely) :
    (p.embed V).Steady rely' := by
  induction p with
  | ret o => exact steady_ret
  | read k ih =>
      obtain ⟨hk, hsteady⟩ := steady_read.1 hp
      refine steady_read.2 ⟨fun s t hst => ?_, fun s => ih _ (hsteady (V.view s))⟩
      show (k (V.view s)).embed V = (k (V.view t)).embed V
      rw [hk _ _ (h s t hst)]
  | stage ws k ih => exact absurd hp not_steady_stage
  | exec u k ih => exact absurd hp not_steady_exec
  | commit k ih => exact absurd hp not_steady_commit
  | rollback k ih => exact absurd hp not_steady_rollback

/-- **A call over the whole does to the part what it does there**, and leaves the rest alone. -/
theorem run_embed (p : Program σ ε α) (t : τ) (s : Session σ) (hs : V.view (V.put t s.db) = s.db) :
    (p.embed V).run (V.session t s) = ((p.run s).1, V.session t (p.run s).2) := by
  induction p generalizing s with
  | ret o => rfl
  | read k ih =>
      show ((k (V.view _)).embed V).run (V.session t s) = _
      rw [show V.view (sessionView (V.session t s).executed (V.session t s).staged
        (V.session t s).db) = sessionView s.executed s.staged s.db by
          show V.view (sessionView (s.executed.map V.update) (s.staged.map V.write) (V.put t s.db))
            = _
          rw [V.view_sessionView, hs]]
      exact ih _ s hs
  | stage ws k ih =>
      have hsession : ({ V.session t s with staged := (V.session t s).staged ++ ws.map V.write } :
          Session τ) = V.session t { s with staged := s.staged ++ ws } := by
        simp [StoreView.session]
      show (k.embed V).run { V.session t s with staged := (V.session t s).staged ++ _ } = _
      rw [hsession]
      exact ih { s with staged := s.staged ++ ws } hs
  | exec u k ih =>
      have hguard : (V.update u).guard (V.session t s).db = u.guard s.db := by
        show u.guard (V.view (V.put t s.db)) = _
        rw [hs]
      have hsession : ({ V.session t s with executed := (V.session t s).executed ++ [V.update u] } :
          Session τ) = V.session t { s with executed := s.executed ++ [u] } := by
        simp [StoreView.session]
      show (if (V.update u).guard (V.session t s).db then
          ((k true).embed V).run
            { V.session t s with executed := (V.session t s).executed ++ [V.update u] }
        else ((k false).embed V).run (V.session t s)) = _
      rw [hguard, hsession]
      simp only [run]
      split
      · exact ih true { s with executed := s.executed ++ [u] } hs
      · exact ih false s hs
  | commit k ih =>
      have hflush : Store.flush (transactionWrites (V.session t s).executed (V.session t s).staged)
          (V.session t s).db
          = (Store.flush (transactionWrites s.executed s.staged) s.db).map (V.put t) := by
        show Store.flush (transactionWrites (s.executed.map V.update) (s.staged.map V.write))
          (V.put t s.db) = _
        rw [V.transactionWrites_map, V.flush_map, hs]
        cases Store.flush (transactionWrites s.executed s.staged) s.db with
        | none => rfl
        | some db => simp [V.put_put]
      simp only [embed, run, hflush]
      cases hdb : Store.flush (transactionWrites s.executed s.staged) s.db with
      | none => rfl
      | some db =>
          have hput : V.view (V.put (V.put t s.db) db) = db := V.view_put_flush (hs.symm ▸ hdb)
          rw [V.put_put] at hput
          exact ih (Session.fresh db) hput
  | rollback k ih => exact ih (Session.fresh s.db) hs

end Program

end VulnOpsHub
