import Mathlib.Data.List.Basic

set_option autoImplicit false

/-! # Session programs over a store

A `Program` is what one call does to a database through one session: it reads rows, stages changes
in the session (a unit of work), executes conditional UPDATE statements, commits and rolls back.
The store itself is abstract (`Store`): a type of writes, each of which may be refused, the rows a
write touches, and how a session that staged a write sees it on its own later reads.

`Program.run` is the meaning of a call that runs alone. Interleaved calls are the subject of
`Lib/Interleaving.lean`; both use the same programs, and the same rule (`Program.Meets`) describes
what a call commits. -/

namespace VulnOpsHub

/-! ## Stores -/

/-- A database as a session sees it. `Same r s t` says that row `r` reads the same in `s` and `t`;
    a write leaves every row it does not touch as it was. -/
class Store (σ : Type) (ω ρ : outParam Type) where
  apply : ω → σ → Option σ
  overlay : ω → σ → σ
  touches : ω → List ρ
  Same : ρ → σ → σ → Prop
  same_refl : ∀ r s, Same r s s
  same_trans : ∀ {r s t u}, Same r s t → Same r t u → Same r s u
  apply_same : ∀ {w s t r}, apply w s = some t → r ∉ touches w → Same r s t

variable {σ ω ρ : Type} [Store σ ω ρ]

namespace Store

/-- The writes of a transaction, in order; `none` when the store refuses one of them. -/
def flush : List ω → σ → Option σ
  | [], s => some s
  | w :: ws, s => (apply w s).bind (flush ws)

theorem flush_cons {w : ω} {ws : List ω} {s t : σ} (h : flush (w :: ws) s = some t) :
    ∃ s', apply w s = some s' ∧ flush ws s' = some t :=
  Option.bind_eq_some_iff.1 h

/-- A transaction is its first statements and then the others. -/
theorem flush_append (ws vs : List ω) (s : σ) :
    flush (ws ++ vs) s = (flush ws s).bind (flush vs) := by
  induction ws generalizing s with
  | nil => rfl
  | cons w ws ih =>
      simp only [List.cons_append, flush, Option.bind_assoc]
      exact congrArg _ (funext ih)

/-- A transaction leaves every row it does not touch as it was. -/
theorem flush_same {ws : List ω} {s t : σ} {r : ρ} (h : flush ws s = some t)
    (hr : ∀ w ∈ ws, r ∉ touches σ w) : Same r s t := by
  induction ws generalizing s with
  | nil => cases h; exact same_refl r _
  | cons w ws ih =>
      obtain ⟨s', hw, hrest⟩ := flush_cons h
      exact same_trans (apply_same hw (hr w List.mem_cons_self))
        (ih hrest fun v hv => hr v (List.mem_cons_of_mem _ hv))

end Store

/-- A conditional UPDATE of one row: `write` takes effect where `guard` holds of the stored row. -/
structure CondUpdate (σ : Type) {ω ρ : Type} [Store σ ω ρ] where
  row : ρ
  guard : σ → Bool
  write : ω
  guard_congr : ∀ {s t : σ}, Store.Same row s t → guard s = guard t
  touches_write : Store.touches σ write = [row]

/-! ## Programs -/

/-- How a call ends: with a value, with an exception of the program, or because the database
    refused a statement. -/
inductive Outcome (ε α : Type) where
  | returned (a : α)
  | raised (e : ε)
  | failed
deriving DecidableEq, Repr

namespace Outcome

variable {ε α β : Type}

def isReturned : Outcome ε α → Bool
  | .returned _ => true
  | _ => false

def map (f : α → β) : Outcome ε α → Outcome ε β
  | .returned a => .returned (f a)
  | .raised e => .raised e
  | .failed => .failed

/-- An exception, passed to its handler. -/
def rescue (handle : ε → Outcome ε α) : Outcome ε α → Outcome ε α
  | .raised e => handle e
  | o => o

theorem eq_returned_of_isReturned {o : Outcome ε α} (h : o.isReturned = true) :
    ∃ a, o = .returned a := by
  cases o with
  | returned a => exact ⟨a, rfl⟩
  | raised e => cases h
  | failed => cases h

@[simp]
theorem isReturned_map (f : α → β) (o : Outcome ε α) : (o.map f).isReturned = o.isReturned := by
  cases o <;> rfl

end Outcome

/-- What one call does through its session. `exec` answers whether the UPDATE found its row; a
    transaction issues at most one conditional UPDATE for a row. -/
inductive Program (σ : Type) {ω ρ : Type} [Store σ ω ρ] (ε α : Type) where
  | ret (o : Outcome ε α)
  | read (k : σ → Program σ ε α)
  | stage (ws : List ω) (k : Program σ ε α)
  | exec (u : CondUpdate σ) (k : Bool → Program σ ε α)
  | commit (k : Program σ ε α)
  | rollback (k : Program σ ε α)

namespace Program

variable {ε α β : Type}

def bind : Program σ ε α → (α → Program σ ε β) → Program σ ε β
  | .ret (.returned a), f => f a
  | .ret (.raised e), _ => .ret (.raised e)
  | .ret .failed, _ => .ret .failed
  | .read k, f => .read fun s => (k s).bind f
  | .stage ws k, f => .stage ws (k.bind f)
  | .exec u k, f => .exec u fun b => (k b).bind f
  | .commit k, f => .commit (k.bind f)
  | .rollback k, f => .rollback (k.bind f)

instance : Monad (Program σ ε) where
  pure a := .ret (.returned a)
  bind := bind

/-- The same call, its value passed through `f`. -/
def map (f : α → β) (p : Program σ ε α) : Program σ ε β :=
  p.bind fun a => .ret (.returned (f a))

/-- Raise `e`. Nothing is rolled back: what the session staged so far stays staged. -/
def raise (e : ε) : Program σ ε α := .ret (.raised e)

/-- Read a value off the rows the session sees. -/
def select (f : σ → α) : Program σ ε α := .read fun s => .ret (.returned (f s))

/-- Add changes to the session's unit of work. -/
def add (ws : List ω) : Program σ ε Unit := .stage ws (.ret (.returned ()))

/-- Execute a conditional UPDATE; the answer is whether it matched its row. -/
def execute (u : CondUpdate σ) : Program σ ε Bool := .exec u fun b => .ret (.returned b)

def commitAll : Program σ ε Unit := .commit (.ret (.returned ()))

def rollbackAll : Program σ ε Unit := .rollback (.ret (.returned ()))

/-- A computation that may raise, as a program without effects. -/
def ofExcept : Except ε α → Program σ ε α
  | .ok a => .ret (.returned a)
  | .error e => .ret (.raised e)

/-- Read a row that has to exist; `e` is raised when it does not. -/
def lookup (f : σ → Option α) (e : ε) : Program σ ε α :=
  .read fun s =>
    match f s with
    | some a => .ret (.returned a)
    | none => .ret (.raised e)

/-- `try: p; except: …`, where the handler answers or raises; the transaction of `p` stays open. -/
def rescue (handle : ε → Outcome ε α) : Program σ ε α → Program σ ε α
  | .ret o => .ret (o.rescue handle)
  | .read k => .read fun s => (k s).rescue handle
  | .stage ws k => .stage ws (k.rescue handle)
  | .exec u k => .exec u fun b => (k b).rescue handle
  | .commit k => .commit (k.rescue handle)
  | .rollback k => .rollback (k.rescue handle)

@[simp]
theorem pure_eq (a : α) : (pure a : Program σ ε α) = .ret (.returned a) := rfl

theorem bind_assoc {γ : Type} (p : Program σ ε α) (f : α → Program σ ε β)
    (g : β → Program σ ε γ) : p >>= f >>= g = p >>= fun a => f a >>= g := by
  show (p.bind f).bind g = p.bind fun a => (f a).bind g
  induction p with
  | ret o => cases o <;> rfl
  | read k ih => exact congrArg _ (funext ih)
  | stage ws k ih => exact congrArg _ ih
  | exec u k ih => exact congrArg _ (funext ih)
  | commit k ih => exact congrArg _ ih
  | rollback k ih => exact congrArg _ ih

@[simp]
theorem select_bind (g : σ → α) (f : α → Program σ ε β) :
    (select g >>= f) = .read fun s => f (g s) := rfl

@[simp]
theorem commitAll_bind (f : Unit → Program σ ε β) :
    ((commitAll : Program σ ε Unit) >>= f) = .commit (f ()) := rfl

@[simp]
theorem ofExcept_ok_bind (a : α) (f : α → Program σ ε β) :
    ((ofExcept (.ok a) : Program σ ε α) >>= f) = f a := rfl

end Program

/-! ## A call that runs alone -/

/-- What a session shows of the rows in `db`: the updates executed in its open transaction and the
    changes staged in its unit of work are visible to it. -/
def sessionView (executed : List (CondUpdate σ)) (staged : List ω) (db : σ) : σ :=
  staged.foldl (fun s w => Store.overlay w s)
    (executed.foldl (fun s u => Store.overlay u.write s) db)

/-- The committed rows, with the open transaction and the unit of work of one session. -/
structure Session (σ : Type) {ω ρ : Type} [Store σ ω ρ] where
  db : σ
  executed : List (CondUpdate σ)
  staged : List ω

/-- The writes a commit flushes: executed statements first, then the unit of work. -/
def transactionWrites (executed : List (CondUpdate σ)) (staged : List ω) : List ω :=
  executed.map (·.write) ++ staged

/-- A session without open transaction or pending changes. -/
def Session.fresh (db : σ) : Session σ := ⟨db, [], []⟩

namespace Program

variable {ε α : Type}

/-- Run a call through a session that no other session interferes with. A refused commit ends the
    call; whatever the session staged is then gone. -/
def run : Program σ ε α → Session σ → Outcome ε α × Session σ
  | .ret o, s => (o, s)
  | .read k, s => (k (sessionView s.executed s.staged s.db)).run s
  | .stage ws k, s => k.run { s with staged := s.staged ++ ws }
  | .exec u k, s =>
      if u.guard s.db then (k true).run { s with executed := s.executed ++ [u] }
      else (k false).run s
  | .commit k, s =>
      match Store.flush (transactionWrites s.executed s.staged) s.db with
      | some db => k.run (Session.fresh db)
      | none => (.failed, Session.fresh s.db)
  | .rollback k, s => k.run (Session.fresh s.db)

/-- The committed rows after a call that ran alone in a fresh session. -/
def runDb (p : Program σ ε α) (db : σ) : σ := (p.run (Session.fresh db)).2.db

theorem exists_run_of_isReturned {p : Program σ ε α} {s : Session σ}
    (h : (p.run s).1.isReturned = true) : ∃ a t, p.run s = (.returned a, t) := by
  obtain ⟨a, ha⟩ := Outcome.eq_returned_of_isReturned h
  exact ⟨a, _, Prod.ext ha rfl⟩

attribute [local simp] run

variable {β : Type}

theorem run_map (f : α → β) (p : Program σ ε α) (s : Session σ) :
    (p.map f).run s = ((p.run s).1.map f, (p.run s).2) := by
  induction p generalizing s with
  | ret o => cases o <;> rfl
  | read k ih => exact ih _ s
  | stage ws k ih => exact ih _
  | exec u k ih =>
      show (Program.exec u fun b => (k b).map f).run s = _
      simp only [run]
      split
      · exact ih true _
      · exact ih false s
  | commit k ih =>
      show (Program.commit (k.map f)).run s = _
      simp only [run]
      split
      · exact ih _
      · rfl
  | rollback k ih => exact ih _

/-- A refused commit is no exception of the program. -/
theorem run_rescue {handle : ε → Outcome ε α} (p : Program σ ε α) (s : Session σ) :
    (p.rescue handle).run s = ((p.run s).1.rescue handle, (p.run s).2) := by
  induction p generalizing s with
  | ret o => rfl
  | read k ih => exact ih _ s
  | stage ws k ih => exact ih _
  | exec u k ih =>
      simp only [rescue, run]
      split
      · exact ih true _
      · exact ih false s
  | commit k ih =>
      simp only [rescue, run]
      split
      · exact ih _
      · rfl
  | rollback k ih => exact ih _

/-- A call goes on where its first part returned, and ends where it did not. -/
theorem run_bind {p : Program σ ε α} {f : α → Program σ ε β} {s : Session σ} :
    (p >>= f).run s = match p.run s with
      | (.returned a, t) => (f a).run t
      | (.raised e, t) => (.raised e, t)
      | (.failed, t) => (.failed, t) := by
  induction p generalizing s with
  | ret o => cases o <;> rfl
  | read k ih => exact ih _
  | stage ws k ih => exact ih
  | exec u k ih =>
      show (Program.exec u fun b => k b >>= f).run s = _
      simp only [run]
      split
      · exact ih true
      · exact ih false
  | commit k ih =>
      show (Program.commit (k >>= f)).run s = _
      simp only [run]
      split
      · exact ih
      · rfl
  | rollback k ih => exact ih

theorem run_bind_of_returned {p : Program σ ε α} {f : α → Program σ ε β} {s t : Session σ} {a : α}
    (h : p.run s = (.returned a, t)) : (p >>= f).run s = (f a).run t := by
  rw [run_bind, h]

theorem run_bind_of_raised {p : Program σ ε α} {f : α → Program σ ε β} {s t : Session σ} {e : ε}
    (h : p.run s = (.raised e, t)) : (p >>= f).run s = (.raised e, t) := by
  rw [run_bind, h]

theorem run_bind_of_failed {p : Program σ ε α} {f : α → Program σ ε β} {s t : Session σ}
    (h : p.run s = (.failed, t)) : (p >>= f).run s = (.failed, t) := by
  rw [run_bind, h]

theorem run_select_bind (g : σ → α) (f : α → Program σ ε β) (s : Session σ) :
    (select g >>= f).run s = (f (g (sessionView s.executed s.staged s.db))).run s := rfl

theorem run_lookup_bind {g : σ → Option α} {e : ε} {f : α → Program σ ε β} {s : Session σ} {a : α}
    (h : g (sessionView s.executed s.staged s.db) = some a) :
    (lookup g e >>= f).run s = (f a).run s := by
  show ((match g (sessionView s.executed s.staged s.db) with
    | some a => (.ret (.returned a) : Program σ ε α)
    | none => .ret (.raised e)) >>= f).run s = (f a).run s
  rw [h]
  rfl

theorem run_lookup_bind_none {g : σ → Option α} {e : ε} {f : α → Program σ ε β} {s : Session σ}
    (h : g (sessionView s.executed s.staged s.db) = none) :
    (lookup g e >>= f).run s = (.raised e, s) := by
  show ((match g (sessionView s.executed s.staged s.db) with
    | some a => (.ret (.returned a) : Program σ ε α)
    | none => .ret (.raised e)) >>= f).run s = _
  rw [h]
  rfl

theorem run_lookup {g : σ → Option α} {e : ε} {s : Session σ} {a : α}
    (h : g (sessionView s.executed s.staged s.db) = some a) :
    (lookup g e).run s = (.returned a, s) := by
  simp only [lookup, run, h]

theorem run_add_bind (ws : List ω) (f : Unit → Program σ ε β) (s : Session σ) :
    (add ws >>= f).run s = (f ()).run { s with staged := s.staged ++ ws } := rfl

theorem run_rollbackAll_bind (f : Unit → Program σ ε β) (s : Session σ) :
    (rollbackAll >>= f).run s = (f ()).run (Session.fresh s.db) := rfl

theorem run_execute_bind {u : CondUpdate σ} {f : Bool → Program σ ε β} {s : Session σ}
    (h : u.guard s.db = true) :
    (execute u >>= f).run s = (f true).run { s with executed := s.executed ++ [u] } := by
  show (if u.guard s.db then (f true).run { s with executed := s.executed ++ [u] }
    else (f false).run s) = _
  rw [if_pos h]

theorem run_commitAll_bind {f : Unit → Program σ ε β} {s : Session σ} {db : σ}
    (h : Store.flush (transactionWrites s.executed s.staged) s.db = some db) :
    ((commitAll : Program σ ε Unit) >>= f).run s = (f ()).run (Session.fresh db) := by
  rw [commitAll_bind]
  simp only [run, h]

/-- A lookup leaves the session as it is. -/
theorem run_lookup_snd (g : σ → Option α) (e : ε) (s : Session σ) :
    ((lookup g e).run s).2 = s := by
  simp only [lookup, run]
  split <;> rfl

theorem run_commitAll {s : Session σ} {db : σ}
    (h : Store.flush (transactionWrites s.executed s.staged) s.db = some db) :
    (commitAll : Program σ ε Unit).run s = (.returned (), Session.fresh db) := by
  simp only [commitAll, run, h]

end Program

/-! ## What a call commits -/

/-- A description of a call: what holds of the rows it read, the statements it executed and the
    changes it staged when it commits, and of its outcome given whether it committed. -/
structure Contract (σ : Type) {ω ρ : Type} [Store σ ω ρ] (ε α : Type) where
  onCommit : List σ → List (CondUpdate σ) → List ω → Prop
  onReturn : Bool → Outcome ε α → Prop

namespace Contract

variable {ε α β : Type}

/-- The contract of a call that commits exactly when it returns: `commit` describes the commit.
    Once committed, the call is sure to return when `stable` holds. -/
def once (commit : List σ → List (CondUpdate σ) → List ω → Prop) (stable : Prop) :
    Contract σ ε α where
  onCommit := commit
  onReturn := fun b o => if b then stable → o.isReturned = true else o.isReturned = false

def comap (f : α → β) (C : Contract σ ε β) : Contract σ ε α where
  onCommit := C.onCommit
  onReturn := fun b o => C.onReturn b (o.map f)

@[simp]
theorem comap_once (f : α → β) (commit : List σ → List (CondUpdate σ) → List ω → Prop)
    (stable : Prop) :
    (once commit stable : Contract σ ε β).comap f = (once commit stable : Contract σ ε α) := by
  simp [comap, once]

end Contract

namespace Program

variable {ε α β : Type}

/-- `p` meets `C` when every path through it does, whatever the committed rows are at each of its
    reads as long as they satisfy `inv`, and whichever of its updates find their row. The rows read
    so far (latest first), the executed statements, the unit of work and whether the call has
    committed are carried along; a call commits at most once. -/
def Meets (inv : σ → Prop) (C : Contract σ ε α) :
    Program σ ε α → List σ → List (CondUpdate σ) → List ω → Bool → Prop
  | .ret o, _, _, _, b => C.onReturn b o
  | .read k, rs, ex, st, b => ∀ s, inv s → (k (sessionView ex st s)).Meets inv C (s :: rs) ex st b
  | .stage ws k, rs, ex, st, b => k.Meets inv C rs ex (st ++ ws) b
  | .exec u k, rs, ex, st, b =>
      (k true).Meets inv C rs (ex ++ [u]) st b ∧ (k false).Meets inv C rs ex st b
        ∧ C.onReturn b .failed
  | .commit k, rs, ex, st, b =>
      b = false ∧ C.onCommit rs ex st ∧ k.Meets inv C rs [] [] true ∧ C.onReturn false .failed
  | .rollback k, rs, _, _, b => k.Meets inv C rs [] [] b

/-- A program that only reads, and raises nothing but exceptions in `E`. -/
def Queries (E : ε → Prop) : Program σ ε α → Prop
  | .ret (.returned _) => True
  | .ret (.raised e) => E e
  | .ret .failed => False
  | .read k => ∀ s, Queries E (k s)
  | _ => False

section Unfolding

variable {inv : σ → Prop} {C : Contract σ ε α} {rs : List σ} {ex : List (CondUpdate σ)}
  {st : List ω} {b : Bool}

theorem meets_ret {o : Outcome ε α} :
    (.ret o : Program σ ε α).Meets inv C rs ex st b ↔ C.onReturn b o := Iff.rfl

theorem meets_read {k : σ → Program σ ε α} : (.read k : Program σ ε α).Meets inv C rs ex st b ↔
    ∀ s, inv s → (k (sessionView ex st s)).Meets inv C (s :: rs) ex st b := Iff.rfl

theorem meets_stage {ws : List ω} {k : Program σ ε α} :
    (.stage ws k : Program σ ε α).Meets inv C rs ex st b ↔ k.Meets inv C rs ex (st ++ ws) b :=
  Iff.rfl

theorem meets_exec {u : CondUpdate σ} {k : Bool → Program σ ε α} :
    (.exec u k : Program σ ε α).Meets inv C rs ex st b ↔
      (k true).Meets inv C rs (ex ++ [u]) st b ∧ (k false).Meets inv C rs ex st b
        ∧ C.onReturn b .failed := Iff.rfl

theorem meets_commit {k : Program σ ε α} : (.commit k : Program σ ε α).Meets inv C rs ex st b ↔
    b = false ∧ C.onCommit rs ex st ∧ k.Meets inv C rs [] [] true ∧ C.onReturn false .failed :=
  Iff.rfl

theorem meets_rollback {k : Program σ ε α} :
    (.rollback k : Program σ ε α).Meets inv C rs ex st b ↔ k.Meets inv C rs [] [] b := Iff.rfl

theorem meets_raise {e : ε} (h : C.onReturn b (.raised e)) :
    (raise e : Program σ ε α).Meets inv C rs ex st b := h

theorem meets_pure {a : α} (h : C.onReturn b (.returned a)) :
    (pure a : Program σ ε α).Meets inv C rs ex st b := h

end Unfolding

theorem Queries.bind {E : ε → Prop} {p : Program σ ε α} {f : α → Program σ ε β}
    (hp : p.Queries E) (hf : ∀ a, (f a).Queries E) : (p >>= f).Queries E := by
  induction p with
  | ret o =>
      cases o with
      | returned a => exact hf a
      | raised e => exact hp
      | failed => exact hp.elim
  | read k ih => exact fun s => ih s (hp s)
  | stage ws k ih => exact hp.elim
  | exec u k ih => exact hp.elim
  | commit k ih => exact hp.elim
  | rollback k ih => exact hp.elim

/-- A program that only reads, and raises nothing, returns and leaves its session as it is. -/
theorem Queries.run_returned {p : Program σ ε α} (hp : p.Queries fun _ => False) (s : Session σ) :
    ∃ a, p.run s = (.returned a, s) := by
  induction p with
  | ret o =>
      cases o with
      | returned a => exact ⟨a, rfl⟩
      | raised e => exact hp.elim
      | failed => exact hp.elim
  | read k ih => exact ih _ (hp _)
  | stage ws k ih => exact hp.elim
  | exec u k ih => exact hp.elim
  | commit k ih => exact hp.elim
  | rollback k ih => exact hp.elim

/-- A prefix that only reads meets any contract its continuation meets. -/
theorem Queries.meets_bind {inv : σ → Prop} {C : Contract σ ε β} {E : ε → Prop}
    {p : Program σ ε α} {f : α → Program σ ε β} {rs : List σ} {ex : List (CondUpdate σ)}
    {st : List ω} {b : Bool} (hp : p.Queries E) (hraise : ∀ e, E e → C.onReturn b (.raised e))
    (hf : ∀ a rs', (f a).Meets inv C (rs' ++ rs) ex st b) : (p >>= f).Meets inv C rs ex st b := by
  induction p generalizing rs with
  | ret o =>
      cases o with
      | returned a => exact hf a []
      | raised e => exact hraise e hp
      | failed => exact hp.elim
  | read k ih =>
      intro s _
      refine ih _ (hp _) fun a rs' => ?_
      have h := hf a (rs' ++ [s])
      rwa [List.append_assoc] at h
  | stage ws k ih => exact hp.elim
  | exec u k ih => exact hp.elim
  | commit k ih => exact hp.elim
  | rollback k ih => exact hp.elim

/-- A row that has to exist: either it is found, or the call raises. -/
theorem meets_lookup_bind {inv : σ → Prop} {C : Contract σ ε β} {g : σ → Option α} {e : ε}
    {f : α → Program σ ε β} {rs : List σ} {ex : List (CondUpdate σ)} {st : List ω} {b : Bool}
    (hnone : ∀ s, inv s → g (sessionView ex st s) = none → C.onReturn b (.raised e))
    (hsome : ∀ s a, inv s → g (sessionView ex st s) = some a →
      (f a).Meets inv C (s :: rs) ex st b) : (lookup g e >>= f).Meets inv C rs ex st b := by
  intro s hs
  show ((match g (sessionView ex st s) with
    | some a => (.ret (.returned a) : Program σ ε α)
    | none => .ret (.raised e)) >>= f).Meets inv C (s :: rs) ex st b
  cases h : g (sessionView ex st s) with
  | none => exact hnone s hs h
  | some a => exact hsome s a hs h

theorem meets_lookup {inv : σ → Prop} {C : Contract σ ε α} {g : σ → Option α} {e : ε}
    {rs : List σ} {ex : List (CondUpdate σ)} {st : List ω} {b : Bool}
    (hnone : ∀ s, inv s → g (sessionView ex st s) = none → C.onReturn b (.raised e))
    (hsome : ∀ a, C.onReturn b (.returned a)) : (lookup g e).Meets inv C rs ex st b := by
  intro s hs
  dsimp only
  split
  · exact hsome _
  · next h => exact hnone s hs h

theorem meets_select_bind {inv : σ → Prop} {C : Contract σ ε β} {g : σ → α}
    {f : α → Program σ ε β} {rs : List σ} {ex : List (CondUpdate σ)} {st : List ω} {b : Bool}
    (h : ∀ s, inv s → (f (g (sessionView ex st s))).Meets inv C (s :: rs) ex st b) :
    (select g >>= f).Meets inv C rs ex st b := h

theorem meets_ofExcept_bind {inv : σ → Prop} {C : Contract σ ε β} {x : Except ε α}
    {f : α → Program σ ε β} {rs : List σ} {ex : List (CondUpdate σ)} {st : List ω} {b : Bool}
    (herror : ∀ e, x = .error e → C.onReturn b (.raised e))
    (hok : ∀ a, x = .ok a → (f a).Meets inv C rs ex st b) :
    (ofExcept x >>= f).Meets inv C rs ex st b := by
  cases h : x with
  | error e => exact herror e h
  | ok a => exact hok a h

theorem meets_add_bind {inv : σ → Prop} {C : Contract σ ε β} {ws : List ω}
    {f : Unit → Program σ ε β} {rs : List σ} {ex : List (CondUpdate σ)} {st : List ω} {b : Bool}
    (h : (f ()).Meets inv C rs ex (st ++ ws) b) : (add ws >>= f).Meets inv C rs ex st b := h

theorem meets_execute_bind {inv : σ → Prop} {C : Contract σ ε β} {u : CondUpdate σ}
    {f : Bool → Program σ ε β} {rs : List σ} {ex : List (CondUpdate σ)} {st : List ω} {b : Bool}
    (htrue : (f true).Meets inv C rs (ex ++ [u]) st b) (hfalse : (f false).Meets inv C rs ex st b)
    (hfailed : C.onReturn b .failed) : (execute u >>= f).Meets inv C rs ex st b :=
  ⟨htrue, hfalse, hfailed⟩

theorem meets_commitAll_bind {inv : σ → Prop} {C : Contract σ ε β} {f : Unit → Program σ ε β}
    {rs : List σ} {ex : List (CondUpdate σ)} {st : List ω} (hcommit : C.onCommit rs ex st)
    (hfailed : C.onReturn false .failed) (h : (f ()).Meets inv C rs [] [] true) :
    (commitAll >>= f).Meets inv C rs ex st false :=
  ⟨rfl, hcommit, h, hfailed⟩

theorem meets_commitAll {inv : σ → Prop} {C : Contract σ ε Unit} {rs : List σ}
    {ex : List (CondUpdate σ)} {st : List ω} (hcommit : C.onCommit rs ex st)
    (hfailed : C.onReturn false .failed) (h : C.onReturn true (.returned ())) :
    (commitAll : Program σ ε Unit).Meets inv C rs ex st false :=
  ⟨rfl, hcommit, h, hfailed⟩

theorem meets_rollbackAll_bind {inv : σ → Prop} {C : Contract σ ε β} {f : Unit → Program σ ε β}
    {rs : List σ} {ex : List (CondUpdate σ)} {st : List ω} {b : Bool}
    (h : (f ()).Meets inv C rs [] [] b) : (rollbackAll >>= f).Meets inv C rs ex st b := h

theorem meets_map {inv : σ → Prop} {C : Contract σ ε β} {f : α → β} {p : Program σ ε α}
    {rs : List σ} {ex : List (CondUpdate σ)} {st : List ω} {b : Bool}
    (h : p.Meets inv (C.comap f) rs ex st b) : (p.map f).Meets inv C rs ex st b := by
  induction p generalizing rs ex st b with
  | ret o => cases o <;> exact h
  | read k ih => exact fun s hs => ih _ (h s hs)
  | stage ws k ih => exact ih h
  | exec u k ih => exact ⟨ih true h.1, ih false h.2.1, h.2.2⟩
  | commit k ih => exact ⟨h.1, h.2.1, ih h.2.2.1, h.2.2.2⟩
  | rollback k ih => exact ih h

/-- What a call that commits exactly when it returns does with its value is irrelevant. -/
theorem meets_map_once {inv : σ → Prop} {commit : List σ → List (CondUpdate σ) → List ω → Prop}
    {stable : Prop} {f : α → β} {p : Program σ ε α} {rs : List σ} {ex : List (CondUpdate σ)}
    {st : List ω} {b : Bool} (h : p.Meets inv (.once commit stable) rs ex st b) :
    (p.map f).Meets inv (.once commit stable) rs ex st b := by
  refine meets_map ?_
  rw [Contract.comap_once]
  exact h

/-- How a call that ran alone in `db` ended: without a commit it left the rows alone, and otherwise
    they are the result of the one transaction its contract describes, all of whose reads saw
    `db`. -/
inductive Ran (C : Contract σ ε α) (db : σ) : Outcome ε α → σ → Prop where
  | quiet (o : Outcome ε α) (h : C.onReturn false o) : Ran C db o db
  | committed (o : Outcome ε α) (h : C.onReturn true o) (reads : List σ)
      (executed : List (CondUpdate σ)) (staged : List ω) (db' : σ)
      (hreads : ∀ s ∈ reads, s = db) (hguards : ∀ u ∈ executed, u.guard db = true)
      (hcommit : C.onCommit reads executed staged)
      (hflush : Store.flush (transactionWrites executed staged) db = some db') : Ran C db o db'

/-- After its commit a call only reads and returns. -/
theorem run_of_meets_committed {inv : σ → Prop} {C : Contract σ ε α} (p : Program σ ε α)
    (rs : List σ) (s : Session σ) (hinv : inv s.db)
    (h : p.Meets inv C rs s.executed s.staged true) :
    C.onReturn true (p.run s).1 ∧ (p.run s).2.db = s.db := by
  induction p generalizing rs s with
  | ret o => exact ⟨h, rfl⟩
  | read k ih => exact ih _ _ s hinv (h s.db hinv)
  | stage ws k ih => exact ih rs { s with staged := s.staged ++ ws } hinv h
  | exec u k ih =>
      obtain ⟨htrue, hfalse, -⟩ := h
      simp only [run]
      split
      · exact ih true rs { s with executed := s.executed ++ [u] } hinv htrue
      · exact ih false rs s hinv hfalse
  | commit k ih => exact absurd h.1 (by simp)
  | rollback k ih => exact ih rs (Session.fresh s.db) hinv h

/-- **A call that runs alone does what its contract says.** -/
theorem run_of_meets {inv : σ → Prop} {C : Contract σ ε α} (p : Program σ ε α)
    (rs : List σ) (s : Session σ) (hinv : inv s.db)
    (hstable : ∀ rs ex st t, (∀ r ∈ rs, r = s.db) → C.onCommit rs ex st →
      (∀ u ∈ ex, u.guard s.db = true) →
      Store.flush (transactionWrites ex st) s.db = some t → inv t)
    (hreads : ∀ r ∈ rs, r = s.db) (hguards : ∀ u ∈ s.executed, u.guard s.db = true)
    (h : p.Meets inv C rs s.executed s.staged false) :
    Ran C s.db (p.run s).1 (p.run s).2.db := by
  induction p generalizing rs s with
  | ret o => exact .quiet o h
  | read k ih =>
      refine ih _ (s.db :: rs) s hinv hstable ?_ hguards (h s.db hinv)
      intro r hr
      rcases List.mem_cons.1 hr with rfl | hr
      · rfl
      · exact hreads r hr
  | stage ws k ih =>
      exact ih rs { s with staged := s.staged ++ ws } hinv hstable hreads hguards h
  | exec u k ih =>
      obtain ⟨htrue, hfalse, -⟩ := h
      simp only [run]
      split
      · next hu =>
          refine ih true rs { s with executed := s.executed ++ [u] } hinv hstable hreads ?_ htrue
          intro v hv
          rcases List.mem_append.1 hv with hv | hv
          · exact hguards v hv
          · rw [List.mem_singleton.1 hv]; exact hu
      · exact ih false rs s hinv hstable hreads hguards hfalse
  | commit k ih =>
      obtain ⟨-, hcommit, hk, hfailed⟩ := h
      simp only [run]
      split
      · next db hflush =>
          have hdb : inv db := hstable _ _ _ _ hreads hcommit hguards hflush
          obtain ⟨hret, hsame⟩ := run_of_meets_committed k rs (Session.fresh db) hdb hk
          rw [hsame]
          exact .committed _ hret rs _ _ db hreads hguards hcommit hflush
      · exact .quiet _ hfailed
  | rollback k ih =>
      exact ih rs (Session.fresh s.db) hinv hstable hreads (by simp [Session.fresh]) h

/-- The rule for a fresh session: the call's effect on the committed rows. -/
theorem runDb_of_meets {inv : σ → Prop} {C : Contract σ ε α} {p : Program σ ε α} {db : σ}
    (hinv : inv db)
    (hstable : ∀ rs ex st t, (∀ r ∈ rs, r = db) → C.onCommit rs ex st →
      (∀ u ∈ ex, u.guard db = true) →
      Store.flush (transactionWrites ex st) db = some t → inv t)
    (h : p.Meets inv C [] [] [] false) :
    Ran C db (p.run (Session.fresh db)).1 (p.runDb db) :=
  run_of_meets p [] (Session.fresh db) hinv hstable (by simp) (by simp [Session.fresh]) h

-- programs are reasoned about by the rules above, never by unfolding a whole call
attribute [irreducible] Meets

end Program

end VulnOpsHub
