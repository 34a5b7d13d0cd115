import VulnOpsHub.Lib.Program
import Mathlib.Data.List.Nodup

set_option autoImplicit false

/-! # Interleaved session programs

Any number of calls, each in a session of its own, over one store at read-committed isolation: a
read sees the committed rows, a conditional UPDATE is evaluated against the committed row and locks
it until its transaction ends, and a commit flushes the writes of one call at once. A statement
that needs a row locked by another session waits. The database may also refuse a statement (a
deadlock victim, a lost connection): the call then fails and its transaction is gone.

`System.log` records every commit. The rule of this module is `Reachable.valid`: if each call meets
its contract on its own (`Program.Meets`), then in every interleaving each recorded commit is the
one its contract describes, the guards of its conditional updates hold of the rows it overwrites,
and the rows it read are related to the rows it started from and to those it overwrites by any
preorder that all commits respect. -/

namespace VulnOpsHub

variable {σ ω ρ : Type} [Store σ ω ρ] {κ ε α : Type}

/-- A call in progress. `started`, `reads`, `committed` are ghosts: the committed rows when it was
    issued, those at its reads (latest first), and whether it has committed. -/
structure Thread (σ : Type) {ω ρ : Type} [Store σ ω ρ] (κ ε α : Type) where
  call : κ
  started : σ
  prog : Program σ ε α
  reads : List σ
  executed : List (CondUpdate σ)
  staged : List ω
  committed : Bool

namespace Thread

def init (body : κ → Program σ ε α) (c : κ) (db : σ) : Thread σ κ ε α :=
  ⟨c, db, body c, [], [], [], false⟩

/-- Rows locked by the updates executed in the open transaction. -/
def locks (t : Thread σ κ ε α) : List ρ := t.executed.map (·.row)

/-- The call after the database refused its statement. -/
def fail (t : Thread σ κ ε α) : Thread σ κ ε α :=
  { t with prog := .ret .failed, executed := [], staged := [] }

end Thread

/-- One commit: the thread, what it had read and written, the rows before and after. -/
structure CommitRecord (σ : Type) {ω ρ : Type} [Store σ ω ρ] (κ : Type) where
  thread : ℕ
  call : κ
  started : σ
  reads : List σ
  executed : List (CondUpdate σ)
  staged : List ω
  before : σ
  after : σ

/-- The committed rows, the calls issued so far (by number) and the commits, latest first. -/
structure System (σ : Type) {ω ρ : Type} [Store σ ω ρ] (κ ε α : Type) where
  db : σ
  threads : List (Thread σ κ ε α)
  log : List (CommitRecord σ κ)

/-- A scheduler's choice: issue a call, run the next statement of a call, or let the database
    refuse it. -/
inductive Event (κ : Type) where
  | start (c : κ)
  | run (i : ℕ)
  | abort (i : ℕ)
deriving DecidableEq, Repr

namespace System

def init (db : σ) : System σ κ ε α := ⟨db, [], []⟩

def setThread (s : System σ κ ε α) (i : ℕ) (t : Thread σ κ ε α) : System σ κ ε α :=
  { s with threads := s.threads.set i t }

variable [DecidableEq ρ]

/-- Some call other than `i` holds the lock of row `r`. -/
def lockedByOther (s : System σ κ ε α) (i : ℕ) (r : ρ) : Bool :=
  s.threads.zipIdx.any fun tj => tj.2 != i && decide (r ∈ tj.1.locks)

/-- The next statement of call `i`, when it need not wait. -/
def runThread (s : System σ κ ε α) (i : ℕ) (t : Thread σ κ ε α) : Option (System σ κ ε α) :=
  match t.prog with
  | .ret _ => none
  | .read k =>
      some (s.setThread i
        { t with prog := k (sessionView t.executed t.staged s.db), reads := s.db :: t.reads })
  | .stage ws k => some (s.setThread i { t with prog := k, staged := t.staged ++ ws })
  | .exec u k =>
      if s.lockedByOther i u.row then none
      else if u.guard s.db then
        some (s.setThread i { t with prog := k true, executed := t.executed ++ [u] })
      else some (s.setThread i { t with prog := k false })
  | .commit k =>
      if (t.staged.flatMap (Store.touches σ)).any (s.lockedByOther i) then none
      else
        match Store.flush (transactionWrites t.executed t.staged) s.db with
        | none => some (s.setThread i t.fail)
        | some db =>
            some
              { db := db
                threads := s.threads.set i
                  { t with prog := k, executed := [], staged := [], committed := true }
                log := ⟨i, t.call, t.started, t.reads, t.executed, t.staged, s.db, db⟩ :: s.log }
  | .rollback k => some (s.setThread i { t with prog := k, executed := [], staged := [] })

/-- The database refuses the statement call `i` has to execute. -/
def abortThread (s : System σ κ ε α) (i : ℕ) (t : Thread σ κ ε α) : Option (System σ κ ε α) :=
  match t.prog with
  | .exec _ _ => some (s.setThread i t.fail)
  | .commit _ => some (s.setThread i t.fail)
  | _ => none

def step (body : κ → Program σ ε α) (s : System σ κ ε α) : Event κ → Option (System σ κ ε α)
  | .start c => some { s with threads := s.threads ++ [Thread.init body c s.db] }
  | .run i => (s.threads[i]?).bind (s.runThread i)
  | .abort i => (s.threads[i]?).bind (s.abortThread i)

/-- Run a schedule. -/
def runEvents (body : κ → Program σ ε α) : System σ κ ε α → List (Event κ) →
    Option (System σ κ ε α)
  | s, [] => some s
  | s, e :: es => (s.step body e).bind fun s' => runEvents body s' es

end System

/-- The calls of a protocol, when each may be issued, and what its runs may rely on of each
    commit. -/
structure Protocol (σ : Type) {ω ρ : Type} [Store σ ω ρ] (κ ε α : Type) where
  body : κ → Program σ ε α
  allows : σ → κ → Prop
  rely : CommitRecord σ κ → Prop

/-- The states any schedule of allowed calls reaches from the rows `db₀`, as long as its commits are
    such as the protocol relies on. -/
inductive Reachable [DecidableEq ρ] (P : Protocol σ κ ε α) (db₀ : σ) : System σ κ ε α → Prop where
  | init : Reachable P db₀ (System.init db₀)
  | step {s s' : System σ κ ε α} (e : Event κ) (hs : Reachable P db₀ s)
      (hallows : ∀ c, e = .start c → P.allows s.db c) (hstep : s.step P.body e = some s')
      (hrely : ∀ r ∈ s'.log, P.rely r) : Reachable P db₀ s'

namespace System

/-- The log only grows. -/
theorem mem_log_step [DecidableEq ρ] {body : κ → Program σ ε α} {s s' : System σ κ ε α}
    {e : Event κ} (h : s.step body e = some s') : ∀ r ∈ s.log, r ∈ s'.log := by
  intro r hr
  cases e with
  | start c => cases h; exact hr
  | run i =>
      obtain ⟨t, -, hrun⟩ := Option.bind_eq_some_iff.1 h
      unfold runThread at hrun
      split at hrun
      · cases hrun
      · cases hrun; exact hr
      · cases hrun; exact hr
      · split at hrun
        · cases hrun
        · split at hrun <;> cases hrun <;> exact hr
      · split at hrun
        · cases hrun
        · split at hrun
          · cases hrun; exact hr
          · cases hrun; exact List.mem_cons_of_mem _ hr
      · cases hrun; exact hr
  | abort i =>
      obtain ⟨t, -, hrun⟩ := Option.bind_eq_some_iff.1 h
      unfold abortThread at hrun
      split at hrun <;> cases hrun <;> exact hr

theorem mem_log_runEvents [DecidableEq ρ] {body : κ → Program σ ε α} (es : List (Event κ))
    {s s' : System σ κ ε α} (h : s.runEvents body es = some s') : ∀ r ∈ s.log, r ∈ s'.log := by
  induction es generalizing s with
  | nil => cases h; exact fun _ hr => hr
  | cons e es ih =>
      obtain ⟨s₁, hstep, hrest⟩ := Option.bind_eq_some_iff.1 h
      exact fun r hr => ih hrest r (mem_log_step hstep r hr)

end System

/-- A schedule all of whose calls are allowed wherever they are issued. -/
theorem Reachable.of_runEvents [DecidableEq ρ] {P : Protocol σ κ ε α} {db₀ : σ}
    (es : List (Event κ)) {s s' : System σ κ ε α} (hs : Reachable P db₀ s)
    (hallows : ∀ db c, Event.start c ∈ es → P.allows db c)
    (h : s.runEvents P.body es = some s') (hrely : ∀ r ∈ s'.log, P.rely r) :
    Reachable P db₀ s' := by
  induction es generalizing s with
  | nil => cases h; exact hs
  | cons e es ih =>
      obtain ⟨s₁, hstep, hrest⟩ := Option.bind_eq_some_iff.1 h
      refine ih (.step e hs ?_ hstep ?_) (fun db c hc => ?_) hrest
      · rintro c rfl
        exact hallows _ c List.mem_cons_self
      · exact fun r hr => hrely r (System.mem_log_runEvents es hrest r hr)
      · exact hallows db c (List.mem_cons_of_mem _ hc)

/-! ## Proof outlines -/

/-- What is to be shown of a protocol: an invariant of the committed rows, a preorder that every
    commit respects, and a contract for each call. -/
structure Outline (σ : Type) {ω ρ : Type} [Store σ ω ρ] (κ ε α : Type) where
  inv : σ → Prop
  rel : σ → σ → Prop
  contract : κ → Contract σ ε α
  rel_refl : ∀ s, rel s s
  rel_trans : ∀ {s t u}, rel s t → rel t u → rel s u

/-- A commit is the one its contract describes, made over rows that satisfy the invariant and the
    guards of its conditional updates, by a call whose reads lie between its start and now. -/
structure CommitRecord.Valid (P : Protocol σ κ ε α) (O : Outline σ κ ε α) (r : CommitRecord σ κ) :
    Prop where
  allowed : P.allows r.started r.call
  assumed : P.rely r
  started_rel : O.rel r.started r.before
  reads_rel : ∀ s ∈ r.reads, O.rel r.started s ∧ O.rel s r.before
  reads_inv : ∀ s ∈ r.reads, O.inv s
  inv_before : O.inv r.before
  guards : ∀ u ∈ r.executed, u.guard r.before = true
  onCommit : (O.contract r.call).onCommit r.reads r.executed r.staged
  flushed : Store.flush (transactionWrites r.executed r.staged) r.before = some r.after

/-- The outline is proved: calls meet their contracts, and commits that do keep the invariant and
    respect the preorder. -/
structure Outline.Proved (P : Protocol σ κ ε α) (O : Outline σ κ ε α) : Prop where
  meets : ∀ s c, P.allows s c → (P.body c).Meets O.inv (O.contract c) [] [] [] false
  inv_after : ∀ r : CommitRecord σ κ, r.Valid P O → O.inv r.after
  rel_after : ∀ r : CommitRecord σ κ, r.Valid P O → O.rel r.before r.after

/-- `log` (latest first) is a chain of commits leading from `db₀` to `db`. -/
def Linked (db₀ : σ) : List (CommitRecord σ κ) → σ → Prop
  | [], db => db = db₀
  | r :: log, db => db = r.after ∧ Linked db₀ log r.before

/-- A call in progress is somewhere on a path its contract allows, and nobody has overwritten a row
    its open transaction has locked. -/
structure Thread.Valid (P : Protocol σ κ ε α) (O : Outline σ κ ε α) (db : σ)
    (t : Thread σ κ ε α) : Prop where
  allowed : P.allows t.started t.call
  started_rel : O.rel t.started db
  reads_rel : ∀ s ∈ t.reads, O.rel t.started s ∧ O.rel s db
  reads_inv : ∀ s ∈ t.reads, O.inv s
  guards : ∀ u ∈ t.executed, u.guard db = true
  meets : t.prog.Meets O.inv (O.contract t.call) t.reads t.executed t.staged t.committed

/-- The invariant of a run. -/
structure System.Valid (P : Protocol σ κ ε α) (O : Outline σ κ ε α) (db₀ : σ)
    (s : System σ κ ε α) : Prop where
  inv : O.inv s.db
  threads : ∀ (i : ℕ) (t : Thread σ κ ε α), s.threads[i]? = some t → t.Valid P O s.db
  locks : ∀ (i j : ℕ) (t u : Thread σ κ ε α), s.threads[i]? = some t → s.threads[j]? = some u →
    i ≠ j → ∀ r ∈ t.locks, r ∉ u.locks
  log : ∀ r ∈ s.log, r.Valid P O
  linked : Linked db₀ s.log s.db
  committed : ∀ (i : ℕ) (t : Thread σ κ ε α), s.threads[i]? = some t →
    (t.committed = true ↔ ∃ r ∈ s.log, r.thread = i)
  calls : ∀ r ∈ s.log, ∃ t, s.threads[r.thread]? = some t ∧ t.call = r.call
  once : (s.log.map (·.thread)).Nodup

/-! ## Steps keep the invariant -/

theorem getElem?_set_cases {β : Type} {l : List β} {i j : ℕ} {a b : β}
    (h : (l.set i a)[j]? = some b) : (j = i ∧ b = a) ∨ (j ≠ i ∧ l[j]? = some b) := by
  rw [List.getElem?_set] at h
  split at h
  · next hij =>
      split at h
      · exact Or.inl ⟨hij.symm, (Option.some.inj h).symm⟩
      · cases h
  · next hij => exact Or.inr ⟨fun he => hij he.symm, h⟩

section Steps

variable {P : Protocol σ κ ε α} {O : Outline σ κ ε α} {db₀ : σ}

/-- A row locked by another call is reported as such. -/
theorem System.mem_locks_of_not_lockedByOther [DecidableEq ρ] {s : System σ κ ε α} {i j : ℕ}
    {r : ρ} {t : Thread σ κ ε α} (h : s.lockedByOther i r = false) (ht : s.threads[j]? = some t)
    (hij : j ≠ i) : r ∉ t.locks := by
  intro hr
  have hmem : (t, j) ∈ s.threads.zipIdx := List.mk_mem_zipIdx_iff_getElem?.2 ht
  have hany : s.lockedByOther i r = true :=
    List.any_eq_true.2 ⟨(t, j), hmem, by simp [hij, hr]⟩
  rw [h] at hany
  cases hany

/-- A thread is valid over any rows that leave its locked rows alone. -/
theorem Thread.Valid.frame {db db' : σ} {t : Thread σ κ ε α} (h : t.Valid P O db)
    (hrel : O.rel db db') (hsame : ∀ r ∈ t.locks, Store.Same r db db') : t.Valid P O db' where
  allowed := h.allowed
  started_rel := O.rel_trans h.started_rel hrel
  reads_rel := fun s hs => ⟨(h.reads_rel s hs).1, O.rel_trans (h.reads_rel s hs).2 hrel⟩
  reads_inv := h.reads_inv
  guards := fun u hu => by
    rw [← u.guard_congr (hsame u.row (List.mem_map_of_mem hu))]
    exact h.guards u hu
  meets := h.meets

/-- A call keeps its place in the list of threads. -/
theorem System.Valid.calls_set {s : System σ κ ε α} (hs : s.Valid P O db₀) {i : ℕ}
    {t t' : Thread σ κ ε α} (ht : s.threads[i]? = some t) (hcall : t'.call = t.call) :
    ∀ r ∈ s.log, ∃ u, (s.threads.set i t')[r.thread]? = some u ∧ u.call = r.call := by
  intro r hr
  obtain ⟨u, hu, hucall⟩ := hs.calls r hr
  by_cases hi : r.thread = i
  · have hlt : i < s.threads.length := (List.getElem?_eq_some_iff.1 ht).1
    refine ⟨t', by rw [hi, List.getElem?_set_self hlt], ?_⟩
    rw [hi, ht] at hu
    rw [hcall, Option.some.inj hu]
    exact hucall
  · exact ⟨u, by rw [List.getElem?_set_ne (fun he => hi he.symm)]; exact hu, hucall⟩

/-- A step that only moves call `i` on keeps the invariant. -/
theorem System.Valid.setThread {s : System σ κ ε α} (hs : s.Valid P O db₀) {i : ℕ}
    {t t' : Thread σ κ ε α} (ht : s.threads[i]? = some t) (hcall : t'.call = t.call)
    (hcommitted : t'.committed = t.committed) (hvalid : t'.Valid P O s.db)
    (hlocks : ∀ (j : ℕ) (u : Thread σ κ ε α), s.threads[j]? = some u → j ≠ i →
      ∀ r ∈ t'.locks, r ∉ u.locks) :
    (s.setThread i t').Valid P O db₀ where
  inv := hs.inv
  threads := fun j u hu => by
    rcases getElem?_set_cases hu with ⟨-, rfl⟩ | ⟨-, hu⟩
    · exact hvalid
    · exact hs.threads j u hu
  locks := fun j k u v hu hv hjk r hr => by
    rcases getElem?_set_cases hu with ⟨rfl, rfl⟩ | ⟨hj, hu'⟩
    · rcases getElem?_set_cases hv with ⟨rfl, rfl⟩ | ⟨hk, hv'⟩
      · exact absurd rfl hjk
      · exact hlocks k v hv' hk r hr
    · rcases getElem?_set_cases hv with ⟨rfl, rfl⟩ | ⟨-, hv'⟩
      · exact fun hr' => hlocks j u hu' hj r hr' hr
      · exact hs.locks j k u v hu' hv' hjk r hr
  log := hs.log
  linked := hs.linked
  committed := fun j u hu => by
    rcases getElem?_set_cases hu with ⟨rfl, rfl⟩ | ⟨-, hu⟩
    · rw [hcommitted]; exact hs.committed j t ht
    · exact hs.committed j u hu
  calls := hs.calls_set ht hcall
  once := hs.once

/-- The database's refusal leaves nothing of the call behind. -/
theorem System.Valid.fail {s : System σ κ ε α} (hs : s.Valid P O db₀) {i : ℕ}
    {t : Thread σ κ ε α} (ht : s.threads[i]? = some t)
    (hret : (O.contract t.call).onReturn t.committed .failed) :
    (s.setThread i t.fail).Valid P O db₀ := by
  have hv := hs.threads i t ht
  refine hs.setThread ht rfl rfl ?_ (fun _ _ _ _ r hr => by simp [Thread.fail, Thread.locks] at hr)
  exact ⟨hv.allowed, hv.started_rel, hv.reads_rel, hv.reads_inv, by simp [Thread.fail],
    Program.meets_ret.2 hret⟩

/-- Issuing a call. -/
theorem System.Valid.start {s : System σ κ ε α} (hP : O.Proved P) (hs : s.Valid P O db₀) {c : κ}
    (hallows : P.allows s.db c) :
    System.Valid P O db₀ { s with threads := s.threads ++ [Thread.init P.body c s.db] } := by
  have hcases : ∀ (j : ℕ) (u : Thread σ κ ε α),
      (s.threads ++ [Thread.init P.body c s.db])[j]? = some u →
      s.threads[j]? = some u ∨ (j = s.threads.length ∧ u = Thread.init P.body c s.db) := by
    intro j u hu
    rw [List.getElem?_append] at hu
    split at hu
    · exact Or.inl hu
    · next hj =>
        rw [List.getElem?_singleton] at hu
        split at hu
        · exact Or.inr ⟨by omega, (Option.some.inj hu).symm⟩
        · cases hu
  refine ⟨hs.inv, ?_, ?_, hs.log, hs.linked, ?_, ?_, hs.once⟩
  · intro j u hu
    rcases hcases j u hu with hu | ⟨-, rfl⟩
    · exact hs.threads j u hu
    · exact ⟨hallows, O.rel_refl _, by simp [Thread.init], by simp [Thread.init],
        by simp [Thread.init], hP.meets _ _ hallows⟩
  · intro j k u v hu hv hjk r hr
    rcases hcases j u hu with hu | ⟨-, rfl⟩
    · rcases hcases k v hv with hv | ⟨-, rfl⟩
      · exact hs.locks j k u v hu hv hjk r hr
      · simp [Thread.init, Thread.locks]
    · simp [Thread.init, Thread.locks] at hr
  · intro j u hu
    rcases hcases j u hu with hu | ⟨rfl, rfl⟩
    · exact hs.committed j u hu
    · constructor
      · intro h; simp [Thread.init] at h
      · -- no commit is recorded for a call that has just been issued
        rintro ⟨r, hr, hrthread⟩
        obtain ⟨u, hu, -⟩ := hs.calls r hr
        have hlt := (List.getElem?_eq_some_iff.1 hu).1
        omega
  · intro r hr
    obtain ⟨u, hu, hucall⟩ := hs.calls r hr
    have hlt := (List.getElem?_eq_some_iff.1 hu).1
    exact ⟨u, by
      show (s.threads ++ [Thread.init P.body c s.db])[r.thread]? = some u
      rw [List.getElem?_append_left hlt]; exact hu, hucall⟩

theorem System.Valid.abortThread {s s' : System σ κ ε α} (hs : s.Valid P O db₀) {i : ℕ}
    {t : Thread σ κ ε α} (ht : s.threads[i]? = some t)
    (h : s.abortThread i t = some s') : s'.Valid P O db₀ := by
  have hmeets := (hs.threads i t ht).meets
  unfold System.abortThread at h
  split at h
  · next hprog =>
      cases h
      rw [hprog, Program.meets_exec] at hmeets
      exact hs.fail ht hmeets.2.2
  · next hprog =>
      cases h
      rw [hprog, Program.meets_commit] at hmeets
      refine hs.fail ht ?_
      rw [hmeets.1]; exact hmeets.2.2.2
  · cases h

variable [DecidableEq ρ]

/-- A row locked by another call is touched neither by an executed update nor by a staged change. -/
theorem System.Valid.same_of_locked {s : System σ κ ε α} (hs : s.Valid P O db₀) {i j : ℕ}
    {t u : Thread σ κ ε α} {db : σ} (ht : s.threads[i]? = some t) (hu : s.threads[j]? = some u)
    (hj : j ≠ i) (hfree : (t.staged.flatMap (Store.touches σ)).any (s.lockedByOther i) = false)
    (hflush : Store.flush (transactionWrites t.executed t.staged) s.db = some db) :
    ∀ r ∈ u.locks, Store.Same r s.db db := by
  intro r hr
  refine Store.flush_same hflush ?_
  intro w hw hrw
  rcases List.mem_append.1 hw with hw | hw
  · obtain ⟨v, hvmem, rfl⟩ := List.mem_map.1 hw
    rw [v.touches_write] at hrw
    have hrv : r ∈ t.locks := by
      rw [List.mem_singleton.1 hrw]; exact List.mem_map_of_mem hvmem
    exact hs.locks j i u t hu ht hj r hr hrv
  · have hfree' := List.any_eq_false.1 hfree r (List.mem_flatMap.2 ⟨w, hw, hrw⟩)
    exact System.mem_locks_of_not_lockedByOther (by simpa using hfree') hu hj hr

/-- A commit that the database accepts. -/
theorem System.Valid.commit {s : System σ κ ε α} (hP : O.Proved P) (hs : s.Valid P O db₀) {i : ℕ}
    {t : Thread σ κ ε α} {k : Program σ ε α} {db : σ} (ht : s.threads[i]? = some t)
    (hprog : t.prog = .commit k)
    (hrely : P.rely ⟨i, t.call, t.started, t.reads, t.executed, t.staged, s.db, db⟩)
    (hfree : (t.staged.flatMap (Store.touches σ)).any (s.lockedByOther i) = false)
    (hflush : Store.flush (transactionWrites t.executed t.staged) s.db = some db) :
    System.Valid P O db₀
      { db := db
        threads := s.threads.set i
          { t with prog := k, executed := [], staged := [], committed := true }
        log := ⟨i, t.call, t.started, t.reads, t.executed, t.staged, s.db, db⟩ :: s.log } := by
  have hv := hs.threads i t ht
  have hmeets := hv.meets
  rw [hprog, Program.meets_commit] at hmeets
  obtain ⟨hfirst, hcommit, hk, -⟩ := hmeets
  have hrec : CommitRecord.Valid P O
      ⟨i, t.call, t.started, t.reads, t.executed, t.staged, s.db, db⟩ :=
    ⟨hv.allowed, hrely, hv.started_rel, hv.reads_rel, hv.reads_inv, hs.inv, hv.guards, hcommit,
      hflush⟩
  have hinv : O.inv db := hP.inv_after _ hrec
  have hrel : O.rel s.db db := hP.rel_after _ hrec
  refine ⟨hinv, ?_, ?_, ?_, ⟨rfl, hs.linked⟩, ?_, ?_, ?_⟩
  · intro j u hu
    rcases getElem?_set_cases hu with ⟨-, rfl⟩ | ⟨hj, hu⟩
    · exact ⟨hv.allowed, O.rel_trans hv.started_rel hrel,
        fun x hx => ⟨(hv.reads_rel x hx).1, O.rel_trans (hv.reads_rel x hx).2 hrel⟩, hv.reads_inv,
        by simp, hk⟩
    · exact (hs.threads j u hu).frame hrel (hs.same_of_locked ht hu hj hfree hflush)
  · intro j k' u v hu hv' hjk r hr
    rcases getElem?_set_cases hu with ⟨-, rfl⟩ | ⟨-, hu⟩
    · simp [Thread.locks] at hr
    · rcases getElem?_set_cases hv' with ⟨-, rfl⟩ | ⟨-, hv'⟩
      · simp [Thread.locks]
      · exact hs.locks j k' u v hu hv' hjk r hr
  · intro r hr
    rcases List.mem_cons.1 hr with rfl | hr
    · exact hrec
    · exact hs.log r hr
  · intro j u hu
    rcases getElem?_set_cases hu with ⟨rfl, rfl⟩ | ⟨hj, hu⟩
    · exact ⟨fun _ => ⟨_, List.mem_cons_self, rfl⟩, fun _ => rfl⟩
    · rw [hs.committed j u hu]
      constructor
      · rintro ⟨r, hr, hrj⟩; exact ⟨r, List.mem_cons_of_mem _ hr, hrj⟩
      · rintro ⟨r, hr, hrj⟩
        rcases List.mem_cons.1 hr with rfl | hr
        · exact absurd hrj.symm hj
        · exact ⟨r, hr, hrj⟩
  · intro r hr
    rcases List.mem_cons.1 hr with rfl | hr
    · exact ⟨_, List.getElem?_set_self (List.getElem?_eq_some_iff.1 ht).1, rfl⟩
    · exact hs.calls_set ht (by rfl) r hr
  · -- the call had not committed before
    refine List.nodup_cons.2 ⟨?_, hs.once⟩
    intro hmem
    obtain ⟨r, hr, hri⟩ := List.mem_map.1 hmem
    have : t.committed = true := (hs.committed i t ht).2 ⟨r, hr, hri⟩
    rw [hfirst] at this
    cases this

/-- The next statement of a call keeps the invariant. -/
theorem System.Valid.runThread {s s' : System σ κ ε α} (hP : O.Proved P) (hs : s.Valid P O db₀)
    {i : ℕ} {t : Thread σ κ ε α} (ht : s.threads[i]? = some t)
    (h : s.runThread i t = some s') (hrely : ∀ r ∈ s'.log, P.rely r) : s'.Valid P O db₀ := by
  have hv := hs.threads i t ht
  have hmeets := hv.meets
  have hkeep : ∀ (j : ℕ) (u : Thread σ κ ε α), s.threads[j]? = some u → j ≠ i →
      ∀ r ∈ t.locks, r ∉ u.locks :=
    fun j u hu hj r hr => hs.locks i j t u ht hu (fun he => hj he.symm) r hr
  unfold System.runThread at h
  split at h
  · cases h
  · -- a read sees the committed rows
    next k hprog =>
      cases h
      rw [hprog, Program.meets_read] at hmeets
      refine hs.setThread ht rfl rfl ⟨hv.allowed, hv.started_rel, ?_, ?_, hv.guards,
        hmeets s.db hs.inv⟩ hkeep
      · intro x hx
        rcases List.mem_cons.1 hx with rfl | hx
        · exact ⟨hv.started_rel, O.rel_refl _⟩
        · exact hv.reads_rel x hx
      · intro x hx
        rcases List.mem_cons.1 hx with rfl | hx
        · exact hs.inv
        · exact hv.reads_inv x hx
  · next ws k hprog =>
      cases h
      rw [hprog, Program.meets_stage] at hmeets
      exact hs.setThread ht rfl rfl
        ⟨hv.allowed, hv.started_rel, hv.reads_rel, hv.reads_inv, hv.guards, hmeets⟩ hkeep
  · next u k hprog =>
      rw [hprog, Program.meets_exec] at hmeets
      obtain ⟨htrue, hfalse, -⟩ := hmeets
      split at h
      · cases h
      · next hfree =>
          have hfree' : s.lockedByOther i u.row = false := by simpa using hfree
          split at h
          · -- the update found its row and locks it
            next hguard =>
              cases h
              refine hs.setThread ht rfl rfl ⟨hv.allowed, hv.started_rel, hv.reads_rel,
                hv.reads_inv, ?_, htrue⟩ ?_
              · intro v hvmem
                rcases List.mem_append.1 hvmem with hvmem | hvmem
                · exact hv.guards v hvmem
                · rw [List.mem_singleton.1 hvmem]; exact hguard
              · intro j w hw hj r hr
                simp only [Thread.locks, List.map_append, List.mem_append, List.map_cons,
                  List.map_nil, List.mem_singleton] at hr
                rcases hr with hr | rfl
                · exact hkeep j w hw hj r hr
                · exact System.mem_locks_of_not_lockedByOther hfree' hw hj
          · cases h
            exact hs.setThread ht rfl rfl
              ⟨hv.allowed, hv.started_rel, hv.reads_rel, hv.reads_inv, hv.guards, hfalse⟩ hkeep
  · next k hprog =>
      split at h
      · cases h
      · next hfree =>
          split at h
          · cases h
            rw [hprog, Program.meets_commit] at hmeets
            refine hs.fail ht ?_
            rw [hmeets.1]; exact hmeets.2.2.2
          · next db hflush =>
              cases h
              exact hs.commit hP ht hprog (hrely _ List.mem_cons_self) (by simpa using hfree) hflush
  · next k hprog =>
      cases h
      rw [hprog, Program.meets_rollback] at hmeets
      exact hs.setThread ht rfl rfl
        ⟨hv.allowed, hv.started_rel, hv.reads_rel, hv.reads_inv, by simp, hmeets⟩
        (fun _ _ _ _ r hr => by simp [Thread.locks] at hr)

/-- **Calls that meet their contracts on their own meet them in every interleaving.** -/
theorem Reachable.valid (hP : O.Proved P) (h₀ : O.inv db₀) {s : System σ κ ε α}
    (h : Reachable P db₀ s) : s.Valid P O db₀ := by
  induction h with
  | init => exact ⟨h₀, by simp [System.init], by simp [System.init], by simp [System.init], rfl,
      by simp [System.init], by simp [System.init], by simp [System.init]⟩
  | step e hs hallows hstep hrely ih =>
      cases e with
      | start c => cases hstep; exact ih.start hP (hallows c rfl)
      | run i =>
          obtain ⟨t, ht, hrun⟩ := Option.bind_eq_some_iff.1 hstep
          exact ih.runThread hP ht hrun hrely
      | abort i =>
          obtain ⟨t, ht, hrun⟩ := Option.bind_eq_some_iff.1 hstep
          exact ih.abortThread ht hrun

end Steps

/-! ## Reading the log -/

/-- The commit writes row `ref`. -/
def CommitRecord.Writes (r : CommitRecord σ κ) (ref : ρ) : Prop :=
  ∃ w ∈ transactionWrites r.executed r.staged, ref ∈ Store.touches σ w

instance [DecidableEq ρ] (r : CommitRecord σ κ) (ref : ρ) : Decidable (r.Writes ref) :=
  inferInstanceAs (Decidable (∃ w ∈ transactionWrites r.executed r.staged, ref ∈ Store.touches σ w))

section Log

variable {P : Protocol σ κ ε α} {O : Outline σ κ ε α} {db₀ : σ}

theorem CommitRecord.Valid.same {r : CommitRecord σ κ} (hr : r.Valid P O) {ref : ρ}
    (hw : ¬ r.Writes ref) : Store.Same ref r.before r.after :=
  Store.flush_same hr.flushed fun w hmem href => hw ⟨w, hmem, href⟩

/-- A call that returned where its contract lets only committed calls return has a commit. -/
theorem System.Valid.exists_commit {s : System σ κ ε α} (hs : s.Valid P O db₀) {i : ℕ}
    {t : Thread σ κ ε α} {o : Outcome ε α} (ht : s.threads[i]? = some t) (hprog : t.prog = .ret o)
    (hnot : ¬ (O.contract t.call).onReturn false o) :
    ∃ r ∈ s.log, r.thread = i ∧ r.call = t.call := by
  have hmeets := (hs.threads i t ht).meets
  rw [hprog, Program.meets_ret] at hmeets
  cases hcommitted : t.committed with
  | false =>
      rw [hcommitted] at hmeets
      exact absurd hmeets hnot
  | true =>
      obtain ⟨r, hr, hri⟩ := (hs.committed i t ht).1 hcommitted
      obtain ⟨u, hu, hcall⟩ := hs.calls r hr
      rw [hri, ht] at hu
      rw [← Option.some.inj hu] at hcall
      exact ⟨r, hr, hri, hcall.symm⟩

/-- A call that ended as its contract lets no committed call end has no commit. -/
theorem System.Valid.no_commit {s : System σ κ ε α} (hs : s.Valid P O db₀) {i : ℕ}
    {t : Thread σ κ ε α} {o : Outcome ε α} (ht : s.threads[i]? = some t) (hprog : t.prog = .ret o)
    (hnot : ¬ (O.contract t.call).onReturn true o) : ∀ r ∈ s.log, r.thread ≠ i := by
  intro r hr hri
  have hmeets := (hs.threads i t ht).meets
  rw [hprog, Program.meets_ret, (hs.committed i t ht).2 ⟨r, hr, hri⟩] at hmeets
  exact hnot hmeets

end Log

end VulnOpsHub
