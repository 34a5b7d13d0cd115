import VulnOpsHub.Lib.Program
import Mathlib.Data.List.Chain

set_option autoImplicit false

/-! # Calls that commit several times

`Program.Meets` describes a call with one commit. A worker commits again and again, and between two
of its statements others may have written. `Program.Wp rely guar p Q s` says that from the session
`s`, whatever others do within `rely` in between, each commit of `p` relates the rows before it to
the rows after it by `guar`, and `p` ends in `Q`. The rows of `s` are those the call saw last.

For a call that runs alone `rely` is any reflexive relation: its commits are a chain of `guar`
(`isChain_commits`), whose members are the states a crash can leave, and its run ends in `Q`
(`wp_run`). -/

namespace VulnOpsHub

variable {σ ω ρ : Type} [Store σ ω ρ]

namespace Program

variable {ε α β : Type}

/-- The weakest precondition of a call under interference. -/
def Wp (rely guar : σ → σ → Prop) :
    Program σ ε α → (Outcome ε α → Session σ → Prop) → Session σ → Prop
  | .ret o, Q, s => Q o s
  | .read k, Q, s =>
      ∀ t, rely s.db t → (k (sessionView s.executed s.staged t)).Wp rely guar Q { s with db := t }
  | .stage ws k, Q, s => k.Wp rely guar Q { s with staged := s.staged ++ ws }
  | .exec u k, Q, s =>
      ∀ t, rely s.db t →
        if u.guard t then
          (k true).Wp rely guar Q { s with db := t, executed := s.executed ++ [u] }
        else (k false).Wp rely guar Q { s with db := t }
  | .commit k, Q, s =>
      ∀ t, rely s.db t →
        match Store.flush (transactionWrites s.executed s.staged) t with
        | some t' => guar t t' ∧ k.Wp rely guar Q (Session.fresh t')
        | none => Q .failed (Session.fresh t)
  | .rollback k, Q, s => k.Wp rely guar Q (Session.fresh s.db)

/-- The committed rows after each commit of a call that runs alone. -/
def commits : Program σ ε α → Session σ → List σ
  | .ret _, _ => []
  | .read k, s => (k (sessionView s.executed s.staged s.db)).commits s
  | .stage ws k, s => k.commits { s with staged := s.staged ++ ws }
  | .exec u k, s =>
      if u.guard s.db then (k true).commits { s with executed := s.executed ++ [u] }
      else (k false).commits s
  | .commit k, s =>
      match Store.flush (transactionWrites s.executed s.staged) s.db with
      | some db => db :: k.commits (Session.fresh db)
      | none => []
  | .rollback k, s => k.commits (Session.fresh s.db)

/-- The rows a call that ran alone from `db` leaves when its process dies: those of one of its
    commits, or those it began with. -/
def Crashed (p : Program σ ε α) (db db' : σ) : Prop := db' ∈ db :: p.commits (Session.fresh db)

/-- The same program after every item of a list; the rounds are numbered. -/
def forEach (f : ℕ → β → Program σ ε Unit) : ℕ → List β → Program σ ε Unit
  | _, [] => pure ()
  | i, x :: rest => f i x >>= fun _ => forEach f (i + 1) rest

/-! ## Rules -/

section Rules

variable {rely guar : σ → σ → Prop} {Q : Outcome ε β → Session σ → Prop} {s : Session σ}

/-- A postcondition that asks for `P` where a part of the call returned, and for `Q` where it ended
    the call. -/
def onReturn (P : α → Session σ → Prop) (Q : Outcome ε β → Session σ → Prop) :
    Outcome ε α → Session σ → Prop
  | .returned a, s => P a s
  | .raised e, s => Q (.raised e) s
  | .failed, s => Q .failed s

/-- How a call goes on after a part of it: with `f` if that part returned. -/
def andThen (f : α → Program σ ε β) (rely guar : σ → σ → Prop)
    (Q : Outcome ε β → Session σ → Prop) : Outcome ε α → Session σ → Prop :=
  onReturn (fun a s => (f a).Wp rely guar Q s) Q

@[simp] theorem wp_ret {Q : Outcome ε α → Session σ → Prop} {o : Outcome ε α} :
    (.ret o : Program σ ε α).Wp rely guar Q s ↔ Q o s := Iff.rfl

theorem wp_read {Q : Outcome ε α → Session σ → Prop} {k : σ → Program σ ε α} :
    (.read k : Program σ ε α).Wp rely guar Q s ↔ ∀ t, rely s.db t →
      (k (sessionView s.executed s.staged t)).Wp rely guar Q { s with db := t } := Iff.rfl

theorem wp_stage {Q : Outcome ε α → Session σ → Prop} {ws : List ω} {k : Program σ ε α} :
    (.stage ws k : Program σ ε α).Wp rely guar Q s ↔
      k.Wp rely guar Q { s with staged := s.staged ++ ws } := Iff.rfl

theorem wp_exec {Q : Outcome ε α → Session σ → Prop} {u : CondUpdate σ}
    {k : Bool → Program σ ε α} : (.exec u k : Program σ ε α).Wp rely guar Q s ↔
      ∀ t, rely s.db t →
        if u.guard t then
          (k true).Wp rely guar Q { s with db := t, executed := s.executed ++ [u] }
        else (k false).Wp rely guar Q { s with db := t } := Iff.rfl

/-- A commit that the rows accept. -/
theorem wp_commit_some {Q : Outcome ε α → Session σ → Prop} {k : Program σ ε α} {t t' : σ}
    (h : (.commit k : Program σ ε α).Wp rely guar Q s) (ht : rely s.db t)
    (hflush : Store.flush (transactionWrites s.executed s.staged) t = some t') :
    guar t t' ∧ k.Wp rely guar Q (Session.fresh t') := by
  have hcommit := h t ht
  rwa [hflush] at hcommit

/-- A commit that they refuse. -/
theorem wp_commit_none {Q : Outcome ε α → Session σ → Prop} {k : Program σ ε α} {t : σ}
    (h : (.commit k : Program σ ε α).Wp rely guar Q s) (ht : rely s.db t)
    (hflush : Store.flush (transactionWrites s.executed s.staged) t = none) :
    Q .failed (Session.fresh t) := by
  have hcommit := h t ht
  rwa [hflush] at hcommit

theorem wp_rollback {Q : Outcome ε α → Session σ → Prop} {k : Program σ ε α} :
    (.rollback k : Program σ ε α).Wp rely guar Q s ↔ k.Wp rely guar Q (Session.fresh s.db) :=
  Iff.rfl

theorem wp_mono {Q Q' : Outcome ε α → Session σ → Prop} {p : Program σ ε α}
    (h : ∀ o s, Q o s → Q' o s) (hp : p.Wp rely guar Q s) : p.Wp rely guar Q' s := by
  induction p generalizing s with
  | ret o => exact h o s hp
  | read k ih => exact fun t ht => ih _ (hp t ht)
  | stage ws k ih => exact ih hp
  | exec u k ih =>
      intro t ht
      have hexec := hp t ht
      split
      · next hu => rw [if_pos hu] at hexec; exact ih true hexec
      · next hu => rw [if_neg hu] at hexec; exact ih false hexec
  | commit k ih =>
      intro t ht
      have hcommit := hp t ht
      split
      · next t' hflush => rw [hflush] at hcommit; exact ⟨hcommit.1, ih hcommit.2⟩
      · next hflush => rw [hflush] at hcommit; exact h _ _ hcommit
  | rollback k ih => exact ih hp

theorem wp_mono_guar {guar' : σ → σ → Prop} (h : ∀ s t, guar s t → guar' s t)
    {Q : Outcome ε α → Session σ → Prop} {p : Program σ ε α} (hp : p.Wp rely guar Q s) :
    p.Wp rely guar' Q s := by
  induction p generalizing s with
  | ret o => exact hp
  | read k ih => exact fun t ht => ih _ (hp t ht)
  | stage ws k ih => exact ih hp
  | exec u k ih =>
      intro t ht
      have hexec := hp t ht
      split
      · next hu => rw [if_pos hu] at hexec; exact ih true hexec
      · next hu => rw [if_neg hu] at hexec; exact ih false hexec
  | commit k ih =>
      intro t ht
      have hcommit := hp t ht
      split
      · next t' hflush => rw [hflush] at hcommit; exact ⟨h _ _ hcommit.1, ih hcommit.2⟩
      · next hflush => rw [hflush] at hcommit; exact hcommit
  | rollback k ih => exact ih hp

/-- Sequencing. -/
theorem wp_bind_iff {p : Program σ ε α} {f : α → Program σ ε β} :
    (p >>= f).Wp rely guar Q s ↔ p.Wp rely guar (andThen f rely guar Q) s := by
  induction p generalizing s with
  | ret o => cases o <;> exact Iff.rfl
  | read k ih => exact forall_congr' fun t => imp_congr_right fun _ => ih _
  | stage ws k ih => exact ih
  | exec u k ih =>
      refine forall_congr' fun t => imp_congr_right fun _ => ?_
      split
      · exact ih true
      · exact ih false
  | commit k ih =>
      refine forall_congr' fun t => imp_congr_right fun _ => ?_
      split
      · exact and_congr_right fun _ => ih
      · exact Iff.rfl
  | rollback k ih => exact ih

theorem wp_bind {p : Program σ ε α} {f : α → Program σ ε β}
    (hp : p.Wp rely guar (andThen f rely guar Q) s) : (p >>= f).Wp rely guar Q s :=
  wp_bind_iff.2 hp

/-- A call whose value is passed on. -/
theorem wp_map {p : Program σ ε α} {f : α → β} :
    (p.map f).Wp rely guar Q s ↔ p.Wp rely guar (fun o s => Q (o.map f) s) s := by
  refine wp_bind_iff.trans ⟨wp_mono fun o s h => ?_, wp_mono fun o s h => ?_⟩
  · cases o <;> exact h
  · cases o <;> exact h

/-- A call whose exceptions are handled. -/
theorem wp_rescue {Q : Outcome ε α → Session σ → Prop} {handle : ε → Outcome ε α}
    {p : Program σ ε α} :
    (p.rescue handle).Wp rely guar Q s ↔ p.Wp rely guar (fun o s => Q (o.rescue handle) s) s := by
  induction p generalizing s with
  | ret o => exact Iff.rfl
  | read k ih => exact forall_congr' fun t => imp_congr_right fun _ => ih _
  | stage ws k ih => exact ih
  | exec u k ih =>
      refine forall_congr' fun t => imp_congr_right fun _ => ?_
      split
      · exact ih true
      · exact ih false
  | commit k ih =>
      refine forall_congr' fun t => imp_congr_right fun _ => ?_
      split
      · exact and_congr_right fun _ => ih
      · exact Iff.rfl
  | rollback k ih => exact ih

theorem wp_select_bind {g : σ → α} {f : α → Program σ ε β}
    (h : ∀ t, rely s.db t →
      (f (g (sessionView s.executed s.staged t))).Wp rely guar Q { s with db := t }) :
    (select g >>= f).Wp rely guar Q s := h

theorem wp_lookup {Q : Outcome ε α → Session σ → Prop} {g : σ → Option α} {e : ε}
    (hnone : ∀ t, rely s.db t → g (sessionView s.executed s.staged t) = none →
      Q (.raised e) { s with db := t })
    (hsome : ∀ t a, rely s.db t → g (sessionView s.executed s.staged t) = some a →
      Q (.returned a) { s with db := t }) : (lookup g e).Wp rely guar Q s := by
  intro t ht
  dsimp only
  split
  · next a hg => exact hsome t a ht hg
  · next hg => exact hnone t ht hg

theorem wp_lookup_bind {g : σ → Option α} {e : ε} {f : α → Program σ ε β}
    (hnone : ∀ t, rely s.db t → g (sessionView s.executed s.staged t) = none →
      Q (.raised e) { s with db := t })
    (hsome : ∀ t a, rely s.db t → g (sessionView s.executed s.staged t) = some a →
      (f a).Wp rely guar Q { s with db := t }) : (lookup g e >>= f).Wp rely guar Q s := by
  intro t ht
  show ((match g (sessionView s.executed s.staged t) with
    | some a => (.ret (.returned a) : Program σ ε α)
    | none => .ret (.raised e)) >>= f).Wp rely guar Q { s with db := t }
  cases hg : g (sessionView s.executed s.staged t) with
  | none => exact hnone t ht hg
  | some a => exact hsome t a ht hg

theorem wp_ofExcept_bind {x : Except ε α} {f : α → Program σ ε β}
    (herror : ∀ e, x = .error e → Q (.raised e) s)
    (hok : ∀ a, x = .ok a → (f a).Wp rely guar Q s) :
    (ofExcept x >>= f).Wp rely guar Q s := by
  cases hx : x with
  | error e => exact herror e hx
  | ok a => exact hok a hx

theorem wp_add_bind {ws : List ω} {f : Unit → Program σ ε β}
    (h : (f ()).Wp rely guar Q { s with staged := s.staged ++ ws }) :
    (add ws >>= f).Wp rely guar Q s := h

/-- A conditional UPDATE, whether it finds its row or not. -/
theorem wp_execute_bind {u : CondUpdate σ} {f : Bool → Program σ ε β}
    (hfound : ∀ t, rely s.db t → u.guard t = true →
      (f true).Wp rely guar Q { s with db := t, executed := s.executed ++ [u] })
    (hmissed : ∀ t, rely s.db t → u.guard t = false → (f false).Wp rely guar Q { s with db := t }) :
    (execute u >>= f).Wp rely guar Q s := by
  intro t ht
  split
  · next hu => exact hfound t ht hu
  · next hu => exact hmissed t ht (Bool.eq_false_iff.2 hu)

theorem wp_rollbackAll_bind {f : Unit → Program σ ε β}
    (h : (f ()).Wp rely guar Q (Session.fresh s.db)) : (rollbackAll >>= f).Wp rely guar Q s := h

/-- A commit: what it flushes is written to the rows as they are by then. -/
theorem wp_commitAll_bind {f : Unit → Program σ ε β}
    (hfailed : ∀ t, rely s.db t →
      Store.flush (transactionWrites s.executed s.staged) t = none → Q .failed (Session.fresh t))
    (hflush : ∀ t t', rely s.db t →
      Store.flush (transactionWrites s.executed s.staged) t = some t' →
        guar t t' ∧ (f ()).Wp rely guar Q (Session.fresh t')) :
    (commitAll >>= f).Wp rely guar Q s := by
  intro t ht
  split
  · next t' h => exact hflush t t' ht h
  · next h => exact hfailed t ht h

/-- A commit nothing follows. -/
theorem wp_commitAll {Q : Outcome ε Unit → Session σ → Prop}
    (hfailed : ∀ t, rely s.db t →
      Store.flush (transactionWrites s.executed s.staged) t = none → Q .failed (Session.fresh t))
    (hflush : ∀ t t', rely s.db t →
      Store.flush (transactionWrites s.executed s.staged) t = some t' →
        guar t t' ∧ Q (.returned ()) (Session.fresh t')) :
    (commitAll : Program σ ε Unit).Wp rely guar Q s := by
  intro t ht
  split
  · next t' h => exact hflush t t' ht h
  · next h => exact hfailed t ht h

/-- A prefix that only reads, and raises nothing, leaves the session as it is. -/
theorem Queries.wp_bind {p : Program σ ε α} {f : α → Program σ ε β}
    (hp : p.Queries fun _ => False) (h : ∀ a, (f a).Wp Eq guar Q s) : (p >>= f).Wp Eq guar Q s := by
  induction p with
  | ret o =>
      cases o with
      | returned a => exact h a
      | raised e => exact hp.elim
      | failed => exact hp.elim
  | read k ih =>
      rintro t rfl
      exact ih _ (hp _)
  | stage ws k ih => exact hp.elim
  | exec u k ih => exact hp.elim
  | commit k ih => exact hp.elim
  | rollback k ih => exact hp.elim

/-- The loop rule: `Inv` speaks about the items done so far. -/
theorem wp_forEach {f : ℕ → β → Program σ ε Unit} {Q : Outcome ε Unit → Session σ → Prop}
    (Inv : List β → Session σ → Prop) (all : List β)
    (hstep : ∀ done x rest s, all = done ++ x :: rest → Inv done s →
      (f done.length x).Wp rely guar (onReturn (fun _ => Inv (done ++ [x])) Q) s)
    (hdone : ∀ s, Inv all s → Q (.returned ()) s) (done rest : List β) (s : Session σ)
    (hall : all = done ++ rest) (hinv : Inv done s) :
    (forEach f done.length rest).Wp rely guar Q s := by
  induction rest generalizing done s with
  | nil =>
      rw [List.append_nil] at hall
      subst hall
      exact hdone s hinv
  | cons x rest ih =>
      refine wp_bind (wp_mono ?_ (hstep done x rest s hall hinv))
      intro o s' ho
      cases o with
      | returned _ =>
          have hnext := ih (done ++ [x]) s' (by rw [hall, List.append_assoc]; rfl) ho
          rwa [List.length_append, List.length_singleton] at hnext
      | raised e => exact ho
      | failed => exact ho

end Rules

/-! ## Queries nobody disturbs -/

/-- A program that only reads, and reads what `rely` leaves alone. -/
def Steady (rely : σ → σ → Prop) : Program σ ε α → Prop
  | .ret _ => True
  | .read k => (∀ s t, rely s t → k s = k t) ∧ ∀ s, Steady rely (k s)
  | _ => False

section Steady

variable {rely guar : σ → σ → Prop}

@[simp] theorem steady_ret {o : Outcome ε α} : (.ret o : Program σ ε α).Steady rely := trivial

theorem steady_pure (a : α) : (pure a : Program σ ε α).Steady rely := trivial

theorem steady_read {k : σ → Program σ ε α} : (.read k : Program σ ε α).Steady rely ↔
    (∀ s t, rely s t → k s = k t) ∧ ∀ s, (k s).Steady rely := Iff.rfl

theorem not_steady_stage {ws : List ω} {k : Program σ ε α} :
    ¬ (.stage ws k : Program σ ε α).Steady rely := id

theorem not_steady_exec {u : CondUpdate σ} {k : Bool → Program σ ε α} :
    ¬ (.exec u k : Program σ ε α).Steady rely := id

theorem not_steady_commit {k : Program σ ε α} : ¬ (.commit k : Program σ ε α).Steady rely := id

theorem not_steady_rollback {k : Program σ ε α} : ¬ (.rollback k : Program σ ε α).Steady rely := id

theorem Steady.bind {p : Program σ ε α} {f : α → Program σ ε β} (hp : p.Steady rely)
    (hf : ∀ a, (f a).Steady rely) : (p >>= f).Steady rely := by
  induction p with
  | ret o =>
      cases o with
      | returned a => exact hf a
      | raised e => exact trivial
      | failed => exact trivial
  | read k ih => exact ⟨fun s t h => congrArg (· >>= f) (hp.1 s t h), fun s => ih s (hp.2 s)⟩
  | stage ws k ih => exact hp.elim
  | exec u k ih => exact hp.elim
  | commit k ih => exact hp.elim
  | rollback k ih => exact hp.elim

theorem Steady.select_bind {g : σ → α} {f : α → Program σ ε β}
    (hg : ∀ s t, rely s t → g s = g t) (hf : ∀ a, (f a).Steady rely) :
    (select g >>= f).Steady rely :=
  ⟨fun s t h => congrArg f (hg s t h), fun s => hf (g s)⟩

theorem Steady.mono {rely' : σ → σ → Prop} (h : ∀ s t, rely' s t → rely s t)
    {p : Program σ ε α} (hp : p.Steady rely) : p.Steady rely' := by
  induction p with
  | ret o => exact trivial
  | read k ih => exact ⟨fun s t hst => hp.1 s t (h s t hst), fun s => ih s (hp.2 s)⟩
  | stage ws k ih => exact hp.elim
  | exec u k ih => exact hp.elim
  | commit k ih => exact hp.elim
  | rollback k ih => exact hp.elim

theorem steady_ofExcept (x : Except ε α) : (ofExcept x : Program σ ε α).Steady rely := by
  cases x <;> exact trivial

/-- What a steady query answers is the same before and after others have written. -/
theorem Steady.run_eq {p : Program σ ε α} (hp : p.Steady rely) {s t : σ} (h : rely s t) :
    (p.run (Session.fresh s)).1 = (p.run (Session.fresh t)).1 := by
  induction p with
  | ret o => rfl
  | read k ih =>
      show ((k s).run (Session.fresh s)).1 = ((k t).run (Session.fresh t)).1
      rw [hp.1 s t h]
      exact ih t (hp.2 t)
  | stage ws k ih => exact hp.elim
  | exec u k ih => exact hp.elim
  | commit k ih => exact hp.elim
  | rollback k ih => exact hp.elim

/-- A query at the start of a transaction answers what it answers alone, if nothing others do from
    here on (`I`) disturbs it. -/
theorem Steady.wp_bind {steady : σ → σ → Prop} {I : σ → Prop} {p : Program σ ε α}
    {f : α → Program σ ε β} {Q : Outcome ε β → Session σ → Prop} {s : σ} (hp : p.Steady steady)
    (hs : I s) (hsteady : ∀ a b, I a → rely a b → steady a b ∧ I b) (hrefl : ∀ s, rely s s)
    (htrans : ∀ {a b c}, rely a b → rely b c → rely a c)
    (h : ∀ t, rely s t → andThen f rely guar Q (p.run (Session.fresh s)).1 (Session.fresh t)) :
    (p >>= f).Wp rely guar Q (Session.fresh s) := by
  induction p generalizing s with
  | ret o => cases o <;> exact h s (hrefl s)
  | read k ih =>
      intro t ht
      obtain ⟨hst, hIt⟩ := hsteady s t hs ht
      refine ih t (hp.2 t) hIt fun u hu => ?_
      have hanswer : ((k t).run (Session.fresh t)).1 = ((k s).run (Session.fresh s)).1 := by
        rw [hp.1 s t hst]
        exact ((hp.2 t).run_eq hst).symm
      have hrun := h u (htrans ht hu)
      change andThen f rely guar Q ((k s).run (Session.fresh s)).1 _ at hrun
      rwa [← hanswer] at hrun
  | stage ws k ih => exact hp.elim
  | exec u k ih => exact hp.elim
  | commit k ih => exact hp.elim
  | rollback k ih => exact hp.elim

/-- A query leaves the session as it is, whatever others write meanwhile. -/
theorem Steady.wp_any {steady : σ → σ → Prop} {p : Program σ ε α} {Q : Outcome ε α → Session σ → Prop}
    {s : Session σ} (hp : p.Steady steady) (hrefl : ∀ s, rely s s)
    (htrans : ∀ {a b c}, rely a b → rely b c → rely a c)
    (h : ∀ t o, rely s.db t → Q o { s with db := t }) : p.Wp rely guar Q s := by
  induction p generalizing s with
  | ret o => exact h s.db o (hrefl s.db)
  | read k ih => exact fun t ht => ih _ (hp.2 _) fun u o hu => h u o (htrans ht hu)
  | stage ws k ih => exact hp.elim
  | exec u k ih => exact hp.elim
  | commit k ih => exact hp.elim
  | rollback k ih => exact hp.elim

end Steady

/-! ## Calls that run alone -/

section Alone

variable {rely guar : σ → σ → Prop} {Q : Outcome ε α → Session σ → Prop}

/-- A call that runs alone ends in its postcondition. -/
theorem wp_run (hrefl : ∀ s, rely s s) {p : Program σ ε α} {s : Session σ}
    (h : p.Wp rely guar Q s) : Q (p.run s).1 (p.run s).2 := by
  induction p generalizing s with
  | ret o => exact h
  | read k ih => exact ih _ (h s.db (hrefl _))
  | stage ws k ih => exact ih h
  | exec u k ih =>
      have hexec := h s.db (hrefl _)
      simp only [run]
      split
      · next hu => rw [if_pos hu] at hexec; exact ih true hexec
      · next hu => rw [if_neg hu] at hexec; exact ih false hexec
  | commit k ih =>
      have hcommit := h s.db (hrefl _)
      simp only [run]
      split
      · next t' hflush => rw [hflush] at hcommit; exact ih hcommit.2
      · next hflush => rw [hflush] at hcommit; exact hcommit
  | rollback k ih => exact ih h

/-- Of a call that runs alone, what holds of its run. -/
theorem wp_of_run {p : Program σ ε α} {s : Session σ} (h : Q (p.run s).1 (p.run s).2) :
    p.Wp Eq (fun _ _ => True) Q s := by
  induction p generalizing s with
  | ret o => exact h
  | read k ih =>
      rintro t rfl
      exact ih _ h
  | stage ws k ih => exact ih h
  | exec u k ih =>
      rintro t rfl
      simp only [run] at h
      split at h
      · next hu => rw [if_pos hu]; exact ih true h
      · next hu => rw [if_neg hu]; exact ih false h
  | commit k ih =>
      rintro t rfl
      simp only [run] at h
      cases hflush : Store.flush (transactionWrites s.executed s.staged) s.db with
      | some u =>
          simp only [hflush] at h ⊢
          exact ⟨trivial, ih h⟩
      | none =>
          simp only [hflush] at h ⊢
          exact h
  | rollback k ih => exact ih h

/-- Its commits are a chain of guarantees. -/
theorem isChain_commits (hrefl : ∀ s, rely s s) {p : Program σ ε α} {s : Session σ}
    (h : p.Wp rely guar Q s) : (s.db :: p.commits s).IsChain guar := by
  induction p generalizing s with
  | ret o => exact List.isChain_singleton _
  | read k ih => exact ih _ (h s.db (hrefl _))
  | stage ws k ih => exact ih h
  | exec u k ih =>
      have hexec := h s.db (hrefl _)
      simp only [commits]
      split
      · next hu => rw [if_pos hu] at hexec; exact ih true hexec
      · next hu => rw [if_neg hu] at hexec; exact ih false hexec
  | commit k ih =>
      have hcommit := h s.db (hrefl _)
      simp only [commits]
      split
      · next t' hflush =>
          rw [hflush] at hcommit
          exact List.isChain_cons_cons.2 ⟨hcommit.1, ih hcommit.2⟩
      · exact List.isChain_singleton _
  | rollback k ih => exact ih h

/-- A call alone that commits nothing ends over the rows it began with. -/
theorem run_db_of_commits_eq_nil {p : Program σ ε α} {s : Session σ} (h : p.commits s = []) :
    (p.run s).2.db = s.db := by
  induction p generalizing s with
  | ret o => rfl
  | read k ih => exact ih _ h
  | stage ws k ih => exact ih h
  | exec u k ih =>
      simp only [commits, run] at h ⊢
      split
      · next hu => rw [if_pos hu] at h; exact ih true h
      · next hu => rw [if_neg hu] at h; exact ih false h
  | commit k ih =>
      simp only [commits, run] at h ⊢
      split
      · next t' hflush => rw [hflush] at h; cases h
      · rfl
  | rollback k ih => exact ih h

/-- A call commits nothing whose commits would have to guarantee the impossible. -/
theorem commits_eq_nil (hrefl : ∀ s, rely s s) {p : Program σ ε α} {s : Session σ}
    (h : p.Wp rely (fun _ _ => False) Q s) : p.commits s = [] := by
  have hchain := isChain_commits hrefl h
  cases hcommits : p.commits s with
  | nil => rfl
  | cons t rest =>
      rw [hcommits] at hchain
      exact (List.isChain_cons_cons.1 hchain).1.elim

theorem mem_of_isChain {I : σ → Prop} {db : σ} {dbs : List σ}
    (h : (db :: dbs).IsChain fun _ t => I t) : ∀ t ∈ dbs, I t := by
  induction dbs generalizing db with
  | nil => simp
  | cons t rest ih =>
      obtain ⟨ht, hrest⟩ := List.isChain_cons_cons.1 h
      intro u hu
      rcases List.mem_cons.1 hu with rfl | hu
      · exact ht
      · exact ih hrest u hu

/-- A property that every commit establishes holds of whatever a crash leaves, if there was a
    commit. -/
theorem Crashed.reached {I : σ → Prop} (hrefl : ∀ s, rely s s) {p : Program σ ε α} {db db' : σ}
    (h : p.Wp rely (fun _ t => I t) Q (Session.fresh db)) (hcrashed : p.Crashed db db') :
    db' = db ∨ I db' := by
  rcases List.mem_cons.1 hcrashed with heq | hmem
  · exact Or.inl heq
  · exact Or.inr (mem_of_isChain (isChain_commits hrefl h) db' hmem)

end Alone

-- what a call does under interference is derived by the rules above
attribute [irreducible] Wp Steady

end Program

end VulnOpsHub
