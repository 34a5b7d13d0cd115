import VulnOpsHub.Lib.Interleaving
import VulnOpsHub.Lib.Embedding
import Mathlib.Algebra.BigOperators.Intervals

set_option autoImplicit false

/-! # Interleaved calls with several commits

`Program.Meets` describes a call with one commit. Here a call may commit again and again: `Keeps` says
what each of its commits does to the rows, whatever others have committed before, and how the call
ends after how many commits. `Stages` says of a program which writes it ever stages.

The rule of this module is `Reachable.kept`: in every interleaving, each call is where its `Keeps`
allows it to be, and each recorded commit is as its call guarantees. -/

namespace VulnOpsHub

variable {σ ω ρ : Type} [Store σ ω ρ] {κ ε α β : Type}

namespace Program

/-! ## Staged writes -/

/-- Every write that the program stages or executes satisfies `W`. -/
def Stages (W : ω → Prop) : Program σ ε α → Prop
  | .ret _ => True
  | .read k => ∀ s, (k s).Stages W
  | .stage ws k => (∀ w ∈ ws, W w) ∧ k.Stages W
  | .exec u k => W u.write ∧ ∀ b, (k b).Stages W
  | .commit k => k.Stages W
  | .rollback k => k.Stages W

section Stages

variable {W : ω → Prop}

theorem stages_ret (o : Outcome ε α) : (.ret o : Program σ ε α).Stages W := trivial

theorem stages_read {k : σ → Program σ ε α} :
    (.read k : Program σ ε α).Stages W ↔ ∀ s, (k s).Stages W := Iff.rfl

theorem stages_stage {ws : List ω} {k : Program σ ε α} :
    (.stage ws k : Program σ ε α).Stages W ↔ (∀ w ∈ ws, W w) ∧ k.Stages W := Iff.rfl

theorem stages_exec {u : CondUpdate σ} {k : Bool → Program σ ε α} :
    (.exec u k : Program σ ε α).Stages W ↔ W u.write ∧ ∀ b, (k b).Stages W := Iff.rfl

theorem stages_commit {k : Program σ ε α} :
    (.commit k : Program σ ε α).Stages W ↔ k.Stages W := Iff.rfl

theorem stages_rollback {k : Program σ ε α} :
    (.rollback k : Program σ ε α).Stages W ↔ k.Stages W := Iff.rfl

theorem stages_pure (a : α) : (pure a : Program σ ε α).Stages W := trivial

theorem Stages.mono {W' : ω → Prop} (h : ∀ w, W w → W' w) {p : Program σ ε α} (hp : p.Stages W) :
    p.Stages W' := by
  induction p with
  | ret o => exact trivial
  | read k ih => exact fun s => ih s (hp s)
  | stage ws k ih => exact ⟨fun w hw => h w (hp.1 w hw), ih hp.2⟩
  | exec u k ih => exact ⟨h _ hp.1, fun b => ih b (hp.2 b)⟩
  | commit k ih => exact ih hp
  | rollback k ih => exact ih hp

theorem Stages.bind {p : Program σ ε α} {f : α → Program σ ε β} (hp : p.Stages W)
    (hf : ∀ a, (f a).Stages W) : (p >>= f).Stages W := by
  induction p with
  | ret o =>
      cases o with
      | returned a => exact hf a
      | raised e => exact trivial
      | failed => exact trivial
  | read k ih => exact fun s => ih s (hp s)
  | stage ws k ih => exact ⟨hp.1, ih hp.2⟩
  | exec u k ih => exact ⟨hp.1, fun b => ih b (hp.2 b)⟩
  | commit k ih => exact ih hp
  | rollback k ih => exact ih hp

theorem Stages.map {p : Program σ ε α} (hp : p.Stages W) (f : α → β) : (p.map f).Stages W :=
  Stages.bind hp fun a => stages_pure (f a)

theorem stages_select (g : σ → α) : (select g : Program σ ε α).Stages W := fun _ => trivial

theorem stages_ofExcept (x : Except ε α) : (ofExcept x : Program σ ε α).Stages W := by
  cases x <;> exact trivial

theorem stages_lookup (g : σ → Option α) (e : ε) : (lookup g e).Stages W := by
  intro s
  dsimp only
  split <;> exact trivial

theorem stages_add {ws : List ω} (h : ∀ w ∈ ws, W w) : (add ws : Program σ ε Unit).Stages W :=
  ⟨h, trivial⟩

theorem stages_commitAll : (commitAll : Program σ ε Unit).Stages W := trivial

theorem stages_forEach {f : ℕ → β → Program σ ε Unit} (h : ∀ i x, (f i x).Stages W)
    (i : ℕ) (xs : List β) : (forEach f i xs).Stages W := by
  induction xs generalizing i with
  | nil => exact trivial
  | cons x rest ih => exact Stages.bind (h i x) fun _ => ih (i + 1)

/-- A part of the store stages its writes as those of the whole. -/
theorem Stages.embed {τ ω' ρ' : Type} [Store τ ω' ρ'] {W : ω' → Prop} (V : StoreView σ τ)
    {p : Program σ ε α} (hp : p.Stages fun w => W (V.write w)) : (p.embed V).Stages W := by
  induction p with
  | ret o => exact trivial
  | read k ih => exact fun t => ih (V.view t) (hp (V.view t))
  | stage ws k ih =>
      refine ⟨fun w hw => ?_, ih hp.2⟩
      obtain ⟨v, hv, rfl⟩ := List.mem_map.1 hw
      exact hp.1 v hv
  | exec u k ih => exact ⟨hp.1, fun b => ih b (hp.2 b)⟩
  | commit k ih => exact ih hp
  | rollback k ih => exact ih hp

/-- A program that only reads stages nothing. -/
theorem Queries.stages {E : ε → Prop} {p : Program σ ε α} (hp : p.Queries E) : p.Stages W := by
  induction p with
  | ret o => exact trivial
  | read k ih => exact fun s => ih s (hp s)
  | _ => exact hp.elim

end Stages

/-! ## Commits -/

/-- What a call promises: the relation between the rows before and after its `n`-th commit, how many
    commits it may have made while it goes on, and how it ends after how many. -/
structure Promise (σ ε α : Type) where
  guar : ℕ → σ → σ → Prop
  live : ℕ → Prop
  post : ℕ → Outcome ε α → Prop

/-- After `n` commits, with an open transaction, the call does what it promises. -/
def Keeps (C : Promise σ ε α) : Program σ ε α → ℕ → List (CondUpdate σ) → List ω → Prop
  | .ret o, n, _, _ => C.post n o
  | .read k, n, ex, st => C.live n ∧ ∀ s, (k (sessionView ex st s)).Keeps C n ex st
  | .stage ws k, n, ex, st => C.live n ∧ k.Keeps C n ex (st ++ ws)
  | .exec u k, n, ex, st =>
      C.live n ∧ (k true).Keeps C n (ex ++ [u]) st ∧ (k false).Keeps C n ex st ∧ C.post n .failed
  | .commit k, n, ex, st =>
      C.live n ∧ (∀ s t, Store.flush (transactionWrites ex st) s = some t → C.guar n s t) ∧
        k.Keeps C (n + 1) [] [] ∧ C.post n .failed
  | .rollback k, n, _, _ => C.live n ∧ k.Keeps C n [] []

/-- A call that promises only its guarantee. -/
def Promise.always (guar : σ → σ → Prop) : Promise σ ε α where
  guar := fun _ => guar
  live := fun _ => True
  post := fun _ _ => True

/-- A program that stages only writes of one kind keeps what transactions of these writes keep. -/
theorem Stages.keeps {W : ω → Prop} {guar : σ → σ → Prop} {p : Program σ ε α} (hp : p.Stages W)
    (hguar : ∀ ws s t, (∀ w ∈ ws, W w) → Store.flush ws s = some t → guar s t) {n : ℕ}
    {ex : List (CondUpdate σ)} {st : List ω} (h : ∀ w ∈ transactionWrites ex st, W w) :
    p.Keeps (.always guar) n ex st := by
  have hnone : ∀ w ∈ transactionWrites ([] : List (CondUpdate σ)) ([] : List ω), W w := by
    intro w hw
    cases hw
  induction p generalizing n ex st with
  | ret o => exact trivial
  | read k ih => exact ⟨trivial, fun s => ih _ (hp _) h⟩
  | stage ws k ih =>
      refine ⟨trivial, ih hp.2 fun w hw => ?_⟩
      simp only [transactionWrites, List.mem_append] at h hw
      rcases hw with hw | hw | hw
      · exact h w (.inl hw)
      · exact h w (.inr hw)
      · exact hp.1 w hw
  | exec u k ih =>
      refine ⟨trivial, ih true (hp.2 true) fun w hw => ?_, ih false (hp.2 false) h, trivial⟩
      simp only [transactionWrites, List.map_append, List.map_cons, List.map_nil,
        List.mem_append, List.mem_singleton] at h hw
      rcases hw with (hw | rfl) | hw
      · exact h w (.inl hw)
      · exact hp.1
      · exact h w (.inr hw)
  | commit k ih => exact ⟨trivial, fun s t hflush => hguar _ s t h hflush, ih hp hnone, trivial⟩
  | rollback k ih => exact ⟨trivial, ih hp hnone⟩

section Unfolding

variable {C : Promise σ ε α} {n : ℕ} {ex : List (CondUpdate σ)} {st : List ω}

theorem keeps_ret {o : Outcome ε α} : (.ret o : Program σ ε α).Keeps C n ex st ↔ C.post n o := Iff.rfl

theorem keeps_read {k : σ → Program σ ε α} : (.read k : Program σ ε α).Keeps C n ex st ↔
    C.live n ∧ ∀ s, (k (sessionView ex st s)).Keeps C n ex st := Iff.rfl

theorem keeps_stage {ws : List ω} {k : Program σ ε α} :
    (.stage ws k : Program σ ε α).Keeps C n ex st ↔ C.live n ∧ k.Keeps C n ex (st ++ ws) := Iff.rfl

theorem keeps_exec {u : CondUpdate σ} {k : Bool → Program σ ε α} :
    (.exec u k : Program σ ε α).Keeps C n ex st ↔ C.live n ∧ (k true).Keeps C n (ex ++ [u]) st ∧
      (k false).Keeps C n ex st ∧ C.post n .failed := Iff.rfl

theorem keeps_commit {k : Program σ ε α} : (.commit k : Program σ ε α).Keeps C n ex st ↔
    C.live n ∧ (∀ s t, Store.flush (transactionWrites ex st) s = some t → C.guar n s t) ∧
      k.Keeps C (n + 1) [] [] ∧ C.post n .failed := Iff.rfl

theorem keeps_rollback {k : Program σ ε α} :
    (.rollback k : Program σ ε α).Keeps C n ex st ↔ C.live n ∧ k.Keeps C n [] [] := Iff.rfl

end Unfolding

/-- A call that has not ended may have made as many commits as it may while it goes on. -/
theorem Keeps.live {C : Promise σ ε α} {p : Program σ ε α} {n : ℕ} {ex : List (CondUpdate σ)}
    {st : List ω} (h : p.Keeps C n ex st) : (∃ o, p = .ret o) ∨ C.live n := by
  cases p with
  | ret o => exact .inl ⟨o, rfl⟩
  | _ => exact .inr h.1

/-- What each commit guarantees, a call that runs alone guarantees. -/
theorem Keeps.alone {guar : σ → σ → Prop} (hrefl : ∀ s, guar s s)
    (htrans : ∀ {s t u}, guar s t → guar t u → guar s u) {p : Program σ ε α} {n : ℕ} {s : Session σ}
    (h : p.Keeps (.always guar) n s.executed s.staged) : guar s.db (p.run s).2.db := by
  induction p generalizing n s with
  | ret o => exact hrefl s.db
  | read k ih => exact ih _ (h.2 s.db)
  | stage ws k ih => exact ih (s := { s with staged := s.staged ++ ws }) h.2
  | exec u k ih =>
      obtain ⟨-, htrue, hfalse, -⟩ := h
      simp only [run]
      split
      · exact ih true (s := { s with executed := s.executed ++ [u] }) htrue
      · exact ih false hfalse
  | commit k ih =>
      obtain ⟨-, hguar, hk, -⟩ := h
      simp only [run]
      split
      · next db hflush => exact htrans (hguar _ _ hflush) (ih (s := Session.fresh db) hk)
      · exact hrefl s.db
  | rollback k ih => exact ih (s := Session.fresh s.db) h.2

theorem Stages.rescue {W : ω → Prop} {handle : ε → Outcome ε α} {p : Program σ ε α}
    (hp : p.Stages W) : (p.rescue handle).Stages W := by
  induction p with
  | ret o => exact trivial
  | read k ih => exact fun s => ih s (hp s)
  | stage ws k ih => exact ⟨hp.1, ih hp.2⟩
  | exec u k ih => exact ⟨hp.1, fun b => ih b (hp.2 b)⟩
  | commit k ih => exact ih hp
  | rollback k ih => exact ih hp

-- what a program stages and keeps is derived by the rules above
attribute [irreducible] Stages Keeps

end Program

/-! ## Interleavings -/

/-- How often call `i` has committed. -/
def commitsOf (i : ℕ) (log : List (CommitRecord σ κ)) : ℕ := log.countP fun r => r.thread = i

/-- Each commit of a log (latest first) is as its call guarantees. -/
def LogKept (C : κ → Program.Promise σ ε α) : List (CommitRecord σ κ) → Prop
  | [] => True
  | r :: log => (C r.call).guar (commitsOf r.thread log) r.before r.after ∧ LogKept C log

theorem commitsOf_cons (i : ℕ) (r : CommitRecord σ κ) (log : List (CommitRecord σ κ)) :
    commitsOf i (r :: log) = commitsOf i log + if r.thread = i then 1 else 0 := by
  by_cases h : r.thread = i
  · rw [commitsOf, List.countP_cons_of_pos (by simpa using h), if_pos h]
    rfl
  · rw [commitsOf, List.countP_cons_of_neg (by simpa using h), if_neg h]
    rfl

/-- The invariant of a run. -/
structure System.Kept (C : κ → Program.Promise σ ε α) (db₀ : σ) (s : System σ κ ε α) : Prop where
  threads : ∀ (i : ℕ) (t : Thread σ κ ε α), s.threads[i]? = some t →
    t.prog.Keeps (C t.call) (commitsOf i s.log) t.executed t.staged
  log : LogKept C s.log
  linked : Linked db₀ s.log s.db
  calls : ∀ r ∈ s.log, ∃ t, s.threads[r.thread]? = some t ∧ t.call = r.call

section Steps

variable {C : κ → Program.Promise σ ε α} {db₀ : σ}
  {body : κ → Program σ ε α} {s s' : System σ κ ε α} {i : ℕ} {t : Thread σ κ ε α}

theorem System.calls_set (hs : s.Kept C db₀) {t' : Thread σ κ ε α}
    (ht : s.threads[i]? = some t) (hcall : t'.call = t.call) :
    ∀ r ∈ s.log, ∃ u, (s.threads.set i t')[r.thread]? = some u ∧ u.call = r.call := by
  intro r hr
  obtain ⟨u, hu, hucall⟩ := hs.calls r hr
  by_cases hi : r.thread = i
  · have hlt : i < s.threads.length := (List.getElem?_eq_some_iff.1 ht).1
    refine ⟨t', by rw [hi, List.getElem?_set_self hlt], ?_⟩
    rw [hi, ht] at hu
    rw [hcall, Option.some.inj hu]
    exact hucall
  · exact ⟨u, by rw [List.getElem?_set_ne (fun he => hi he.symm)]; exact hu, hucall⟩

/-- A step that only moves call `i` on. -/
theorem System.Kept.setThread (hs : s.Kept C db₀) {t' : Thread σ κ ε α}
    (ht : s.threads[i]? = some t) (hcall : t'.call = t.call)
    (hkeeps : t'.prog.Keeps (C t'.call) (commitsOf i s.log) t'.executed t'.staged) : (s.setThread i t').Kept C db₀ where
  threads := fun j u hu => by
    rcases getElem?_set_cases hu with ⟨rfl, rfl⟩ | ⟨-, hu⟩
    · exact hkeeps
    · exact hs.threads j u hu
  log := hs.log
  linked := hs.linked
  calls := System.calls_set hs ht hcall

theorem System.Kept.start (hs : s.Kept C db₀) {c : κ}
    (hc : (body c).Keeps (C c) 0 [] []) :
    System.Kept C db₀ { s with threads := s.threads ++ [Thread.init body c s.db] } where
  threads := fun j u hu => by
    rw [List.getElem?_append] at hu
    split at hu
    · exact hs.threads j u hu
    · next hj =>
        rw [List.getElem?_singleton] at hu
        split at hu
        · -- no commit is recorded for a call that has just been issued
          obtain rfl := Option.some.inj hu
          have hnone : commitsOf j s.log = 0 := by
            refine List.countP_eq_zero.2 fun r hr hrj => ?_
            obtain ⟨u, hu, -⟩ := hs.calls r hr
            have hlt := (List.getElem?_eq_some_iff.1 hu).1
            exact hj ((of_decide_eq_true hrj) ▸ hlt)
          show (body c).Keeps (C c) (commitsOf j s.log) [] []
          rw [hnone]
          exact hc
        · cases hu
  log := hs.log
  linked := hs.linked
  calls := fun r hr => by
    obtain ⟨u, hu, hucall⟩ := hs.calls r hr
    have hlt := (List.getElem?_eq_some_iff.1 hu).1
    exact ⟨u, by
      show (s.threads ++ [Thread.init body c s.db])[r.thread]? = some u
      rw [List.getElem?_append_left hlt]; exact hu, hucall⟩

theorem System.Kept.abortThread (hs : s.Kept C db₀) (ht : s.threads[i]? = some t)
    (h : s.abortThread i t = some s') : s'.Kept C db₀ := by
  have hkeeps := hs.threads i t ht
  unfold System.abortThread at h
  split at h
  · next hprog =>
      cases h
      rw [hprog, Program.keeps_exec] at hkeeps
      exact hs.setThread ht rfl (Program.keeps_ret.2 hkeeps.2.2.2)
  · next hprog =>
      cases h
      rw [hprog, Program.keeps_commit] at hkeeps
      exact hs.setThread ht rfl (Program.keeps_ret.2 hkeeps.2.2.2)
  · cases h

theorem System.Kept.commit (hs : s.Kept C db₀) {k : Program σ ε α} {db : σ}
    (ht : s.threads[i]? = some t) (hprog : t.prog = .commit k)
    (hflush : Store.flush (transactionWrites t.executed t.staged) s.db = some db) :
    System.Kept C db₀
      { db := db
        threads := s.threads.set i
          { t with prog := k, executed := [], staged := [], committed := true }
        log := ⟨i, t.call, t.started, t.reads, t.executed, t.staged, s.db, db⟩ :: s.log } := by
  have hkeeps := hs.threads i t ht
  rw [hprog, Program.keeps_commit] at hkeeps
  obtain ⟨-, hguar, hk, -⟩ := hkeeps
  refine ⟨?_, ⟨hguar _ _ hflush, hs.log⟩, ⟨rfl, hs.linked⟩, ?_⟩
  · intro j u hu
    dsimp only
    rw [commitsOf_cons]
    rcases getElem?_set_cases hu with ⟨rfl, rfl⟩ | ⟨hj, hu⟩
    · rw [if_pos rfl]
      exact hk
    · rw [if_neg fun he => hj he.symm]
      exact hs.threads j u hu
  · intro r hr
    rcases List.mem_cons.1 hr with rfl | hr
    · exact ⟨_, List.getElem?_set_self (List.getElem?_eq_some_iff.1 ht).1, rfl⟩
    · exact System.calls_set hs ht (by rfl) r hr

variable [DecidableEq ρ]

theorem System.Kept.runThread (hs : s.Kept C db₀) (ht : s.threads[i]? = some t)
    (h : s.runThread i t = some s') : s'.Kept C db₀ := by
  have hkeeps := hs.threads i t ht
  unfold System.runThread at h
  split at h
  · cases h
  · next k hprog =>
      cases h
      rw [hprog, Program.keeps_read] at hkeeps
      exact hs.setThread ht rfl (hkeeps.2 s.db)
  · next ws k hprog =>
      cases h
      rw [hprog, Program.keeps_stage] at hkeeps
      exact hs.setThread ht rfl hkeeps.2
  · next u k hprog =>
      rw [hprog, Program.keeps_exec] at hkeeps
      split at h
      · cases h
      · split at h
        · cases h
          exact hs.setThread ht rfl hkeeps.2.1
        · cases h
          exact hs.setThread ht rfl hkeeps.2.2.1
  · next k hprog =>
      split at h
      · cases h
      · split at h
        · cases h
          rw [hprog, Program.keeps_commit] at hkeeps
          exact hs.setThread ht rfl (Program.keeps_ret.2 hkeeps.2.2.2)
        · next db hflush =>
            cases h
            exact hs.commit ht hprog hflush
  · next k hprog =>
      cases h
      rw [hprog, Program.keeps_rollback] at hkeeps
      exact hs.setThread ht rfl hkeeps.2

/-- **Calls keep in every interleaving what they keep on their own.** -/
theorem Reachable.kept {P : Protocol σ κ ε α}
    (hP : ∀ db c, P.allows db c → (P.body c).Keeps (C c) 0 [] [])
    (h : Reachable P db₀ s) : s.Kept C db₀ := by
  induction h with
  | init => exact ⟨by simp [System.init], trivial, rfl, by simp [System.init]⟩
  | step e hs hallows hstep hrely ih =>
      cases e with
      | start c =>
          cases hstep
          exact ih.start (hP _ c (hallows c rfl))
      | run i =>
          obtain ⟨t, ht, hrun⟩ := Option.bind_eq_some_iff.1 hstep
          exact ih.runThread ht hrun
      | abort i =>
          obtain ⟨t, ht, hrun⟩ := Option.bind_eq_some_iff.1 hstep
          exact ih.abortThread ht hrun

/-- The commits of a run are those the protocol relies on. -/
theorem Reachable.relied {P : Protocol σ κ ε α} (h : Reachable P db₀ s) : ∀ r ∈ s.log, P.rely r := by
  cases h with
  | init => simp [System.init]
  | step e hs hallows hstep hrely => exact hrely

end Steps

/-! ## Counting commits -/

theorem countP_eq_sum (l : List α) (p : α → Bool) :
    l.countP p = ∑ i ∈ Finset.range l.length, if l[i]?.any p then 1 else 0 := by
  induction l with
  | nil => rfl
  | cons a l ih =>
      rw [List.length_cons, Finset.sum_range_succ', List.countP_cons, ih]
      simp

/-- The commits of a log, call by call. -/
theorem length_eq_sum_commitsOf {log : List (CommitRecord σ κ)} {n : ℕ}
    (h : ∀ r ∈ log, r.thread < n) : log.length = ∑ i ∈ Finset.range n, commitsOf i log := by
  induction log with
  | nil => simp [commitsOf]
  | cons r log ih =>
      have hlt : r.thread ∈ Finset.range n := Finset.mem_range.2 (h r List.mem_cons_self)
      simp only [commitsOf_cons, Finset.sum_add_distrib, Finset.sum_ite_eq, if_pos hlt,
        ← ih fun r' hr' => h r' (List.mem_cons_of_mem _ hr'), List.length_cons]

/-- If each call of a kind has committed once or not at all, its commits are as many as the calls that
    have. -/
theorem System.Kept.countP_log {C : κ → Program.Promise σ ε α} {db₀ : σ} {s : System σ κ ε α}
    (hs : s.Kept C db₀) (kind : κ → Bool) (done : Thread σ κ ε α → Bool)
    (h : ∀ i t, s.threads[i]? = some t →
      (if kind t.call then commitsOf i s.log else 0) = if done t then 1 else 0) :
    s.log.countP (fun r => kind r.call) = s.threads.countP done := by
  have hlt : ∀ r ∈ s.log.filter fun r => kind r.call, r.thread < s.threads.length := by
    intro r hr
    obtain ⟨t, ht, -⟩ := hs.calls r (List.mem_of_mem_filter hr)
    exact (List.getElem?_eq_some_iff.1 ht).1
  rw [List.countP_eq_length_filter, length_eq_sum_commitsOf hlt, countP_eq_sum]
  refine Finset.sum_congr rfl fun i hi => ?_
  obtain ⟨t, ht⟩ : ∃ t, s.threads[i]? = some t :=
    ⟨_, List.getElem?_eq_getElem (Finset.mem_range.1 hi)⟩
  have hcount : commitsOf i (s.log.filter fun r => kind r.call) =
      if kind t.call then commitsOf i s.log else 0 := by
    rw [commitsOf, List.countP_filter]
    by_cases hkind : kind t.call = true
    · rw [if_pos hkind]
      refine List.countP_congr fun r hr => ?_
      obtain ⟨u, hu, hcall⟩ := hs.calls r hr
      by_cases hthread : r.thread = i
      · rw [hthread, ht] at hu
        obtain rfl := Option.some.inj hu
        simp [hthread, ← hcall, hkind]
      · simp [hthread]
    · rw [if_neg hkind]
      refine List.countP_eq_zero.2 fun r hr hboth => ?_
      simp only [Bool.and_eq_true, decide_eq_true_eq] at hboth
      obtain ⟨u, hu, hcall⟩ := hs.calls r hr
      rw [hboth.1, ht] at hu
      obtain rfl := Option.some.inj hu
      exact hkind (hcall ▸ hboth.2)
  rw [hcount, h i t ht, ht]
  simp

end VulnOpsHub
