import VulnOpsHub.Lib.Sessions

set_option autoImplicit false

/-! # Programs in turns

Several programs over the same rows, statement by statement. `Program.next` is what the next statement
of a program does to its session, whose rows are the committed ones of that moment; `next_run` says
that a program taking turns with nobody just runs.

`Ready rely guar Q` is said of a program in the middle of its run: it commits within `guar` and ends
in `Q` if the others commit within `rely`. Its own turns keep it ready (`Ready.next`), and so do
theirs (`Ready.interfere`). What every commit keeps can be relied on throughout (`wp_of_kept`), and
what a program stages whatever the others do is kept turn after turn as well (`Stages.next`). -/

namespace VulnOpsHub

variable {σ ω ρ : Type} [Store σ ω ρ]

namespace Program

variable {ε α β : Type}

/-- What a statement leaves: the rest of the program, the session, and whether the statement has ended
    the transaction. -/
structure Turn (σ : Type) {ω ρ : Type} [Store σ ω ρ] (ε α : Type) where
  prog : Program σ ε α
  session : Session σ
  ended : Bool

/-- The next statement of a program. -/
def next : Program σ ε α → Session σ → Option (Turn σ ε α)
  | .ret _, _ => none
  | .read k, s => some ⟨k (sessionView s.executed s.staged s.db), s, false⟩
  | .stage ws k, s => some ⟨k, { s with staged := s.staged ++ ws }, false⟩
  | .exec u k, s =>
      if u.guard s.db then some ⟨k true, { s with executed := s.executed ++ [u] }, false⟩
      else some ⟨k false, s, false⟩
  | .commit k, s =>
      match Store.flush (transactionWrites s.executed s.staged) s.db with
      | some db => some ⟨k, Session.fresh db, true⟩
      | none => some ⟨.ret .failed, Session.fresh s.db, true⟩
  | .rollback k, s => some ⟨k, Session.fresh s.db, true⟩

/-- The next statement is a commit. -/
def commitsNext : Program σ ε α → Bool
  | .commit _ => true
  | _ => false

/-- How a program ended that has no statements left. -/
def outcome? : Program σ ε α → Option (Outcome ε α)
  | .ret o => some o
  | _ => none

theorem outcome?_eq_some {p : Program σ ε α} {o : Outcome ε α} :
    p.outcome? = some o ↔ p = .ret o := by
  cases p <;> simp [outcome?]

section Turns

variable {p : Program σ ε α} {s : Session σ} {t : Turn σ ε α}

/-- Turn after turn, a program runs. -/
theorem next_run (h : p.next s = some t) : p.run s = t.prog.run t.session := by
  cases p with
  | ret o => cases h
  | read k => cases h; rfl
  | stage ws k => cases h; rfl
  | exec u k =>
      simp only [next] at h
      simp only [run]
      split_ifs at h ⊢ <;> cases h <;> rfl
  | commit k =>
      cases hflush : Store.flush (transactionWrites s.executed s.staged) s.db with
      | some db =>
          simp only [next, hflush] at h
          cases h
          simp only [run, hflush]
      | none =>
          simp only [next, hflush] at h
          cases h
          simp only [run, hflush]
  | rollback k => cases h; rfl

/-- A program that only reads goes on reading, and leaves its session as it is. -/
theorem Queries.next {E : ε → Prop} (hp : p.Queries E) (h : p.next s = some t) :
    t.prog.Queries E ∧ t.session = s ∧ t.ended = false := by
  cases p with
  | ret o => cases h
  | read k =>
      cases h
      exact ⟨hp _, rfl, rfl⟩
  | _ => exact hp.elim

variable {rely guar : σ → σ → Prop} {Q : Outcome ε α → Session σ → Prop}

/-- In the middle of its run, over rows the others have led to. -/
def Ready (rely guar : σ → σ → Prop) (Q : Outcome ε α → Session σ → Prop) (p : Program σ ε α)
    (s : Session σ) : Prop :=
  ∃ d, rely d s.db ∧ p.Wp rely guar Q { s with db := d }

theorem Ready.of_wp (hrefl : ∀ d, rely d d) (h : p.Wp rely guar Q s) : p.Ready rely guar Q s :=
  ⟨s.db, hrefl s.db, h⟩

/-- Others have committed. -/
theorem Ready.interfere (htrans : ∀ {a b c}, rely a b → rely b c → rely a c)
    (h : p.Ready rely guar Q s) {db : σ} (hdb : rely s.db db) :
    p.Ready rely guar Q { s with db := db } := by
  obtain ⟨d, hd, hp⟩ := h
  exact ⟨d, htrans hd hdb, hp⟩

/-- A turn of the program keeps it ready, and what it commits is in `guar`. -/
theorem Ready.next (hrefl : ∀ d, rely d d) (h : p.Ready rely guar Q s) (hnext : p.next s = some t) :
    t.prog.Ready rely guar Q t.session ∧
      (t.session.db = s.db ∨ t.ended = true ∧ guar s.db t.session.db) := by
  obtain ⟨d, hd, hp⟩ := h
  cases p with
  | ret o => cases hnext
  | read k =>
      cases hnext
      exact ⟨.of_wp hrefl (wp_read.1 hp s.db hd), .inl rfl⟩
  | stage ws k =>
      cases hnext
      exact ⟨⟨d, hd, wp_stage.1 hp⟩, .inl rfl⟩
  | exec u k =>
      have hexec := wp_exec.1 hp s.db hd
      simp only [Program.next] at hnext
      split_ifs at hnext hexec <;> cases hnext <;> exact ⟨.of_wp hrefl hexec, .inl rfl⟩
  | commit k =>
      simp only [Program.next] at hnext
      split at hnext <;> cases hnext
      · next db hflush =>
          obtain ⟨hguar, hk⟩ := wp_commit_some hp hd hflush
          exact ⟨.of_wp hrefl hk, .inr ⟨rfl, hguar⟩⟩
      · next hflush => exact ⟨.of_wp hrefl (wp_ret.2 (wp_commit_none hp hd hflush)), .inl rfl⟩
  | rollback k =>
      cases hnext
      exact ⟨⟨d, hd, wp_rollback.1 hp⟩, .inl rfl⟩

/-- The program has ended where it was to end. -/
theorem Ready.ended {o : Outcome ε α} (h : (.ret o : Program σ ε α).Ready rely guar Q s) :
    ∃ d, rely d s.db ∧ Q o { s with db := d } := by
  obtain ⟨d, hd, hp⟩ := h
  exact ⟨d, hd, wp_ret.1 hp⟩

end Turns

/-! ## What every commit keeps -/

section Kept

variable {p : Program σ ε α} {s : Session σ} {t : Turn σ ε α}

/-- A statement leaves the rows as they are, or flushes writes. -/
theorem next_db (h : p.next s = some t) :
    t.session.db = s.db ∨ ∃ ws, Store.flush ws s.db = some t.session.db := by
  cases p with
  | ret o => cases h
  | exec u k =>
      simp only [next] at h
      split_ifs at h <;> cases h <;> exact .inl rfl
  | commit k =>
      simp only [next] at h
      split at h <;> cases h
      · next db hflush => exact .inr ⟨_, hflush⟩
      · exact .inl rfl
  | _ =>
      cases h
      exact .inl rfl

/-- Whatever a program does keeps what every commit keeps. -/
theorem wp_of_kept {kept : σ → σ → Prop} {Q : Outcome ε α → Session σ → Prop}
    (hrefl : ∀ d, kept d d) (htrans : ∀ {a b c}, kept a b → kept b c → kept a c)
    (hflush : ∀ ws d d', Store.flush ws d = some d' → kept d d') (p : Program σ ε α)
    {s : Session σ} (h : ∀ o t, kept s.db t.db → Q o t) : p.Wp kept kept Q s := by
  induction p generalizing s with
  | ret o => exact wp_ret.2 (h o s (hrefl s.db))
  | read k ih => exact wp_read.2 fun t ht => ih _ fun o u hu => h o u (htrans ht hu)
  | stage ws k ih => exact wp_stage.2 (ih h)
  | exec u k ih =>
      refine wp_exec.2 fun t ht => ?_
      split
      · exact ih true fun o u hu => h o u (htrans ht hu)
      · exact ih false fun o u hu => h o u (htrans ht hu)
  | commit k ih =>
      have hcommit : (commitAll >>= fun _ => k).Wp kept kept Q s := by
        refine wp_commitAll_bind (fun t ht _ => h .failed _ ht) fun t t' ht hsome => ?_
        have hkept := hflush _ _ _ hsome
        exact ⟨hkept, ih fun o u hu => h o u (htrans ht (htrans hkept hu))⟩
      exact hcommit
  | rollback k ih => exact wp_rollback.2 (ih h)

/-- What is known of a program twice, under two relies, holds at once under both. -/
theorem wp_and {rely rely' rely'' guar guar' : σ → σ → Prop}
    {Q Q' : Outcome ε α → Session σ → Prop} (hrely : ∀ a b, rely'' a b → rely a b ∧ rely' a b)
    {p : Program σ ε α} {s : Session σ} (h : p.Wp rely guar Q s) (h' : p.Wp rely' guar' Q' s) :
    p.Wp rely'' (fun a b => guar a b ∧ guar' a b) (fun o t => Q o t ∧ Q' o t) s := by
  induction p generalizing s with
  | ret o => exact wp_ret.2 ⟨wp_ret.1 h, wp_ret.1 h'⟩
  | read k ih =>
      refine wp_read.2 fun t ht => ?_
      obtain ⟨ht, ht'⟩ := hrely _ _ ht
      exact ih _ (wp_read.1 h t ht) (wp_read.1 h' t ht')
  | stage ws k ih => exact wp_stage.2 (ih (wp_stage.1 h) (wp_stage.1 h'))
  | exec u k ih =>
      refine wp_exec.2 fun t ht => ?_
      obtain ⟨ht, ht'⟩ := hrely _ _ ht
      have hk := wp_exec.1 h t ht
      have hk' := wp_exec.1 h' t ht'
      split_ifs at hk hk' ⊢
      · exact ih true hk hk'
      · exact ih false hk hk'
  | commit k ih =>
      have hcommit : (commitAll >>= fun _ => k).Wp rely'' (fun a b => guar a b ∧ guar' a b)
          (fun o t => Q o t ∧ Q' o t) s := by
        refine wp_commitAll_bind (fun t ht hnone => ?_) fun t t' ht hsome => ?_
        · obtain ⟨ht, ht'⟩ := hrely _ _ ht
          exact ⟨wp_commit_none h ht hnone, wp_commit_none h' ht' hnone⟩
        · obtain ⟨ht, ht'⟩ := hrely _ _ ht
          obtain ⟨hguar, hk⟩ := wp_commit_some h ht hsome
          obtain ⟨hguar', hk'⟩ := wp_commit_some h' ht' hsome
          exact ⟨⟨hguar, hguar'⟩, ih hk hk'⟩
      exact hcommit
  | rollback k ih => exact wp_rollback.2 (ih (wp_rollback.1 h) (wp_rollback.1 h'))

/-- A program remembers what has been kept since it began. -/
theorem wp_remember {kept : σ → σ → Prop} {Q : Outcome ε α → Session σ → Prop}
    (hrefl : ∀ d, kept d d) (htrans : ∀ {a b c}, kept a b → kept b c → kept a c)
    (hflush : ∀ ws d d', Store.flush ws d = some d' → kept d d') {p : Program σ ε α}
    {s : Session σ} (h : p.Wp kept kept Q s) :
    p.Wp kept kept (fun o t => kept s.db t.db ∧ Q o t) s :=
  wp_mono_guar (fun _ _ hguar => hguar.1)
    (wp_and (fun _ _ hab => ⟨hab, hab⟩) (wp_of_kept hrefl htrans hflush p fun _ _ ht => ht) h)

end Kept

/-! ## What a program stages -/

section Stages

variable {W : ω → Prop}

/-- The open transaction goes on to hold only such writes, and a turn that commits commits only
    such. -/
theorem Stages.next {p : Program σ ε α} {s : Session σ} {t : Turn σ ε α} (hp : p.Stages W)
    (hs : ∀ w ∈ transactionWrites s.executed s.staged, W w) (h : p.next s = some t) :
    t.prog.Stages W ∧ (∀ w ∈ transactionWrites t.session.executed t.session.staged, W w) ∧
      (t.session.db = s.db ∨ t.ended = true ∧
        ∃ ws, (∀ w ∈ ws, W w) ∧ Store.flush ws s.db = some t.session.db) := by
  have hfresh : ∀ db : σ, ∀ w ∈ transactionWrites (Session.fresh db).executed
      (Session.fresh db).staged, W w := by
    intro db w hw
    cases hw
  cases p with
  | ret o => cases h
  | read k =>
      cases h
      exact ⟨stages_read.1 hp _, hs, .inl rfl⟩
  | stage ws k =>
      cases h
      obtain ⟨hws, hk⟩ := stages_stage.1 hp
      refine ⟨hk, fun w hw => ?_, .inl rfl⟩
      simp only [transactionWrites, ← List.append_assoc] at hs hw
      exact (List.mem_append.1 hw).elim (hs w) (hws w)
  | exec u k =>
      obtain ⟨hu, hk⟩ := stages_exec.1 hp
      simp only [Program.next] at h
      split_ifs at h <;> cases h
      · refine ⟨hk true, fun w hw => ?_, .inl rfl⟩
        simp only [transactionWrites, List.map_append, List.map_cons, List.map_nil,
          List.mem_append, List.mem_singleton] at hs hw
        rcases hw with (hw | rfl) | hw
        · exact hs w (.inl hw)
        · exact hu
        · exact hs w (.inr hw)
      · exact ⟨hk false, hs, .inl rfl⟩
  | commit k =>
      simp only [Program.next] at h
      split at h <;> cases h
      · next db hflush => exact ⟨stages_commit.1 hp, hfresh db, .inr ⟨rfl, _, hs, hflush⟩⟩
      · exact ⟨stages_ret _, hfresh s.db, .inl rfl⟩
  | rollback k =>
      cases h
      exact ⟨stages_rollback.1 hp, hfresh s.db, .inl rfl⟩

end Stages

end Program

end VulnOpsHub
