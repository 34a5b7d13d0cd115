import VulnOpsHub.Lib.Turns
import Mathlib.Logic.Relation

set_option autoImplicit false

/-! # Programs side by side

Calls of a service, each with a program and a session of its own, take turns over the same rows.
Whoever is scheduled executes its next statement; a call that is never scheduled again has crashed.

`Parallel.ready` is the parallel rule: calls that meet their postconditions under interference, each
committing only what the others rely on, meet them in every interleaving. `Parallel.commits` says that
the rows are those of a chain of such commits. -/

namespace VulnOpsHub

variable {σ ω ρ : Type} [Store σ ω ρ] {κ ε α : Type}

/-- A call in progress. -/
structure Party (σ : Type) {ω ρ : Type} [Store σ ω ρ] (κ ε α : Type) where
  call : κ
  prog : Program σ ε α
  executed : List (CondUpdate σ)
  staged : List ω

namespace Party

def initial (body : κ → Program σ ε α) (c : κ) : Party σ κ ε α := ⟨c, body c, [], []⟩

def session (p : Party σ κ ε α) (db : σ) : Session σ := ⟨db, p.executed, p.staged⟩

/-- The call after its turn. -/
def after (p : Party σ κ ε α) (t : Program.Turn σ ε α) : Party σ κ ε α :=
  ⟨p.call, t.prog, t.session.executed, t.session.staged⟩

/-- How the call has ended, if it has. -/
def outcome? (p : Party σ κ ε α) : Option (Outcome ε α) := p.prog.outcome?

end Party

/-- The committed rows and the calls. -/
structure Parallel (σ : Type) {ω ρ : Type} [Store σ ω ρ] (κ ε α : Type) where
  db : σ
  parties : List (Party σ κ ε α)

namespace Parallel

def start (body : κ → Program σ ε α) (calls : List κ) (db : σ) : Parallel σ κ ε α :=
  ⟨db, calls.map (Party.initial body)⟩

/-- The next statement of the call with number `i`. -/
def step (s : Parallel σ κ ε α) (i : ℕ) : Option (Parallel σ κ ε α) :=
  (s.parties[i]?).bind fun p =>
    (p.prog.next (p.session s.db)).map fun t => ⟨t.session.db, s.parties.set i (p.after t)⟩

/-- Run a schedule. -/
def runTurns (s : Parallel σ κ ε α) : List ℕ → Option (Parallel σ κ ε α)
  | [] => some s
  | i :: is => (s.step i).bind fun s' => s'.runTurns is

/-- The states that any schedule reaches. -/
def Reaches : Parallel σ κ ε α → Parallel σ κ ε α → Prop :=
  Relation.ReflTransGen fun s s' => ∃ i, s.step i = some s'

theorem Reaches.of_runTurns {s s' : Parallel σ κ ε α} (is : List ℕ) (h : s.runTurns is = some s') :
    s.Reaches s' := by
  induction is generalizing s with
  | nil =>
      cases h
      exact .refl
  | cons i is ih =>
      obtain ⟨s₁, hstep, hrest⟩ := Option.bind_eq_some_iff.1 h
      exact .head ⟨i, hstep⟩ (ih hrest)

theorem step_eq_some {s s' : Parallel σ κ ε α} {i : ℕ} : s.step i = some s' ↔
    ∃ p t, s.parties[i]? = some p ∧ p.prog.next (p.session s.db) = some t ∧
      s' = ⟨t.session.db, s.parties.set i (p.after t)⟩ := by
  simp only [step, Option.bind_eq_some_iff, Option.map_eq_some_iff]
  constructor
  · rintro ⟨p, hp, t, ht, rfl⟩
    exact ⟨p, t, hp, ht, rfl⟩
  · rintro ⟨p, t, hp, ht, rfl⟩
    exact ⟨p, hp, t, ht, rfl⟩

/-- A turn is one of a call, and no call becomes another. -/
theorem step_calls {s s' : Parallel σ κ ε α} {i : ℕ} (h : s.step i = some s') :
    s'.parties.map Party.call = s.parties.map Party.call := by
  obtain ⟨p, t, hp, -, rfl⟩ := step_eq_some.1 h
  rw [List.map_set]
  refine List.ext_getElem? fun j => ?_
  rw [List.getElem?_set]
  split_ifs with hij hlt
  · subst hij
    rw [List.getElem?_map, hp]
    rfl
  · subst hij
    rw [List.getElem?_eq_none (by omega)]
  · rfl

theorem Reaches.calls {s s' : Parallel σ κ ε α} (h : s.Reaches s') :
    s'.parties.map Party.call = s.parties.map Party.call := by
  induction h with
  | refl => rfl
  | tail _ hstep ih =>
      obtain ⟨i, hstep⟩ := hstep
      exact (step_calls hstep).trans ih

theorem start_calls (body : κ → Program σ ε α) (calls : List κ) (db : σ) :
    (start body calls db).parties.map Party.call = calls := by
  simp [start, Party.initial, Function.comp_def]

/-! ## The parallel rule -/

section Rule

variable {rely guar : κ → σ → σ → Prop} {Q : κ → Outcome ε α → Session σ → Prop}

/-- Two calls each of which commits only what the other relies on. -/
def Compatible (rely guar : κ → σ → σ → Prop) (c c' : κ) : Prop :=
  (∀ s t, guar c s t → rely c' s t) ∧ ∀ s t, guar c' s t → rely c s t

/-- What is to be shown of the calls: that each relies on a preorder, and on no more than what the
    others commit, and meets its postcondition from the rows they begin with. -/
structure Outlined (body : κ → Program σ ε α) (rely guar : κ → σ → σ → Prop)
    (Q : κ → Outcome ε α → Session σ → Prop) (calls : List κ) (db : σ) : Prop where
  refl : ∀ c s, rely c s s
  trans : ∀ c {s t u}, rely c s t → rely c t u → rely c s u
  compatible : calls.Pairwise (Compatible rely guar)
  meets : ∀ c ∈ calls, (body c).Wp (rely c) (guar c) (Q c) (Session.fresh db)

/-- Every call is ready to go on. -/
def AllReady (rely guar : κ → σ → σ → Prop) (Q : κ → Outcome ε α → Session σ → Prop)
    (s : Parallel σ κ ε α) : Prop :=
  ∀ (i : ℕ) (p : Party σ κ ε α), s.parties[i]? = some p →
    p.prog.Ready (rely p.call) (guar p.call) (Q p.call) (p.session s.db)

/-- A commit of one of the calls. -/
def Commits (guar : κ → σ → σ → Prop) (calls : List κ) (s t : σ) : Prop := ∃ c ∈ calls, guar c s t

variable {body : κ → Program σ ε α} {calls : List κ} {db : σ} {s s' : Parallel σ κ ε α}

theorem Outlined.start (h : Outlined body rely guar Q calls db) :
    (Parallel.start body calls db).AllReady rely guar Q := by
  intro i p hp
  obtain ⟨c, hc, rfl⟩ := List.mem_map.1 (List.mem_of_getElem? hp)
  exact .of_wp (h.refl c) (h.meets c hc)

theorem compatible_of_ne (hpar : (s.parties.map Party.call).Pairwise (Compatible rely guar)) {i j : ℕ}
    {p q : Party σ κ ε α} (hp : s.parties[i]? = some p) (hq : s.parties[j]? = some q) (hij : i ≠ j)
    {d d' : σ} (hguar : guar p.call d d') : rely q.call d d' := by
  obtain ⟨hi, rfl⟩ := List.getElem?_eq_some_iff.1 hp
  obtain ⟨hj, rfl⟩ := List.getElem?_eq_some_iff.1 hq
  have hcalls := List.pairwise_iff_getElem.1 hpar
  simp only [List.length_map, List.getElem_map] at hcalls
  rcases Nat.lt_or_gt_of_ne hij with hlt | hlt
  · exact (hcalls i j hi hj hlt).1 d d' hguar
  · exact (hcalls j i hj hi hlt).2 d d' hguar

/-- A turn keeps every call ready, and commits only as its call guarantees. -/
theorem AllReady.step (hrefl : ∀ c s, rely c s s)
    (htrans : ∀ c {s t u}, rely c s t → rely c t u → rely c s u)
    (hpar : (s.parties.map Party.call).Pairwise (Compatible rely guar))
    (h : s.AllReady rely guar Q) {i : ℕ} (hstep : s.step i = some s') :
    s'.AllReady rely guar Q ∧
      (s'.db = s.db ∨ Commits guar (s.parties.map Party.call) s.db s'.db) := by
  obtain ⟨p, t, hp, hnext, rfl⟩ := step_eq_some.1 hstep
  obtain ⟨hready, hdb⟩ := (h i p hp).next (hrefl p.call) hnext
  refine ⟨fun j q hq => ?_, hdb.imp id fun hcommit => ?_⟩
  · rw [List.getElem?_set] at hq
    split_ifs at hq with hij hlt
    · cases hq
      exact hready
    · -- the rows have changed under a call whose turn it is not
      refine (h j q hq).interfere (by exact fun hab hbc => htrans q.call hab hbc) ?_
      rcases hdb with hdb | ⟨-, hguar⟩
      · rw [hdb]
        exact hrefl q.call s.db
      · exact compatible_of_ne hpar hp hq hij hguar
  · exact ⟨p.call, List.mem_map_of_mem (List.mem_of_getElem? hp), hcommit.2⟩

/-- **Calls that commit only what the others rely on are ready in every interleaving**, over rows that
    a chain of their commits has led to. -/
theorem ready (h : Outlined body rely guar Q calls db)
    (hs : (Parallel.start body calls db).Reaches s) :
    s.AllReady rely guar Q ∧ Relation.ReflTransGen (Commits guar calls) db s.db := by
  induction hs with
  | refl => exact ⟨h.start, .refl⟩
  | @tail s s' hs hstep ih =>
      obtain ⟨i, hstep⟩ := hstep
      obtain ⟨hready, hchain⟩ := ih
      have hcalls : s.parties.map Party.call = calls :=
        (Reaches.calls hs).trans (start_calls body calls db)
      obtain ⟨hready', hdb⟩ :=
        hready.step h.refl (fun c => h.trans c) (hcalls ▸ h.compatible) hstep
      refine ⟨hready', ?_⟩
      rcases hdb with hdb | hcommit
      · rwa [hdb]
      · exact hchain.tail (hcalls ▸ hcommit)

/-- A call that has ended meets its postcondition over rows it has seen, and the rows are now where it
    relies on the others to have led. -/
theorem ended (h : Outlined body rely guar Q calls db)
    (hs : (Parallel.start body calls db).Reaches s) {p : Party σ κ ε α} {o : Outcome ε α}
    (hp : p ∈ s.parties) (ho : p.outcome? = some o) :
    p.call ∈ calls ∧ ∃ d, rely p.call d s.db ∧ Q p.call o (p.session d) := by
  obtain ⟨i, hi⟩ := List.mem_iff_getElem?.1 hp
  have hready := (ready h hs).1 i p hi
  have hcalls : s.parties.map Party.call = calls := hs.calls.trans (start_calls body calls db)
  refine ⟨hcalls ▸ List.mem_map_of_mem hp, ?_⟩
  rw [Program.outcome?_eq_some.1 ho] at hready
  exact hready.ended

end Rule

end Parallel

end VulnOpsHub
