import Mathlib.Data.List.Basic
import Mathlib.Order.Basic
import Mathlib.Data.Nat.Basic

set_option autoImplicit false

/-! # Asynchronous routines over one store

A browser tab runs the synchronous parts of its routines one at a time: a routine goes on until it waits
for the responses to some requests, and meanwhile others start, go on and end. `Tab.step` is one such
part; the order of the responses is the environment's choice.

A store may count how often it was cleared, and a routine may compare the count with the one it started
from before it goes on. `Crossless` says that nothing crosses a clear then: what comes after it is the
same whatever becomes of the routines that started before. -/

namespace VulnOpsHub

/-- An `async` function: it reads and assigns the store `σ`, and awaits the responses `α` to requests
    `ρ`, all of them or the failure of one. -/
inductive Routine (σ ρ α : Type) where
  | done
  | look (k : σ → Routine σ ρ α)
  | set (f : σ → σ) (k : Routine σ ρ α)
  | await (requests : List ρ) (landed : List α → Routine σ ρ α) (failed : Routine σ ρ α)

variable {σ ρ α ι : Type}

namespace Routine

/-- The routine goes on until it awaits something or ends. -/
def advance : Routine σ ρ α → σ → σ × Routine σ ρ α
  | .done, s => (s, .done)
  | .look k, s => (k s).advance s
  | .set f k, s => k.advance (f s)
  | .await requests landed failed, s => (s, .await requests landed failed)

/-- The requests it waits for. -/
def awaited : Routine σ ρ α → List ρ
  | .await requests _ _ => requests
  | _ => []

/-- Every request has its response. -/
def answered (fits : ρ → α → Bool) : List ρ → List α → Bool
  | [], [] => true
  | r :: requests, a :: answers => fits r a && answered fits requests answers
  | _, _ => false

/-- How a waiting routine goes on when the responses are there, or one request failed. -/
def resumption (fits : ρ → α → Bool) : Routine σ ρ α → Option (List α) → Option (Routine σ ρ α)
  | .await requests landed _, some answers =>
      if answered fits requests answers then some (landed answers) else none
  | .await _ _ failed, none => some failed
  | _, _ => none

theorem answered_nil {fits : ρ → α → Bool} {answers : List α} :
    answered fits [] answers = true ↔ answers = [] := by
  cases answers <;> simp [answered]

theorem answered_cons {fits : ρ → α → Bool} {r : ρ} {requests : List ρ} {answers : List α} :
    answered fits (r :: requests) answers = true ↔
      ∃ a rest, answers = a :: rest ∧ fits r a = true ∧ answered fits requests rest = true := by
  cases answers <;> simp [answered]

end Routine

/-- What can be started, by name, and which response a request can have. -/
structure Actions (ι σ ρ α : Type) where
  body : ι → Routine σ ρ α
  fits : ρ → α → Bool

/-- The store, the routines started so far (by number), and the requests they sent. -/
structure Tab (σ ρ α : Type) where
  store : σ
  routines : List (Routine σ ρ α)
  sent : List ρ

/-- An action is started, or the requests of a routine are settled: all answered, or one failed. -/
inductive Tab.Event (ι α : Type) where
  | start (a : ι)
  | settle (i : ℕ) (reply : Option (List α))
deriving Repr

namespace Tab

def opened (s : σ) : Tab σ ρ α := ⟨s, [], []⟩

def step (A : Actions ι σ ρ α) (t : Tab σ ρ α) : Event ι α → Option (Tab σ ρ α)
  | .start a =>
      let ran := (A.body a).advance t.store
      some ⟨ran.1, t.routines ++ [ran.2], t.sent ++ ran.2.awaited⟩
  | .settle i reply =>
      ((t.routines[i]?).bind fun r => r.resumption A.fits reply).map fun k =>
        let ran := k.advance t.store
        ⟨ran.1, t.routines.set i ran.2, t.sent ++ ran.2.awaited⟩

def run (A : Actions ι σ ρ α) (t : Tab σ ρ α) : List (Event ι α) → Option (Tab σ ρ α)
  | [] => some t
  | e :: rest => (t.step A e).bind fun u => u.run A rest

/-- Nothing is awaited. -/
def Settled (t : Tab σ ρ α) : Prop := ∀ r ∈ t.routines, r.awaited = []

variable {A : Actions ι σ ρ α}

theorem step_settle {t u : Tab σ ρ α} {i : ℕ} {reply : Option (List α)} :
    t.step A (.settle i reply) = some u ↔
      ∃ r k, t.routines[i]? = some r ∧ r.resumption A.fits reply = some k ∧
        u = ⟨(k.advance t.store).1, t.routines.set i (k.advance t.store).2,
          t.sent ++ (k.advance t.store).2.awaited⟩ := by
  simp only [step, Option.map_eq_some_iff, Option.bind_eq_some_iff]
  constructor
  · rintro ⟨k, ⟨r, hr, hk⟩, rfl⟩
    exact ⟨r, k, hr, hk, rfl⟩
  · rintro ⟨r, k, hr, hk, rfl⟩
    exact ⟨k, ⟨r, hr, hk⟩, rfl⟩

end Tab

/-! ## Clears -/

namespace Routine

variable (gen : σ → ℕ)

/-- Resumed in another generation than `g`, the routine does nothing more. -/
def Quiet (g : ℕ) (r : Routine σ ρ α) : Prop := ∀ s, gen s ≠ g → r.advance s = (s, .done)

/-- Run in this store, and resumed in generation `g`, the routine stays in it; resumed in another
    generation it does nothing. -/
def Guarded (g : ℕ) : Routine σ ρ α → σ → Prop
  | .done, s => gen s = g
  | .look k, s => (k s).Guarded g s
  | .set f k, s => k.Guarded g (f s)
  | .await _ landed failed, s =>
      gen s = g ∧ (∀ answers, (landed answers).Quiet gen g) ∧ failed.Quiet gen g ∧
        (∀ answers s', gen s' = g → (landed answers).Guarded g s') ∧
          ∀ s', gen s' = g → failed.Guarded g s'

/-- A routine that has ended, or waits and is guarded. -/
def Held (g : ℕ) (r : Routine σ ρ α) : Prop :=
  ∀ fits reply k, r.resumption fits reply = some k →
    k.Quiet gen g ∧ ∀ s, gen s = g → k.Guarded gen g s

variable {gen}

theorem Guarded.advance {g : ℕ} {r : Routine σ ρ α} {s : σ} (h : r.Guarded gen g s) :
    gen (r.advance s).1 = g ∧ (r.advance s).2.Held gen g := by
  induction r generalizing s with
  | done => exact ⟨h, fun fits reply k hk => by cases reply <;> cases hk⟩
  | look k ih => exact ih s h
  | set f k ih => exact ih h
  | await requests landed failed _ _ =>
      obtain ⟨hs, hlanded, hfailed, ihlanded, ihfailed⟩ := h
      refine ⟨hs, fun fits reply k hk => ?_⟩
      cases reply with
      | none =>
          cases hk
          exact ⟨hfailed, ihfailed⟩
      | some answers =>
          simp only [Routine.advance, resumption, Option.ite_none_right_eq_some, Option.some.injEq]
            at hk
          obtain ⟨-, rfl⟩ := hk
          exact ⟨hlanded answers, ihlanded answers⟩

end Routine

/-- Every action stays in the generation it is started in, but for the one that clears the store. -/
structure Actions.Generational (A : Actions ι σ ρ α) (gen : σ → ℕ) (clear : ι) : Prop where
  guarded : ∀ a, a ≠ clear → ∀ s, (A.body a).Guarded gen (gen s) s
  clears : ∃ f, A.body clear = .set f .done ∧ ∀ s, gen (f s) = gen s + 1

namespace Tab

/-- Of the first `n` routines each is from an earlier generation than the store's. -/
structure Since (gen : σ → ℕ) (n : ℕ) (t : Tab σ ρ α) : Prop where
  count : n ≤ t.routines.length
  held : ∀ (i : ℕ) r, t.routines[i]? = some r →
    ∃ g, r.Held gen g ∧ g ≤ gen t.store ∧ (i < n → g < gen t.store)

variable {A : Actions ι σ ρ α} {gen : σ → ℕ} {clear : ι} {n : ℕ} {t u : Tab σ ρ α}

/-- A new routine of the present generation, and a generation that does not decrease. -/
theorem Since.start (h : t.Since gen n) {s : σ} {r : Routine σ ρ α} {sent : List ρ}
    (hs : gen t.store ≤ gen s) (hr : r.Held gen (gen s)) :
    Since gen n ⟨s, t.routines ++ [r], sent⟩ := by
  refine ⟨by simpa using Nat.le_succ_of_le h.count, fun i x hx => ?_⟩
  rw [List.getElem?_append] at hx
  by_cases hi : i < t.routines.length
  · rw [if_pos hi] at hx
    obtain ⟨g, hg, hle, hlt⟩ := h.held i x hx
    exact ⟨g, hg, hle.trans hs, fun hn => (hlt hn).trans_le hs⟩
  · rw [if_neg hi, List.getElem?_singleton] at hx
    split at hx
    · cases hx
      exact ⟨gen s, hr, le_refl _, fun hn => absurd (hn.trans_le h.count) hi⟩
    · cases hx

theorem Since.replace (h : t.Since gen n) {s : σ} {i g : ℕ} {r : Routine σ ρ α} {sent : List ρ}
    (hs : gen s = gen t.store) (hr : r.Held gen g) (hle : g ≤ gen t.store)
    (hlt : i < n → g < gen t.store) : Since gen n ⟨s, t.routines.set i r, sent⟩ := by
  refine ⟨by simpa using h.count, fun j x hx => ?_⟩
  rw [List.getElem?_set] at hx
  simp only [hs]
  by_cases hj : i = j
  · subst hj
    rw [if_pos rfl] at hx
    split at hx
    · cases hx
      exact ⟨g, hr, hle, hlt⟩
    · cases hx
  · rw [if_neg hj] at hx
    exact h.held j x hx

theorem held_done {g : ℕ} : (.done : Routine σ ρ α).Held gen g :=
  fun fits reply k hk => by cases reply <;> cases hk

theorem Since.step (hA : A.Generational gen clear) (h : t.Since gen n) {e : Event ι α}
    (hstep : t.step A e = some u) : u.Since gen n := by
  cases e with
  | start a =>
      cases hstep
      by_cases ha : a = clear
      · subst ha
        obtain ⟨f, hbody, hf⟩ := hA.clears
        simp only [hbody, Routine.advance]
        exact h.start (by rw [hf]; exact Nat.le_succ _) held_done
      · obtain ⟨hgen, hheld⟩ := (hA.guarded a ha t.store).advance
        exact h.start hgen.ge (hgen ▸ hheld)
  | settle i reply =>
      obtain ⟨r, k, hr, hk, rfl⟩ := step_settle.1 hstep
      obtain ⟨g, hheld, hle, hlt⟩ := h.held i r hr
      obtain ⟨hquiet, hguarded⟩ := hheld A.fits reply k hk
      by_cases hg : gen t.store = g
      · obtain ⟨hgen, hnext⟩ := (hguarded t.store hg).advance
        exact h.replace (hgen.trans hg.symm) hnext hle hlt
      · simp only [hquiet t.store hg]
        exact h.replace rfl held_done hle hlt

end Tab

end VulnOpsHub
