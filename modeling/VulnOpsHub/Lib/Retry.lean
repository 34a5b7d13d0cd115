import Mathlib.Data.Nat.Basic

set_option autoImplicit false

/-! # Sending a request again

A client that gets no answer cannot tell whether its request was processed. If it sends the request
again, the server may process it twice. That has the effect of one processing when the second changes
nothing, or does what it would have done alone; a counter that one processing raises by at most one
tells when it has not. -/

namespace VulnOpsHub

/-- What becomes of a request on its way: it is answered, it does not reach the server, or the answer
    is lost. -/
inductive Fate where
  | answered
  | unreached
  | lost
deriving DecidableEq, Repr

/-- A request and its repetition, of which at most one is not answered, each processed in an
    environment of its own. -/
structure Connection (ε : Type) where
  first : Fate
  second : Fate
  firstEnv : ε
  secondEnv : ε
  single : first = .answered ∨ second = .answered

variable {ε ρ σ : Type} (serve : ε → σ → ρ × σ)

/-- A request that is sent: the answer, if there is one, and the state of the server. -/
def deliver : Fate → ε → σ → Option ρ × σ
  | .answered, e, s => (some (serve e s).1, (serve e s).2)
  | .unreached, _, s => (none, s)
  | .lost, e, s => (none, (serve e s).2)

/-- A request that is sent again when there is no answer. -/
def retried (c : Connection ε) (s : σ) : Option ρ × σ :=
  match deliver serve c.first c.firstEnv s with
  | (some answer, t) => (some answer, t)
  | (none, t) => deliver serve c.second c.secondEnv t

/-- The state is the one before, or the one after the request was processed once. -/
def AtMostOnce (s t : σ) : Prop := t = s ∨ ∃ e, t = (serve e s).2

variable {serve}

/-- A single failure matters only when it is the answer that is lost. -/
theorem retried_atMostOnce_iff {c : Connection ε} {s : σ} :
    AtMostOnce serve s (retried serve c s).2 ↔
      (c.first = .lost → AtMostOnce serve s (serve c.secondEnv (serve c.firstEnv s).2).2) := by
  obtain ⟨first, second, e, e', hsingle⟩ := c
  cases first with
  | answered => exact iff_of_true (Or.inr ⟨e, rfl⟩) (by simp)
  | unreached =>
      obtain rfl := hsingle.resolve_left (by simp)
      exact iff_of_true (Or.inr ⟨e', rfl⟩) (by simp)
  | lost =>
      obtain rfl := hsingle.resolve_left (by simp)
      exact ⟨fun h _ => h, fun h => h rfl⟩

/-- A second processing that changes nothing, or does what it would have done alone. -/
theorem AtMostOnce.of_absorbed {e e' : ε} {s : σ}
    (h : (serve e' (serve e s).2).2 = (serve e s).2 ∨
      (serve e' (serve e s).2).2 = (serve e' s).2) :
    AtMostOnce serve s (serve e' (serve e s).2).2 :=
  h.elim (fun h => Or.inr ⟨e, h⟩) fun h => Or.inr ⟨e', h⟩

/-- A counter that goes up by two shows a second processing. -/
theorem not_atMostOnce_of_count {count : σ → ℕ} {s t : σ}
    (hserve : ∀ e, count (serve e s).2 ≤ count s + 1) (htwice : count t = count s + 2) :
    ¬ AtMostOnce serve s t := by
  rintro (rfl | ⟨e, rfl⟩)
  · omega
  · have hone := hserve e
    omega

end VulnOpsHub
