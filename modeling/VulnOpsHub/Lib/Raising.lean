import Mathlib.Logic.Basic

set_option autoImplicit false

/-! # Calls that raise

A call reads and changes a state, and returns a value or raises. What it has changed before it raises
stays changed. `Wp` is the weakest precondition of a call, with one rule for each way to build one. -/

namespace VulnOpsHub

def Raising (σ ε α : Type) : Type := σ → Except ε α × σ

namespace Raising

variable {σ ε α β : Type}

def raise (e : ε) : Raising σ ε α := fun s => (.error e, s)

def ofExcept (x : Except ε α) : Raising σ ε α := fun s => (x, s)

def get : Raising σ ε σ := fun s => (.ok s, s)

def modify (f : σ → σ) : Raising σ ε Unit := fun s => (.ok (), f s)

/-- A change that may be refused. -/
def change (f : σ → Option σ) (e : ε) : Raising σ ε Unit := fun s =>
  (f s).elim (.error e, s) fun t => (.ok (), t)

/-- `try: x; except: handle`. -/
def attempt (x : Raising σ ε α) (handle : ε → Raising σ ε α) : Raising σ ε α := fun s =>
  match x s with
  | (.ok a, t) => (.ok a, t)
  | (.error e, t) => handle e t

instance : Monad (Raising σ ε) where
  pure a := fun s => (.ok a, s)
  bind x f := fun s =>
    match x s with
    | (.ok a, t) => f a t
    | (.error e, t) => (.error e, t)

/-! ## Rules -/

/-- What a call does when it is started in `s` satisfies `Q`. -/
def Wp (x : Raising σ ε α) (Q : Except ε α → σ → Prop) (s : σ) : Prop := Q (x s).1 (x s).2

variable {Q Q' : Except ε α → σ → Prop} {x : Raising σ ε α} {s : σ}

theorem wp_mono (hx : x.Wp Q s) (h : ∀ r t, Q r t → Q' r t) : x.Wp Q' s := h _ _ hx

@[simp] theorem wp_pure {a : α} : (pure a : Raising σ ε α).Wp Q s ↔ Q (.ok a) s := Iff.rfl

@[simp] theorem wp_raise {e : ε} : (raise e : Raising σ ε α).Wp Q s ↔ Q (.error e) s := Iff.rfl

@[simp] theorem wp_ofExcept {r : Except ε α} :
    (ofExcept r : Raising σ ε α).Wp Q s ↔ Q r s := Iff.rfl

@[simp] theorem wp_get {Q : Except ε σ → σ → Prop} :
    (get : Raising σ ε σ).Wp Q s ↔ Q (.ok s) s := Iff.rfl

@[simp] theorem wp_modify {Q : Except ε Unit → σ → Prop} {f : σ → σ} :
    (modify f : Raising σ ε Unit).Wp Q s ↔ Q (.ok ()) (f s) := Iff.rfl

theorem wp_change {Q : Except ε Unit → σ → Prop} {f : σ → Option σ} {e : ε}
    (hsome : ∀ t, f s = some t → Q (.ok ()) t) (hnone : Q (.error e) s) : (change f e).Wp Q s := by
  unfold Wp change
  cases h : f s with
  | none => exact hnone
  | some t => exact hsome t h

/-- How a call goes on after its first part: with `f`, unless that part raised. -/
def andThen (f : α → Raising σ ε β) (Q : Except ε β → σ → Prop) : Except ε α → σ → Prop
  | .ok a, t => (f a).Wp Q t
  | .error e, t => Q (.error e) t

theorem wp_bind {f : α → Raising σ ε β} {Q : Except ε β → σ → Prop} :
    (x >>= f).Wp Q s ↔ x.Wp (andThen f Q) s := by
  have hbind : (x >>= f) s = match x s with
      | (.ok a, t) => f a t
      | (.error e, t) => (.error e, t) := rfl
  unfold Wp
  rw [hbind]
  obtain ⟨r, t⟩ := x s
  cases r <;> exact Iff.rfl

theorem bind_of_ok {f : α → Raising σ ε β} {a : α} {t : σ} (h : x s = (.ok a, t)) :
    (x >>= f) s = f a t := by
  show (match x s with
    | (.ok a, t) => f a t
    | (.error e, t) => (.error e, t)) = f a t
  rw [h]

theorem bind_of_error {f : α → Raising σ ε β} {e : ε} {t : σ} (h : x s = (.error e, t)) :
    (x >>= f) s = (.error e, t) := by
  show (match x s with
    | (.ok a, t) => f a t
    | (.error e, t) => (.error e, t)) = (.error e, t)
  rw [h]

/-- A call that returned went through both of its parts. -/
theorem bind_eq_ok {f : α → Raising σ ε β} {b : β} {t : σ} (h : (x >>= f) s = (.ok b, t)) :
    ∃ a u, x s = (.ok a, u) ∧ f a u = (.ok b, t) := by
  rcases hx : x s with ⟨e | a, u⟩
  · rw [bind_of_error hx] at h
    cases h
  · rw [bind_of_ok hx] at h
    exact ⟨a, u, rfl, h⟩

theorem change_eq_ok {f : σ → Option σ} {e : ε} {u : Unit} {t : σ}
    (h : change f e s = (.ok u, t)) : f s = some t := by
  unfold change at h
  cases hf : f s with
  | none =>
      rw [hf] at h
      cases h
  | some t' =>
      rw [hf] at h
      cases h
      rfl

theorem bind_ofExcept {r : Except ε α} {f : α → Raising σ ε β} {a : α} (h : r = .ok a) :
    ofExcept r >>= f = f a := by
  rw [h]
  rfl

theorem except_bind_eq_ok {r : Except ε α} {f : α → Except ε β} {b : β} :
    (r >>= f) = .ok b ↔ ∃ a, r = .ok a ∧ f a = .ok b := by
  cases r with
  | error e => simp [bind, Except.bind]
  | ok a => simp [bind, Except.bind]

/-- How a call goes on where it is caught. -/
def orElse (handle : ε → Raising σ ε α) (Q : Except ε α → σ → Prop) : Except ε α → σ → Prop
  | .ok a, t => Q (.ok a) t
  | .error e, t => (handle e).Wp Q t

theorem wp_attempt {handle : ε → Raising σ ε α} :
    (x.attempt handle).Wp Q s ↔ x.Wp (orElse handle Q) s := by
  unfold Wp attempt
  obtain ⟨r, t⟩ := x s
  cases r <;> exact Iff.rfl

end Raising

end VulnOpsHub
