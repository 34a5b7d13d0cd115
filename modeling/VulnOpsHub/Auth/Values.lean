import VulnOpsHub.Lib.Python
import Mathlib.Algebra.Order.Group.Unbundled.Abs
import Mathlib.Algebra.Order.Ring.Rat

set_option autoImplicit false

/-! # What the verifier reads

Values as `json.loads` makes them, floats, and URLs. Floats are the rationals they stand for. -/

namespace VulnOpsHub

/-! ## Values -/

/-- A value read from JSON. Floats that are not finite are kept apart from the others. -/
inductive Value where
  | none
  | bool (b : Bool)
  | int (n : ℤ)
  | float (q : ℚ)
  | nonFinite
  | str (s : String)
  | list (items : List Value)
  | dict (members : List (String × Value))

/-- The members of a `dict`. -/
abbrev Mapping := List (String × Value)

namespace Value

/-- `mapping.get(key)`. -/
def get (mapping : Mapping) (key : String) : Value := (mapping.lookup key).getD .none

/-- `value == text`, for a string. -/
def isText (value : Value) (text : String) : Bool :=
  match value with
  | .str s => s = text
  | _ => false

theorem isText_eq_true {value : Value} {text : String} :
    value.isText text = true ↔ value = .str text := by
  cases value <;> simp [isText]

end Value

/-! ## Floats -/

/-- Rounding to the nearest double; a number that is too large has none. -/
class Doubles where
  round : ℚ → Option ℚ
  round_int : ∀ n : ℤ, |n| ≤ 2 ^ 53 → round n = some (n : ℚ)
  round_mono : ∀ {p q a b : ℚ}, p ≤ q → round p = some a → round q = some b → a ≤ b
  round_round : ∀ {q a : ℚ}, round q = some a → round a = some a
  round_between : ∀ {p q r a b : ℚ}, p ≤ q → q ≤ r → round p = some a → round r = some b →
    ∃ c, round q = some c

/-- Doubles without rounding, to evaluate the model on small numbers. -/
@[reducible]
def exactDoubles : Doubles where
  round := some
  round_int := fun _ _ => rfl
  round_mono := fun h ha hb => by
    rw [← Option.some.inj ha, ← Option.some.inj hb]
    exact h
  round_round := fun _ => rfl
  round_between := fun _ _ _ _ => ⟨_, rfl⟩

section Floats

variable [Doubles]

/-- `float(value)`, for a number. -/
def floatOf : Value → Option ℚ
  | .bool b => some (if b then 1 else 0)
  | .int n => Doubles.round n
  | .float q => Doubles.round q
  | _ => none

/-- `x - y < bound`. -/
def elapsedBelow (x y bound : ℚ) : Bool :=
  match Doubles.round (x - y) with
  | some d => d < bound
  | none => x - y < 0

/-- What is below a double after rounding was below it before. -/
theorem lt_of_round_lt {q a bound : ℚ} (hround : Doubles.round q = some a)
    (hbound : Doubles.round bound = some bound) (h : a < bound) : q < bound := by
  by_contra hnot
  exact absurd h (not_lt.2 (Doubles.round_mono (not_lt.1 hnot) hbound hround))

theorem lt_of_lt_round {q a bound : ℚ} (hround : Doubles.round q = some a)
    (hbound : Doubles.round bound = some bound) (h : bound < a) : bound < q := by
  by_contra hnot
  exact absurd h (not_lt.2 (Doubles.round_mono (not_lt.1 hnot) hround hbound))

theorem elapsed_lt {x y bound : ℚ} (hbound : Doubles.round bound = some bound) (hpos : 0 ≤ bound)
    (h : elapsedBelow x y bound = true) : x - y < bound := by
  unfold elapsedBelow at h
  split at h
  · next hround => exact lt_of_round_lt hround hbound (by simpa using h)
  · have hneg : x - y < 0 := by simpa using h
    exact lt_of_lt_of_le hneg hpos

/-- What is recent by an earlier date is recent by a later one. -/
theorem elapsedBelow_mono {x y y' bound : ℚ} (hy : y ≤ y') (hx : y' ≤ x)
    (h : elapsedBelow x y bound = true) : elapsedBelow x y' bound = true := by
  have hzero : Doubles.round 0 = some 0 := by
    simpa using Doubles.round_int 0 (by simp)
  have hpos : 0 ≤ x - y' := sub_nonneg.2 hx
  have hle : x - y' ≤ x - y := sub_le_sub_left hy x
  unfold elapsedBelow at h ⊢
  cases hround : Doubles.round (x - y) with
  | none =>
      rw [hround] at h
      have hneg : x - y < 0 := by simpa using h
      exact absurd (hpos.trans hle) (not_le.2 hneg)
  | some d =>
      rw [hround] at h
      have hd : d < bound := by simpa using h
      obtain ⟨d', hd'⟩ := Doubles.round_between hpos hle hzero hround
      rw [hd']
      have hdd : d' ≤ d := Doubles.round_mono hle hd' hround
      simpa using hdd.trans_lt hd

end Floats

/-! ## URLs -/

/-- The parts of a URL that are looked at. -/
structure ParsedUrl where
  scheme : String
  netloc : String
  hostname : Option String
deriving DecidableEq, Repr

/-- The parsers of the standard library. -/
class Urls where
  /-- `urlparse(value)` with its `hostname` and `port`, unless one of them raises. -/
  urlparse : String → Option ParsedUrl
  /-- `ipaddress.ip_address(hostname).is_loopback`, unless it raises. -/
  isLoopback : String → Option Bool

section Urls

variable [Urls]

/-- `_is_loopback_hostname`. -/
def isLoopbackHostname (hostname : Option String) : Bool :=
  (nonEmpty hostname).any fun h => (Urls.isLoopback h).getD false

/-- `_valid_http_url`. -/
def validHttpUrl (value : String) (allowInsecureLoopback : Bool) : Bool :=
  match Urls.urlparse value with
  | none => false
  | some parsed =>
      if parsed.netloc = "" || (nonEmpty parsed.hostname).isNone then false
      else parsed.scheme = "https" ||
        parsed.scheme = "http" && allowInsecureLoopback && isLoopbackHostname parsed.hostname

end Urls

end VulnOpsHub
