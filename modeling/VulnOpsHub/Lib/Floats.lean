import Mathlib.Algebra.Order.Field.Power
import Mathlib.Data.Int.Log
import Mathlib.Data.Rat.Floor
import Mathlib.Tactic.FieldSimp
import Mathlib.Tactic.Linarith
import Mathlib.Tactic.Positivity

set_option autoImplicit false

/-! # Floating-point numbers

A format of floats is given by how it rounds: an operation on two numbers is the exact one, rounded.
Infinities and the value that is no number are computed with as in IEEE 754, without the sign of a
zero, which no comparison sees. `binary64` rounds to the nearest number with 53 binary digits, and
`unrounded` leaves them as they are; both keep the order of the numbers they round, which carries over to sums and
products. -/

namespace VulnOpsHub

/-- A rational number, an infinity or no number. -/
inductive Number where
  | finite (value : ℚ)
  | infinite (negative : Bool)
  | nan
deriving DecidableEq, Repr

/-- What a format makes of a rational number. -/
abbrev Rounding := ℚ → Number

namespace Number

instance : Zero Number := ⟨.finite 0⟩

instance : Coe ℚ Number := ⟨.finite⟩

theorem zero_def : (0 : Number) = .finite 0 := rfl

/-! ## Operations -/

section Operations

variable (r : Rounding)

/-- The number in the format. -/
def round : Number → Number
  | .finite a => r a
  | x => x

def neg : Number → Number
  | .finite a => .finite (-a)
  | .infinite negative => .infinite !negative
  | .nan => .nan

def add : Number → Number → Number
  | .finite a, .finite b => r (a + b)
  | .nan, _ => .nan
  | _, .nan => .nan
  | .infinite m, .infinite n => if m = n then .infinite m else .nan
  | .infinite n, .finite _ => .infinite n
  | .finite _, .infinite n => .infinite n

def sub (x y : Number) : Number := add r x y.neg

/-- The product with a positive factor. -/
def scale (factor : ℚ) : Number → Number
  | .finite a => r (factor * a)
  | x => x

end Operations

/-- `x <= y`, never true of what is no number. -/
def le : Number → Number → Bool
  | .nan, _ => false
  | _, .nan => false
  | .infinite true, _ => true
  | _, .infinite false => true
  | .finite a, .finite b => decide (a ≤ b)
  | _, _ => false

/-- `x < y`. -/
def lt (x y : Number) : Bool := x.le y && !y.le x

/-- `max(low, min(high, x))`: what is no number is not below `high`. -/
def clamp (low high : ℚ) : Number → ℚ
  | .finite a => max low (min high a)
  | .infinite negative => if negative then low else max low high
  | .nan => max low high

/-! ## Order -/

theorem le_trans {x y z : Number} (h : x.le y = true) (h' : y.le z = true) : x.le z = true := by
  rcases x with a | (_ | _) | _ <;> rcases y with b | (_ | _) | _ <;>
    rcases z with c | (_ | _) | _ <;> simp_all [le]
  exact h.trans h'

theorem lt_of_lt_of_le {x y z : Number} (h : x.lt y = true) (h' : y.le z = true) :
    x.lt z = true := by
  simp only [lt, Bool.and_eq_true, Bool.not_eq_true'] at h ⊢
  refine ⟨le_trans h.1 h', Bool.eq_false_iff.2 fun hzx => ?_⟩
  exact Bool.eq_false_iff.1 h.2 (le_trans h' hzx)

theorem lt_of_le_of_lt {x y z : Number} (h : x.le y = true) (h' : y.lt z = true) :
    x.lt z = true := by
  simp only [lt, Bool.and_eq_true, Bool.not_eq_true'] at h' ⊢
  refine ⟨le_trans h h'.1, Bool.eq_false_iff.2 fun hzx => ?_⟩
  exact Bool.eq_false_iff.1 h'.2 (le_trans hzx h)

/-- `x` is the same as `y`, or compares as at most `y`. -/
def UpTo (x y : Number) : Prop := x = y ∨ x.le y = true

theorem UpTo.refl (x : Number) : x.UpTo x := Or.inl rfl

theorem UpTo.le_of_le {x y z : Number} (h : y.UpTo z) (hle : x.le y = true) : x.le z = true := by
  rcases h with rfl | h
  · exact hle
  · exact le_trans hle h

theorem UpTo.lt_of_lt {x y z : Number} (h : y.UpTo z) (hlt : x.lt y = true) : x.lt z = true := by
  rcases h with rfl | h
  · exact hlt
  · exact lt_of_lt_of_le hlt h

theorem UpTo.lt_of_lt' {x y z : Number} (h : x.UpTo y) (hlt : y.lt z = true) : x.lt z = true := by
  rcases h with rfl | h
  · exact hlt
  · exact lt_of_le_of_lt h hlt

/-- What a clamp makes of `x` is at most what it makes of `y`: an infinity and no number count
    alike. -/
def AtMost : Number → Number → Prop
  | _, .nan => True
  | _, .infinite false => True
  | .infinite true, _ => True
  | .finite a, .finite b => a ≤ b
  | _, _ => False

theorem AtMost.refl (x : Number) : x.AtMost x := by
  rcases x with a | (_ | _) | _ <;> simp [AtMost]

theorem AtMost.trans {x y z : Number} (h : x.AtMost y) (h' : y.AtMost z) : x.AtMost z := by
  rcases x with a | (_ | _) | _ <;> rcases y with b | (_ | _) | _ <;>
    rcases z with c | (_ | _) | _ <;> simp_all [AtMost]
  exact h.trans h'

theorem AtMost.of_le {x y : Number} (h : x.le y = true) : x.AtMost y := by
  rcases x with a | (_ | _) | _ <;> rcases y with b | (_ | _) | _ <;> simp_all [le, AtMost]

theorem UpTo.atMost {x y : Number} (h : x.UpTo y) : x.AtMost y := by
  rcases h with rfl | h
  · exact AtMost.refl _
  · exact AtMost.of_le h

theorem AtMost.clamp_le {x y : Number} (h : x.AtMost y) (low high : ℚ) :
    x.clamp low high ≤ y.clamp low high := by
  have htop : ∀ z : Number, z.clamp low high ≤ max low high := by
    rintro (c | (_ | _) | _)
    · exact max_le_max le_rfl (min_le_left _ _)
    · exact le_rfl
    · exact le_max_left _ _
    · exact le_rfl
  have hbottom : ∀ z : Number, low ≤ z.clamp low high := fun z => by
    rcases z with c | (_ | _) | _ <;> simp [clamp]
  rcases y with b | (_ | _) | _
  · rcases x with a | (_ | _) | _
    · exact max_le_max le_rfl (min_le_min le_rfl h)
    · exact h.elim
    · exact hbottom _
    · exact h.elim
  · exact htop x
  · rcases x with a | (_ | _) | _
    · exact h.elim
    · exact h.elim
    · exact hbottom _
    · exact h.elim
  · exact htop x

end Number

/-! ## Formats that keep the order -/

/-- Rounding keeps the order, and leaves alone what it has rounded. -/
structure Rounding.Lawful (r : Rounding) : Prop where
  mono : ∀ {a b : ℚ}, a ≤ b → (r a).le (r b) = true
  idem : ∀ {a b : ℚ}, r a = .finite b → r b = .finite b
  zero : r 0 = 0

theorem Rounding.Lawful.ne_nan {r : Rounding} (hr : r.Lawful) (a : ℚ) : r a ≠ .nan := by
  intro h
  have hself := hr.mono (le_refl a)
  rw [h] at hself
  cases hself

namespace Number

variable {r : Rounding}

/-- Rounding does nothing to the number. -/
def Of (r : Rounding) (x : Number) : Prop := x.round r = x

theorem Of.rounded (hr : r.Lawful) (a : ℚ) : Of r (r a) := by
  cases h : r a with
  | finite b => exact hr.idem h
  | infinite n => rfl
  | nan => rfl

theorem Of.scale (hr : r.Lawful) (factor : ℚ) (x : Number) : Of r (x.scale r factor) := by
  cases x with
  | finite a => exact Of.rounded hr _
  | infinite n => rfl
  | nan => rfl

theorem Of.add_zero {x : Number} (h : Of r x) : add r x 0 = x := by
  cases x with
  | finite a =>
      have hsum : a + 0 = a := by ring
      rw [zero_def, add, hsum]
      exact h
  | infinite n => rfl
  | nan => rfl

theorem infinite_le {x : Number} (h : x ≠ .nan) : le (.infinite true) x = true := by
  rcases x with a | (_ | _) | _ <;> simp_all [le]

theorem le_infinite {x : Number} (h : x ≠ .nan) : x.le (.infinite false) = true := by
  rcases x with a | (_ | _) | _ <;> simp_all [le]

theorem UpTo.round (hr : r.Lawful) {x y : Number} (h : x.UpTo y) :
    (x.round r).UpTo (y.round r) := by
  rcases h with rfl | h
  · exact UpTo.refl _
  refine Or.inr ?_
  rcases x with a | (_ | _) | _
  · rcases y with b | (_ | _) | _
    · exact hr.mono (of_decide_eq_true h)
    · exact le_infinite (hr.ne_nan a)
    · cases h
    · cases h
  · rcases y with b | (_ | _) | _ <;> first | exact h | cases h
  · rcases y with b | (_ | _) | _
    · exact infinite_le (hr.ne_nan b)
    · rfl
    · rfl
    · cases h
  · cases h

theorem add_comm (x y : Number) : add r x y = add r y x := by
  rcases x with a | m | _ <;> rcases y with b | n | _ <;> simp only [add]
  · rw [show a + b = b + a by ring]
  · by_cases h : m = n
    · rw [if_pos h, if_pos h.symm, h]
    · rw [if_neg h, if_neg (Ne.symm h)]

theorem bottom_atMost (x : Number) : AtMost (.infinite true) x := by
  rcases x with a | (_ | _) | _ <;> trivial

theorem AtMost.add_right (hr : r.Lawful) {x x' : Number} (h : x.AtMost x') (y : Number) :
    (add r x y).AtMost (add r x' y) := by
  rcases y with b | (_ | _) | _
  · rcases x with a | (_ | _) | _
    · rcases x' with a' | (_ | _) | _
      · exact AtMost.of_le (hr.mono (add_le_add_left h b))
      all_goals trivial
    · rcases x' with a' | (_ | _) | _ <;> trivial
    · exact bottom_atMost _
    · rcases x' with a' | (_ | _) | _ <;> trivial
  · rcases x with a | (_ | _) | _ <;> rcases x' with a' | (_ | _) | _ <;> trivial
  · rcases x with a | (_ | _) | _ <;> rcases x' with a' | (_ | _) | _ <;> trivial
  · rcases x with a | (_ | _) | _ <;> rcases x' with a' | (_ | _) | _ <;> trivial

/-- The order carries over to sums. -/
theorem AtMost.add (hr : r.Lawful) {x x' y y' : Number} (h : x.AtMost x') (h' : y.AtMost y') :
    (add r x y).AtMost (add r x' y') := by
  refine (h.add_right hr y).trans ?_
  rw [add_comm x' y, add_comm x' y']
  exact h'.add_right hr x'

/-- Likewise for products with a positive factor. -/
theorem AtMost.scale (hr : r.Lawful) {factor : ℚ} (hpos : 0 < factor) {x x' : Number}
    (h : x.AtMost x') : (x.scale r factor).AtMost (x'.scale r factor) := by
  rcases x with a | (_ | _) | _ <;> rcases x' with a' | (_ | _) | _ <;> try trivial
  · exact AtMost.of_le (hr.mono (mul_le_mul_of_nonneg_left h hpos.le))
  · exact bottom_atMost _

end Number

/-- Numbers as they are. -/
def unrounded : Rounding := .finite

theorem unrounded_lawful : unrounded.Lawful where
  mono := fun h => decide_eq_true h
  idem := fun _ => rfl
  zero := rfl

/-! ## Double precision -/

section Binary64

/-- The nearest integer, of two that are equally near the even one. -/
def roundEven (q : ℚ) : ℤ :=
  if q - ⌊q⌋ < 1 / 2 ∨ q - ⌊q⌋ = 1 / 2 ∧ ⌊q⌋ % 2 = 0 then ⌊q⌋ else ⌊q⌋ + 1

/-- The exponent of the last binary digit of the numbers about as large as `q`: the significand has
    53 digits, unless the number is subnormal. -/
def lastDigit (q : ℚ) : ℤ := max (Int.log 2 |q| - 52) (-1074)

/-- The nearest number that ends at the last digit. -/
def nearest (q : ℚ) : ℚ := roundEven (q / 2 ^ lastDigit q) * 2 ^ lastDigit q

/-- IEEE 754 double precision, with rounding to the nearest number. -/
def binary64 : Rounding := fun q =>
  if |nearest q| < 2 ^ 1024 then .finite (nearest q) else .infinite (decide (q < 0))

variable {a b q : ℚ} {n : ℤ}

theorem floor_le_roundEven (q : ℚ) : ⌊q⌋ ≤ roundEven q := by
  unfold roundEven
  split_ifs <;> omega

theorem roundEven_le_floor_add_one (q : ℚ) : roundEven q ≤ ⌊q⌋ + 1 := by
  unfold roundEven
  split_ifs <;> omega

theorem roundEven_intCast (n : ℤ) : roundEven n = n := by
  simp [roundEven]

theorem roundEven_mono (h : a ≤ b) : roundEven a ≤ roundEven b := by
  rcases (Int.floor_mono h).lt_or_eq with hlt | heq
  · exact (roundEven_le_floor_add_one a).trans (by have := floor_le_roundEven b; omega)
  · -- both lie between the same integers, and `a` is no farther from the lower one
    unfold roundEven
    rw [heq]
    split_ifs with ha hb hb
    · exact le_rfl
    · omega
    · refine absurd ?_ ha
      rcases hb with hb | ⟨hb, heven⟩
      · exact Or.inl (by linarith)
      · rcases h.lt_or_eq with hlt | rfl
        · exact Or.inl (by linarith)
        · exact Or.inr ⟨hb, heven⟩
    · exact le_rfl

theorem roundEven_neg (q : ℚ) : roundEven (-q) = -roundEven q := by
  have hle := Int.floor_le q
  have hlt := Int.lt_floor_add_one q
  rcases hle.lt_or_eq with hbetween | hinteger
  · have hfloor : ⌊-q⌋ = -⌊q⌋ - 1 := by
      rw [Int.floor_eq_iff]
      push_cast
      constructor <;> linarith
    unfold roundEven
    rw [hfloor]
    push_cast
    -- the distances to the floors add up to one, and of two neighbours one is even
    split_ifs with hneg hq hq
    · rcases hneg with hneg | ⟨hneg, heven⟩ <;> rcases hq with hq | ⟨hq, heven'⟩
      · linarith
      · linarith
      · linarith
      · omega
    · omega
    · omega
    · exfalso
      rcases lt_trichotomy (q - ⌊q⌋) (1 / 2) with h | h | h
      · exact hq (Or.inl h)
      · rcases Int.emod_two_eq_zero_or_one ⌊q⌋ with heven | hodd
        · exact hq (Or.inr ⟨h, heven⟩)
        · exact hneg (Or.inr ⟨by linarith, by omega⟩)
      · exact hneg (Or.inl (by linarith))
  · rw [← hinteger, ← Int.cast_neg, roundEven_intCast, roundEven_intCast]

theorem lastDigit_neg (q : ℚ) : lastDigit (-q) = lastDigit q := by
  unfold lastDigit
  rw [abs_neg]

theorem nearest_neg (q : ℚ) : nearest (-q) = -nearest q := by
  unfold nearest
  rw [lastDigit_neg, neg_div, roundEven_neg]
  push_cast
  ring

theorem nearest_zero : nearest 0 = 0 := by
  unfold nearest
  rw [zero_div, ← Int.cast_zero, roundEven_intCast, Int.cast_zero, zero_mul]

theorem lt_zpow_lastDigit (hpos : 0 < q) : q < 2 ^ (lastDigit q + 53) := by
  have hlog := Int.lt_zpow_succ_log_self (b := 2) one_lt_two q
  refine hlog.trans_le (zpow_le_zpow_right₀ one_le_two ?_)
  unfold lastDigit
  rw [abs_of_pos hpos]
  omega

/-- Above the subnormal numbers the significand has all its digits. -/
theorem zpow_lastDigit_le (hpos : 0 < q) (hnormal : -1074 < lastDigit q) :
    2 ^ (lastDigit q + 52) ≤ q := by
  have hlog := Int.zpow_log_le_self (b := 2) one_lt_two hpos
  have hlast : lastDigit q + 52 = Int.log 2 q := by
    unfold lastDigit at hnormal ⊢
    rw [abs_of_pos hpos] at hnormal ⊢
    omega
  rw [hlast]
  exact hlog

/-- Integers times a power of two bound what is rounded to a multiple of that power. -/
theorem le_roundEven_div {e : ℤ} (h : n * 2 ^ e ≤ q) : n ≤ roundEven (q / 2 ^ e) := by
  have hquotient : (n : ℚ) ≤ q / 2 ^ e := (le_div_iff₀ (by positivity)).2 h
  have hround := roundEven_mono hquotient
  rwa [roundEven_intCast] at hround

theorem roundEven_div_le {e : ℤ} (h : q ≤ n * 2 ^ e) : roundEven (q / 2 ^ e) ≤ n := by
  have hquotient : q / 2 ^ e ≤ n := (div_le_iff₀ (by positivity)).2 h
  have hround := roundEven_mono hquotient
  rwa [roundEven_intCast] at hround

theorem nearest_nonneg (h : 0 ≤ q) : 0 ≤ nearest q := by
  have hround : 0 ≤ roundEven (q / 2 ^ lastDigit q) :=
    le_roundEven_div (by rwa [Int.cast_zero, zero_mul])
  exact mul_nonneg (Int.cast_nonneg hround) (by positivity)

theorem zpow_add_ofNat (e : ℤ) (n : ℕ) : (2 : ℚ) ^ (e + n) = (2 ^ n : ℤ) * 2 ^ e := by
  rw [zpow_add₀ two_ne_zero, zpow_natCast]
  push_cast
  ring

/-- The significand has at most 53 digits. -/
theorem roundEven_le_digits (hpos : 0 < q) : roundEven (q / 2 ^ lastDigit q) ≤ 2 ^ 53 := by
  refine roundEven_div_le ?_
  rw [← zpow_add_ofNat]
  exact (lt_zpow_lastDigit hpos).le

/-- Of two positive numbers with different last digits the smaller one is rounded to at most the
    power of two where the digits of the greater one begin. -/
theorem nearest_mono_of_pos (hpos : 0 < a) (h : a ≤ b) : nearest a ≤ nearest b := by
  have hposb := hpos.trans_le h
  have hlast : lastDigit a ≤ lastDigit b := by
    unfold lastDigit
    rw [abs_of_pos hpos, abs_of_pos hposb]
    have hlog := Int.log_mono_right (b := 2) hpos h
    omega
  rcases hlast.lt_or_eq with hlt | heq
  · have hnormal : -1074 < lastDigit b := (le_max_right _ _).trans_lt hlt
    have hbegin : (2 ^ 52 : ℤ) * 2 ^ lastDigit b ≤ b := by
      rw [← zpow_add_ofNat]
      exact zpow_lastDigit_le hposb hnormal
    calc nearest a
        ≤ (2 ^ 53 : ℤ) * 2 ^ lastDigit a :=
          mul_le_mul_of_nonneg_right (Int.cast_le.2 (roundEven_le_digits hpos)) (by positivity)
      _ = 2 ^ (lastDigit a + 53) := (zpow_add_ofNat _ 53).symm
      _ ≤ 2 ^ (lastDigit b + 52) := zpow_le_zpow_right₀ one_le_two (by omega)
      _ = (2 ^ 52 : ℤ) * 2 ^ lastDigit b := zpow_add_ofNat _ 52
      _ ≤ nearest b :=
          mul_le_mul_of_nonneg_right (Int.cast_le.2 (le_roundEven_div hbegin)) (by positivity)
  · have hround : roundEven (a / 2 ^ lastDigit b) ≤ roundEven (b / 2 ^ lastDigit b) :=
      roundEven_mono (div_le_div_of_nonneg_right h (by positivity))
    unfold nearest
    rw [heq]
    exact mul_le_mul_of_nonneg_right (Int.cast_le.2 hround) (by positivity)

theorem nearest_mono (h : a ≤ b) : nearest a ≤ nearest b := by
  rcases lt_trichotomy a 0 with hneg | rfl | hpos
  · rcases lt_or_ge b 0 with hnegb | hnonneg
    · -- Below zero the numbers are rounded like their opposites.
      have hopposite := nearest_mono_of_pos (neg_pos.2 hnegb) (neg_le_neg h)
      rw [nearest_neg, nearest_neg] at hopposite
      exact neg_le_neg_iff.1 hopposite
    · have hopposite := nearest_nonneg (neg_pos.2 hneg).le
      rw [nearest_neg] at hopposite
      exact (neg_nonneg.1 hopposite).trans (nearest_nonneg hnonneg)
  · rw [nearest_zero]
    exact nearest_nonneg h
  · exact nearest_mono_of_pos hpos h

/-- Multiples of the last digit are rounded to themselves. -/
theorem nearest_eq_self_of_le {e : ℤ} (hlast : lastDigit (n * 2 ^ e) ≤ e) :
    nearest (n * 2 ^ e) = n * 2 ^ e := by
  -- scaled by the last digit the number is an integer, which rounding leaves alone
  obtain ⟨k, hk⟩ := Int.eq_ofNat_of_zero_le (sub_nonneg.2 hlast)
  have hinteger : (n * 2 ^ e : ℚ) / 2 ^ lastDigit (n * 2 ^ e) = ((n * 2 ^ k : ℤ) : ℚ) := by
    rw [mul_div_assoc, ← zpow_sub₀ two_ne_zero, hk]
    push_cast
    rw [zpow_natCast]
  unfold nearest
  rw [hinteger, roundEven_intCast, ← hinteger, div_mul_cancel₀ _ (by positivity)]

/-- A significand of 53 digits is enough for every number that has been rounded. -/
theorem lastDigit_le {e : ℤ} (hdigits : |n| < 2 ^ 53) (he : -1074 ≤ e) :
    lastDigit (n * 2 ^ e) ≤ e ∨ n = 0 := by
  by_cases hzero : n = 0
  · exact Or.inr hzero
  have hpos : (0 : ℚ) < |(n : ℚ) * 2 ^ e| := abs_pos.2 (by positivity)
  have hpower : (2 : ℚ) ^ (e + 53) = (2 ^ 53 : ℤ) * 2 ^ e := zpow_add_ofNat e 53
  have hlt : |(n : ℚ) * 2 ^ e| < (2 : ℕ) ^ (e + 53) := by
    rw [abs_mul, abs_of_pos (zpow_pos two_pos e : (0 : ℚ) < 2 ^ e), Nat.cast_ofNat, hpower]
    refine mul_lt_mul_of_pos_right ?_ (by positivity)
    exact_mod_cast hdigits
  have hlog := (Int.lt_zpow_iff_log_lt one_lt_two hpos).1 hlt
  left
  unfold lastDigit
  omega

theorem nearest_eq_self {e : ℤ} (hdigits : |n| ≤ 2 ^ 53) (he : -1074 ≤ e) :
    nearest (n * 2 ^ e) = n * 2 ^ e := by
  rcases hdigits.lt_or_eq with hlt | heq
  · rcases lastDigit_le hlt he with hlast | rfl
    · exact nearest_eq_self_of_le hlast
    · rw [Int.cast_zero, zero_mul, nearest_zero]
  · -- The significand is even, and its half has a digit less.
    obtain ⟨m, rfl⟩ : ∃ m, n = 2 * m := ⟨n / 2, by rcases abs_choice n with h | h <;> omega⟩
    have hhalf : |m| < 2 ^ 53 := by
      rw [abs_mul, abs_two] at heq
      omega
    have hshift : ((2 * m : ℤ) : ℚ) * 2 ^ e = m * 2 ^ (e + 1) := by
      rw [zpow_add_one₀ two_ne_zero]
      push_cast
      ring
    rw [hshift]
    rcases lastDigit_le hhalf (show -1074 ≤ e + 1 by omega) with hlast | rfl
    · exact nearest_eq_self_of_le hlast
    · rw [Int.cast_zero, zero_mul, nearest_zero]

theorem abs_roundEven_le_digits (q : ℚ) : |roundEven (q / 2 ^ lastDigit q)| ≤ 2 ^ 53 := by
  rcases lt_trichotomy q 0 with hneg | rfl | hpos
  · have hopposite := roundEven_le_digits (neg_pos.2 hneg)
    have hbelow := le_roundEven_div (n := 0) (q := -q) (e := lastDigit (-q))
      (by rw [Int.cast_zero, zero_mul]; exact (neg_pos.2 hneg).le)
    rw [lastDigit_neg, neg_div, roundEven_neg] at hopposite hbelow
    rw [abs_of_nonpos (neg_nonneg.1 hbelow)]
    exact hopposite
  · rw [zero_div, ← Int.cast_zero, roundEven_intCast, abs_zero]
    positivity
  · have hbelow := le_roundEven_div (n := 0) (q := q) (e := lastDigit q)
      (by rw [Int.cast_zero, zero_mul]; exact hpos.le)
    rw [abs_of_nonneg hbelow]
    exact roundEven_le_digits hpos

theorem nearest_nearest (q : ℚ) : nearest (nearest q) = nearest q :=
  nearest_eq_self (abs_roundEven_le_digits q) (le_max_right _ _)

/-- Rounding does not change the sign. -/
theorem nearest_nonpos (h : q ≤ 0) : nearest q ≤ 0 := by
  have hopposite := nearest_nonneg (neg_nonneg.2 h)
  rw [nearest_neg] at hopposite
  exact neg_nonneg.1 hopposite

theorem binary64_mono (h : a ≤ b) : (binary64 a).le (binary64 b) = true := by
  have hnearest := nearest_mono h
  have hbound : (0 : ℚ) < 2 ^ 1024 := by positivity
  unfold binary64
  by_cases ha : |nearest a| < 2 ^ 1024 <;> by_cases hb : |nearest b| < 2 ^ 1024
  · rw [if_pos ha, if_pos hb]
    exact decide_eq_true hnearest
  · -- What is too large in front of a number is not below zero.
    have hnonneg : ¬ b < 0 := fun hneg => hb <| abs_lt.2
      ⟨(abs_lt.1 ha).1.trans_le hnearest, (nearest_nonpos hneg.le).trans_lt hbound⟩
    rw [if_pos ha, if_neg hb, decide_eq_false hnonneg]
    rfl
  · have hneg : a < 0 := by
      by_contra hnonneg
      refine ha (abs_lt.2 ⟨?_, hnearest.trans_lt (abs_lt.1 hb).2⟩)
      exact (neg_neg_of_pos hbound).trans_le (nearest_nonneg (not_lt.1 hnonneg))
    rw [if_neg ha, if_pos hb, decide_eq_true hneg]
    rfl
  · rw [if_neg ha, if_neg hb]
    by_cases hneg : a < 0
    · rw [decide_eq_true hneg]
      exact Number.infinite_le (by simp)
    · rw [decide_eq_false hneg, decide_eq_false fun hnegb => hneg (h.trans_lt hnegb)]
      rfl

theorem binary64_lawful : binary64.Lawful where
  mono := binary64_mono
  idem := by
    intro a b h
    unfold binary64 at h
    split_ifs at h with hfinite
    obtain rfl := Number.finite.inj h
    unfold binary64
    rw [nearest_nearest, if_pos hfinite]
  zero := by
    unfold binary64
    rw [nearest_zero, abs_zero, if_pos (by positivity), Number.zero_def]

end Binary64

end VulnOpsHub
