import VulnOpsHub.Lib.Python

set_option autoImplicit false

/-! # Integers as text

`int(value)` and `str(n)`. Which texts `int` accepts is left open, but for those that `str` writes. -/

namespace VulnOpsHub

/-- The value of some digits that follow a number; an underscore may stand between two digits. -/
def readDigits : ℕ → Bool → List Char → Option ℕ
  | value, complete, [] => if complete then some value else none
  | value, complete, c :: rest =>
      if c.isDigit then readDigits (10 * value + (c.toNat - '0'.toNat)) true rest
      else if c = '_' ∧ complete then readDigits value false rest
      else none

/-- An integer in ASCII: white space around it, a sign, and digits, with an underscore between two of
    them. -/
def asciiInt (text : String) : Option ℤ :=
  match (strip text).toList with
  | '-' :: digits => (readDigits 0 false digits).map fun n : ℕ => -(n : ℤ)
  | '+' :: digits => (readDigits 0 false digits).map fun n : ℕ => (n : ℤ)
  | digits => (readDigits 0 false digits).map fun n : ℕ => (n : ℤ)

/-! ## What `str` writes -/

theorem readDigits_digits {cs : List Char} (hcs : ∀ c ∈ cs, c.isDigit = true) (value : ℕ) :
    readDigits value true cs = some (Nat.ofDigitChars 10 cs value) := by
  induction cs generalizing value with
  | nil => rfl
  | cons c cs ih =>
      rw [readDigits, if_pos (hcs c List.mem_cons_self), Nat.ofDigitChars_cons]
      exact ih (fun d hd => hcs d (List.mem_cons_of_mem _ hd)) _

theorem readDigits_toDigits (n : ℕ) : readDigits 0 false (Nat.toDigits 10 n) = some n := by
  have hdigits : ∀ c ∈ Nat.toDigits 10 n, c.isDigit = true := fun c hc =>
    Nat.isDigit_of_mem_toDigits (by omega) (by omega) hc
  have hvalue : Nat.ofDigitChars 10 (Nat.toDigits 10 n) 0 = n := Nat.ofDigitChars_ten_toDigits
  have hne : Nat.toDigits 10 n ≠ [] := Nat.toDigits_ne_nil
  generalize Nat.toDigits 10 n = cs at hdigits hvalue hne
  cases cs with
  | nil => exact absurd rfl hne
  | cons c cs =>
      rw [readDigits, if_pos (hdigits c List.mem_cons_self),
        readDigits_digits fun d hd => hdigits d (List.mem_cons_of_mem _ hd),
        ← Nat.ofDigitChars_cons, hvalue]

theorem strip_of_no_space {s : String} (h : ∀ c ∈ s.toList, isSpace c = false) : strip s = s := by
  unfold strip
  have hdrop : s.toList.dropWhile isSpace = s.toList := by
    rw [List.dropWhile_eq_self_iff]
    intro hlength
    simp [h _ (List.getElem_mem _)]
  have hrdrop : s.toList.rdropWhile isSpace = s.toList := by
    rw [List.rdropWhile_eq_self_iff]
    intro hne
    simp [h _ (List.getLast_mem hne)]
  rw [hdrop, hrdrop, String.ofList_toList]

/-- The characters of a numeral: ASCII, and no white space. -/
theorem mem_repr {n : ℤ} {c : Char} (hc : c ∈ n.repr.toList) : c = '-' ∨ c.isDigit = true := by
  rw [Int.repr_eq_if] at hc
  have hdigit : ∀ m : ℕ, c ∈ m.repr.toList → c.isDigit = true := by
    intro m hm
    rw [Nat.toList_repr] at hm
    exact Nat.isDigit_of_mem_toDigits (by omega) (by omega) hm
  by_cases hpos : 0 ≤ n
  · rw [if_pos hpos] at hc
    exact Or.inr (hdigit _ hc)
  · rw [if_neg hpos, String.toList_append] at hc
    rcases List.mem_append.1 hc with hminus | hm
    · exact Or.inl (by simpa using hminus)
    · exact Or.inr (hdigit _ hm)

theorem isDigit_bounds {c : Char} (hc : c.isDigit = true) : 48 ≤ c.toNat ∧ c.toNat ≤ 57 := by
  simp only [Char.isDigit, Bool.and_eq_true, decide_eq_true_eq] at hc
  exact ⟨UInt32.le_iff_toNat_le.1 hc.1, UInt32.le_iff_toNat_le.1 hc.2⟩

theorem isSpace_of_mem_repr {n : ℤ} {c : Char} (hc : c ∈ n.repr.toList) : isSpace c = false := by
  rcases mem_repr hc with rfl | hdigit
  · decide
  · have hbounds := isDigit_bounds hdigit
    simp only [isSpace, List.mem_cons, List.not_mem_nil, or_false, decide_eq_false_iff_not]
    omega

theorem asciiInt_repr (n : ℤ) : asciiInt n.repr = some n := by
  unfold asciiInt
  rw [strip_of_no_space fun c hc => isSpace_of_mem_repr hc, Int.repr_eq_if]
  by_cases hpos : 0 ≤ n
  · rw [if_pos hpos, Nat.toList_repr]
    have hread := readDigits_toDigits n.toNat
    have hdigits : ∀ c ∈ Nat.toDigits 10 n.toNat, c.isDigit = true := fun c hc =>
      Nat.isDigit_of_mem_toDigits (by omega) (by omega) hc
    generalize Nat.toDigits 10 n.toNat = cs at hread hdigits
    split
    · exact absurd (hdigits '-' List.mem_cons_self) (by decide)
    · exact absurd (hdigits '+' List.mem_cons_self) (by decide)
    · rw [hread]
      simp [hpos]
  · have hminus : ("-" ++ (-n).toNat.repr).toList = '-' :: Nat.toDigits 10 (-n).toNat := by
      rw [String.toList_append, Nat.toList_repr]
      rfl
    rw [if_neg hpos, hminus]
    have hvalue : -((-n).toNat : ℤ) = n := by omega
    show (readDigits 0 false (Nat.toDigits 10 (-n).toNat)).map (fun m : ℕ => -(m : ℤ)) = some n
    rw [readDigits_toDigits, Option.map_some, hvalue]

theorem repr_ne_empty (n : ℤ) : n.repr ≠ "" := by
  intro hempty
  have hread := asciiInt_repr n
  have hnone : asciiInt "" = none := by decide
  rw [hempty, hnone] at hread
  cases hread

/-! ## Runtimes -/

/-- `int` of a text, which reads what `str` writes. -/
class PythonInt where
  int : String → Option ℤ
  int_repr : ∀ n : ℤ, int n.repr = some n

/-- A runtime in which only ASCII digits are digits. -/
@[reducible]
def asciiDigits : PythonInt := ⟨asciiInt, asciiInt_repr⟩

/-- Which characters are digits: `str.isdigit`, and `\d` in a pattern. -/
class PythonDigits where
  isDigit : Char → Bool
  isDecimal : Char → Bool
  isDigit_ascii : ∀ c : Char, c.toNat < 128 → isDigit c = c.isDigit
  isDecimal_ascii : ∀ c : Char, c.toNat < 128 → isDecimal c = c.isDigit

/-- A runtime in which only ASCII digits are digits. -/
@[reducible]
def asciiDigitTable : PythonDigits :=
  ⟨Char.isDigit, Char.isDigit, fun _ _ => rfl, fun _ _ => rfl⟩

/-- `text.isdigit()`. -/
def allDigits [PythonDigits] (text : String) : Bool :=
  text ≠ "" && text.toList.all PythonDigits.isDigit

/-- A runtime that writes `None`, booleans and integers and treats all text as ASCII. -/
@[reducible]
def plainPython : Python :=
  { asciiPython with
    repr := fun
      | .null => "None"
      | .bool b => if b then "True" else "False"
      | .int n => n.repr
      | _ => "" }

/-- `int(value)`. -/
def Json.toInt [PythonInt] : Json → Except PyError ℤ
  | .int n => .ok n
  | .bool b => .ok (if b then 1 else 0)
  | .float q => .ok (q.num.tdiv q.den)
  | .str s => (PythonInt.int s).elim (.error (.valueError "invalid literal for int()")) .ok
  | _ => .error .typeError

end VulnOpsHub
