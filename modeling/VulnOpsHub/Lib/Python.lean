import Mathlib.Data.List.DropRight
import Mathlib.Data.List.Sort
import Mathlib.Data.List.Dedup
import Mathlib.Data.Rat.Defs

set_option autoImplicit false

/-! # Python values and text

The parts of the Python runtime the model speaks about: exceptions, JSON values as `json.loads`
delivers them, truthiness, and string methods. A `str` is a sequence of code points, so string
methods are defined on `List Char` and lifted to `String`.

What depends on the Unicode tables or on the formatting of values (`str.lower`, `str.upper`,
`str.casefold`, `str()`, `isoformat`) is left open in the class `Python`: on ASCII text `lower` and
`upper` are fixed, elsewhere any function is allowed. -/

namespace VulnOpsHub

/-- An exception, with its message where callers look at it. -/
inductive PyError where
  | valueError (message : String)
  | typeError
  | attributeError
  | indexError
  | keyError
  | invalidRequestError
  | runtimeError (message : String)
  /-- A statement or commit that the database refuses. -/
  | databaseError
deriving DecidableEq, Repr

/-- `if p: raise e`. -/
def raiseIf (p : Prop) [Decidable p] (e : PyError) : Except PyError Unit :=
  if p then .error e else .ok ()

@[simp] theorem except_ok_bind {α β : Type} (a : α) (f : α → Except PyError β) :
    ((.ok a : Except PyError α) >>= f) = f a := rfl

/-- Two steps that raise nothing. -/
theorem except_bind_eq_ok {α β : Type} {x : Except PyError α} {f : α → Except PyError β} {b : β} :
    (x >>= f) = .ok b ↔ ∃ a, x = .ok a ∧ f a = .ok b := by
  cases x with
  | error e =>
      constructor
      · intro h; cases h
      · rintro ⟨a, ha, -⟩; cases ha
  | ok a =>
      constructor
      · intro h; exact ⟨a, rfl, h⟩
      · rintro ⟨a', ha, h⟩
        rw [Except.ok.inj ha]
        exact h

/-- Two steps, one of which raises. -/
theorem except_bind_eq_error {α β : Type} {x : Except PyError α} {f : α → Except PyError β}
    {e : PyError} : (x >>= f) = .error e ↔ x = .error e ∨ ∃ a, x = .ok a ∧ f a = .error e := by
  cases x with
  | error e' =>
      constructor
      · intro h
        cases h
        exact .inl rfl
      · rintro (h | ⟨a, ha, -⟩)
        · cases h
          rfl
        · cases ha
  | ok a =>
      constructor
      · intro h
        exact .inr ⟨a, rfl, h⟩
      · rintro (h | ⟨a', ha, h⟩)
        · cases h
        · rw [Except.ok.inj ha]
          exact h

/-- A loop raises nothing if none of its rounds does. -/
theorem mapM_ok_iff {α β : Type} {f : α → Except PyError β} {xs : List α} :
    (∃ ys, xs.mapM f = .ok ys) ↔ ∀ x ∈ xs, ∃ y, f x = .ok y := by
  induction xs with
  | nil => exact iff_of_true ⟨[], rfl⟩ (by simp)
  | cons x xs ih =>
      simp only [List.mapM_cons, except_bind_eq_ok, List.forall_mem_cons, ← ih]
      constructor
      · rintro ⟨-, y, hy, ys, hys, -⟩
        exact ⟨⟨y, hy⟩, ys, hys⟩
      · rintro ⟨⟨y, hy⟩, ys, hys⟩
        exact ⟨_, y, hy, ys, hys, rfl⟩

/-- A loop that raises nothing pairs what it reads with what it collects. -/
theorem mapM_eq_ok_iff {α β : Type} {f : α → Except PyError β} {xs : List α} {ys : List β} :
    xs.mapM f = .ok ys ↔ List.Forall₂ (fun x y => f x = .ok y) xs ys := by
  induction xs generalizing ys with
  | nil =>
      rw [List.forall₂_nil_left_iff]
      exact ⟨fun h => (Except.ok.inj h).symm, fun h => h ▸ rfl⟩
  | cons x xs ih =>
      simp only [List.mapM_cons, except_bind_eq_ok, ih, List.forall₂_cons_left_iff]
      constructor
      · rintro ⟨y, hy, ys', hys', h⟩
        exact ⟨y, ys', hy, hys', (Except.ok.inj h).symm⟩
      · rintro ⟨y, ys', hy, hys', rfl⟩
        exact ⟨y, hy, ys', hys', rfl⟩

/-- What is paired with an entry. -/
theorem exists_of_forall₂ {α β : Type} {R : α → β → Prop} {xs : List α} {ys : List β}
    (h : List.Forall₂ R xs ys) {x : α} (hx : x ∈ xs) : ∃ y ∈ ys, R x y := by
  induction h with
  | nil => cases hx
  | cons hxy _ ih =>
      rcases List.mem_cons.1 hx with rfl | hx
      · exact ⟨_, List.mem_cons_self, hxy⟩
      · obtain ⟨y, hy, hR⟩ := ih hx
        exact ⟨y, List.mem_cons_of_mem _ hy, hR⟩

/-- What a loop that raised nothing collected. -/
theorem exists_of_mem_mapM {α β : Type} {f : α → Except PyError β} {xs : List α} {ys : List β}
    (h : xs.mapM f = .ok ys) {y : β} (hy : y ∈ ys) : ∃ x ∈ xs, f x = .ok y :=
  exists_of_forall₂ (mapM_eq_ok_iff.1 h).flip hy

/-- Where a loop raises, one of its rounds does. -/
theorem exists_of_mapM_error {α β : Type} {f : α → Except PyError β} {xs : List α} {e : PyError}
    (h : xs.mapM f = .error e) : ∃ x ∈ xs, f x = .error e := by
  induction xs with
  | nil => cases h
  | cons x xs ih =>
      rw [List.mapM_cons, except_bind_eq_error] at h
      rcases h with hx | ⟨y, -, h⟩
      · exact ⟨x, List.mem_cons_self, hx⟩
      · rcases except_bind_eq_error.1 h with hxs | ⟨ys, -, h⟩
        · obtain ⟨x', hx', hfx'⟩ := ih hxs
          exact ⟨x', List.mem_cons_of_mem x hx', hfx'⟩
        · cases h

theorem raiseIf_eq_ok {p : Prop} [Decidable p] {e : PyError} {u : Unit} :
    raiseIf p e = .ok u ↔ ¬ p := by
  unfold raiseIf
  by_cases hp : p
  · simp [hp]
  · simp [hp]

theorem raiseIf_eq_error {p : Prop} [Decidable p] {e e' : PyError} :
    raiseIf p e = .error e' ↔ p ∧ e = e' := by
  unfold raiseIf
  by_cases hp : p
  · simp [hp]
  · simp [hp]

/-! ## Date-times -/

/-- The `tzinfo` of a `datetime`; a malformed one raises when it is asked for its offset. -/
inductive TzInfo where
  | naive
  | offset (microseconds : ℤ)
  | malformed
deriving DecidableEq, Repr

/-- A `datetime`: wall-clock microseconds since the epoch and a time zone. -/
structure Datetime where
  wall : ℤ
  tz : TzInfo
deriving DecidableEq, Repr

/-- A time in UTC. -/
def Datetime.utc (instant : ℤ) : Datetime := ⟨instant, .offset 0⟩

/-! ## JSON values -/

/-- A decoded JSON document. An object lists its members; the first one with a key counts. -/
inductive Json where
  | null
  | bool (b : Bool)
  | int (n : ℤ)
  | float (q : ℚ)
  | str (s : String)
  | arr (items : List Json)
  | obj (members : List (String × Json))

namespace Json

/-- `bool(value)`. -/
def truthy : Json → Bool
  | .null => false
  | .bool b => b
  | .int n => n ≠ 0
  | .float q => q ≠ 0
  | .str s => s ≠ ""
  | .arr items => !items.isEmpty
  | .obj members => !members.isEmpty

/-- `value.get(key)`: only objects have the method, and an absent key reads as `None`. -/
def get (value : Json) (key : String) : Except PyError Json :=
  match value with
  | .obj members => .ok ((members.lookup key).getD .null)
  | _ => .error .attributeError

/-- `value[key]`, for a string key. -/
def index (value : Json) (key : String) : Except PyError Json :=
  match value with
  | .obj members => (members.lookup key).elim (.error .keyError) .ok
  | _ => .error .typeError

/-- `value or {}`. -/
def orEmpty (value : Json) : Json := if value.truthy then value else .obj []

/-- A value that has to be text. -/
def text : Json → Except PyError String
  | .str s => .ok s
  | _ => .error .typeError

/-- A value that is text or counts as absent. -/
def optionalText : Json → Except PyError (Option String)
  | .str s => .ok (some s)
  | value => if value.truthy then .error .typeError else .ok none

/-- `value or default`, where a value has to be text. -/
def textOr (value : Json) (default : String) : Except PyError String :=
  if value.truthy then value.text else .ok default

/-- `value in strings`, for a tuple of strings. -/
def isOneOf (value : Json) (strings : List String) : Bool :=
  match value with
  | .str s => s ∈ strings
  | _ => false

/-- `value > bound`, for an integer bound; only numbers (and booleans) compare. -/
def greaterThan (value : Json) (bound : ℤ) : Except PyError Bool :=
  match value with
  | .int n => .ok (bound < n)
  | .float q => .ok ((bound : ℚ) < q)
  | .bool b => .ok (bound < if b then 1 else 0)
  | _ => .error .typeError

/-- A list of strings as a value; `None` for no list. -/
def ofStrings : Option (List String) → Json
  | none => .null
  | some xs => .arr (xs.map .str)

def ofOption : Option String → Json
  | none => .null
  | some s => .str s

end Json

/-- `value or default` for a `str | None`: the empty string counts as absent. -/
def orElse (value : Option String) (default : String) : String :=
  match value with
  | some s => if s = "" then default else s
  | none => default

/-- The string a `str | None` holds, when it is truthy. -/
def nonEmpty (value : Option String) : Option String := value.filter (· ≠ "")

theorem nonEmpty_eq_some {value : Option String} {s : String} :
    nonEmpty value = some s ↔ value = some s ∧ s ≠ "" := by
  simp [nonEmpty, Option.filter_eq_some_iff]

/-! ## Strings -/

/-- `str.isspace` for one code point. -/
def isSpace (c : Char) : Bool :=
  c.toNat ∈ [0x09, 0x0a, 0x0b, 0x0c, 0x0d, 0x1c, 0x1d, 0x1e, 0x1f, 0x20, 0x85, 0xa0, 0x1680,
    0x2000, 0x2001, 0x2002, 0x2003, 0x2004, 0x2005, 0x2006, 0x2007, 0x2008, 0x2009, 0x200a,
    0x2028, 0x2029, 0x202f, 0x205f, 0x3000]

/-- `s.strip()`. -/
def strip (s : String) : String :=
  String.ofList ((s.toList.dropWhile isSpace).rdropWhile isSpace)

/-- `s.split(sep)[0]`, for a separator of one code point. -/
def splitHead (sep : Char) (s : List Char) : List Char := s.takeWhile (· ≠ sep)

/-- `s.split(sep)[-1]`. -/
def splitLast (sep : Char) (s : List Char) : List Char := s.rtakeWhile (· ≠ sep)

def IsAscii (s : List Char) : Prop := ∀ c ∈ s, c.toNat < 128

instance (s : List Char) : Decidable (IsAscii s) :=
  List.decidableBAll (fun c : Char => c.toNat < 128) s

theorem isAlphanum_ascii {c : Char} (h : c.isAlphanum = true) : c.toNat < 128 := by
  -- the ranges of upper case, lower case and digits
  have hrange : ((decide ('A'.val ≤ c.val ∧ c.val ≤ 'Z'.val)
      || (decide ('a'.val ≤ c.val) && decide (c.val ≤ 'z'.val)))
      || (decide ('0'.val ≤ c.val) && decide (c.val ≤ '9'.val))) = true := h
  simp only [Bool.or_eq_true, Bool.and_eq_true, decide_eq_true_eq, UInt32.le_iff_toNat_le] at hrange
  have hupper : 'Z'.val.toNat = 90 := rfl
  have hlower : 'z'.val.toNat = 122 := rfl
  have hdigit : '9'.val.toNat = 57 := rfl
  show c.val.toNat < 128
  omega

/-- `s.lower()` for ASCII text. -/
def asciiLower (s : String) : String := String.ofList (s.toList.map Char.toLower)

/-- `s.upper()` for ASCII text. -/
def asciiUpper (s : String) : String := String.ofList (s.toList.map Char.toUpper)

/-- The runtime functions that depend on Unicode tables or on the formatting of values. -/
class Python where
  lower : String → String
  upper : String → String
  casefold : String → String
  /-- `str(value)` of a JSON value that is not a string. -/
  repr : Json → String
  isoformat : Datetime → String
  lower_ascii : ∀ s : String, IsAscii s.toList → lower s = asciiLower s
  upper_ascii : ∀ s : String, IsAscii s.toList → upper s = asciiUpper s

/-- `str(value)`, as in an f-string. -/
def pyStr [Python] : Json → String
  | .str s => s
  | v => Python.repr v

/-- A runtime that treats all text as ASCII, to evaluate the model on ASCII inputs. -/
@[reducible]
def asciiPython : Python where
  lower := asciiLower
  upper := asciiUpper
  casefold := asciiLower
  repr := fun _ => ""
  isoformat := fun _ => ""
  lower_ascii := fun _ _ => rfl
  upper_ascii := fun _ _ => rfl

/-- A runtime whose `lower` looks at no character across a space: its one rule with context, that of
    the final sigma, ends at one. -/
class WordRuntime extends Python where
  lower_space : ∀ s t : String, lower (s ++ " " ++ t) = lower s ++ " " ++ lower t

@[reducible]
def asciiWords : WordRuntime where
  toPython := asciiPython
  lower_space := fun s t => by
    show asciiLower (s ++ " " ++ t) = asciiLower s ++ " " ++ asciiLower t
    simp [asciiLower, ← String.toList_inj]

/-- Drop the empty strings and repetitions of `xs` and sort it, as `sorted({x for x in xs if x})`
    does. -/
def sortedSet (xs : List String) : List String :=
  ((xs.filter (· ≠ "")).dedup).insertionSort (· ≤ ·)

/-! ### Splitting -/

theorem not_mem_splitLast (sep : Char) (s : List Char) : sep ∉ splitLast sep s := by
  intro h
  simpa using List.mem_rtakeWhile_imp h

/-- Splitting leaves a prefix without the separator alone. -/
theorem splitHead_append {sep : Char} {s t : List Char} (h : sep ∉ s) :
    splitHead sep (s ++ t) = s ++ splitHead sep t :=
  List.takeWhile_append_of_pos fun c hc => by
    have : c ≠ sep := fun he => h (he ▸ hc)
    simpa using this

theorem splitHead_self {sep : Char} {s : List Char} (h : sep ∉ s) : splitHead sep s = s := by
  have := splitHead_append (t := []) h
  simpa [splitHead] using this

theorem splitLast_self {sep : Char} {s : List Char} (h : sep ∉ s) : splitLast sep s = s :=
  List.rtakeWhile_eq_self_iff.2 fun c hc => by
    have : c ≠ sep := fun he => h (he ▸ hc)
    simpa using this

/-- The last part of a split has no further parts. -/
theorem splitLast_idem (sep : Char) (s : List Char) :
    splitLast sep (splitLast sep s) = splitLast sep s :=
  splitLast_self (not_mem_splitLast sep s)

/-- What follows the last separator. -/
theorem splitLast_append_cons {sep : Char} {s t : List Char} (h : sep ∉ t) :
    splitLast sep (s ++ sep :: t) = t := by
  unfold splitLast
  rw [List.rtakeWhile, List.reverse_append, List.reverse_cons, List.append_assoc,
    List.takeWhile_append_of_pos]
  · simp
  · intro c hc
    simpa using fun heq : c = sep => h (heq ▸ List.mem_reverse.1 hc)

/-- Splitting ignores what begins with the separator. -/
theorem splitHead_append_cons (sep : Char) (s t : List Char) :
    splitHead sep (s ++ sep :: t) = splitHead sep s := by
  unfold splitHead
  induction s with
  | nil => simp
  | cons c s ih =>
      rw [List.cons_append, List.takeWhile_cons, List.takeWhile_cons, ih]

/-- A joined list consists of its parts and the separator. -/
theorem mem_intercalate {sep c : Char} {parts : List (List Char)}
    (h : c ∈ [sep].intercalate parts) : c = sep ∨ ∃ s ∈ parts, c ∈ s := by
  induction parts with
  | nil => cases h
  | cons s rest ih =>
      cases rest with
      | nil =>
          rw [List.intercalate_singleton] at h
          exact Or.inr ⟨s, List.mem_cons_self, h⟩
      | cons t rest =>
          rw [List.intercalate_cons_cons, List.mem_append, List.mem_append,
            List.mem_singleton] at h
          rcases h with (h | h) | h
          · exact Or.inr ⟨s, List.mem_cons_self, h⟩
          · exact Or.inl h
          · refine (ih h).imp_right ?_
            rintro ⟨u, hu, hc⟩
            exact ⟨u, List.mem_cons_of_mem _ hu, hc⟩

/-- A joined list ends with its last part. -/
theorem intercalate_concat (sep : Char) (parts : List (List Char)) (s : List Char) :
    ∃ front, [sep].intercalate (parts ++ [s]) = front ++ s := by
  induction parts with
  | nil => exact ⟨[], List.intercalate_singleton⟩
  | cons t rest ih =>
      obtain ⟨front, hfront⟩ := ih
      refine ⟨t ++ [sep] ++ front, ?_⟩
      rw [List.cons_append, List.intercalate_cons_of_ne_nil (by simp), hfront]
      simp

/-- The last part of a joined list follows a separator. -/
theorem intercalate_concat_cons {sep : Char} {parts : List (List Char)} (h : parts ≠ [])
    (s : List Char) : [sep].intercalate (parts ++ [s]) = [sep].intercalate parts ++ sep :: s := by
  induction parts with
  | nil => exact absurd rfl h
  | cons t rest ih =>
      cases rest with
      | nil => simp [List.intercalate_cons_cons, List.intercalate_singleton]
      | cons u rest =>
          rw [List.cons_append, List.intercalate_cons_of_ne_nil (by simp), ih (by simp),
            @List.intercalate_cons_of_ne_nil _ [sep] t (u :: rest) (by simp)]
          simp only [List.append_assoc]

/-- Joining lists that are free of the separator can be undone. -/
theorem intercalate_inj {sep : Char} {xs ys : List (List Char)} (hx : ∀ s ∈ xs, sep ∉ s)
    (hy : ∀ s ∈ ys, sep ∉ s) (hxne : xs ≠ []) (hyne : ys ≠ [])
    (h : [sep].intercalate xs = [sep].intercalate ys) : xs = ys := by
  rw [← List.splitOn_intercalate sep hx hxne, h, List.splitOn_intercalate sep hy hyne]

/-! ### Lower case -/

/-- A capital is moved to its small letter. -/
theorem toNat_toLower {c : Char} (hupper : c.val ≥ 'A'.val ∧ c.val ≤ 'Z'.val) :
    c.toLower.toNat = c.toNat + 32 := by
  have hlower : c.toLower.val = c.val + ('a'.val - 'A'.val) := congrArg Char.val (dif_pos hupper)
  have hle : c.val.toNat ≤ 90 := UInt32.le_iff_toNat_le.1 hupper.2
  show c.toLower.val.toNat = c.val.toNat + 32
  rw [hlower, UInt32.toNat_add, show ('a'.val - 'A'.val).toNat = 32 from rfl]
  omega

/-- Every other character stays as it is. -/
theorem toLower_eq_self {c : Char} (hupper : ¬(c.val ≥ 'A'.val ∧ c.val ≤ 'Z'.val)) :
    c.toLower = c :=
  dif_neg hupper

/-- Lowering letters turns nothing into a separator. -/
theorem toLower_eq_iff {c sep : Char} (hsep : sep.toNat < 65) : c.toLower = sep ↔ c = sep := by
  by_cases hupper : c.val ≥ 'A'.val ∧ c.val ≤ 'Z'.val
  · have hge : 65 ≤ c.toNat := UInt32.le_iff_toNat_le.1 hupper.1
    have hsum := toNat_toLower hupper
    constructor
    · intro h
      rw [h] at hsum
      omega
    · intro h
      rw [h] at hge
      omega
  · rw [toLower_eq_self hupper]

def lowerChars (s : List Char) : List Char := s.map Char.toLower

theorem mem_lowerChars {s : List Char} {sep : Char} (hsep : sep.toNat < 65) :
    sep ∈ lowerChars s ↔ sep ∈ s := by
  simp [lowerChars, toLower_eq_iff hsep]

theorem lowerChars_splitHead {s : List Char} {sep : Char} (hsep : sep.toNat < 65) :
    lowerChars (splitHead sep s) = splitHead sep (lowerChars s) := by
  unfold lowerChars splitHead
  rw [List.takeWhile_map]
  congr 1
  refine congrArg (List.takeWhile · s) (funext fun c => ?_)
  simp [toLower_eq_iff hsep]

theorem lowerChars_intercalate {sep : Char} (hsep : sep.toNat < 65) (parts : List (List Char)) :
    lowerChars ([sep].intercalate parts) = [sep].intercalate (parts.map lowerChars) := by
  have hlower : sep.toLower = sep := (toLower_eq_iff hsep).2 rfl
  induction parts with
  | nil => rfl
  | cons s rest ih =>
      cases rest with
      | nil => simp [List.intercalate_singleton]
      | cons t rest =>
          rw [List.intercalate_cons_cons, List.map_cons, List.map_cons, List.intercalate_cons_cons,
            ← List.map_cons, ← ih]
          simp [lowerChars, hlower]

/-- `lower` on ASCII text. -/
theorem lower_ofList [Python] {s : List Char} (h : IsAscii s) :
    (Python.lower (String.ofList s)).toList = lowerChars s := by
  rw [Python.lower_ascii _ (by rwa [String.toList_ofList]), asciiLower, String.toList_ofList,
    String.toList_ofList]
  rfl

end VulnOpsHub
