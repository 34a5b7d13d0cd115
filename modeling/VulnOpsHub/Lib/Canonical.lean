import VulnOpsHub.Lib.Python

set_option autoImplicit false

/-! # Equality and serialization of JSON values

Python's `==` on decoded JSON, and `json.dumps(value, sort_keys=True, separators=(",", ":"))`. The
objects of a decoded document have distinct keys. -/

namespace VulnOpsHub

namespace Json

/-- The number that an `int`, a `float` or a `bool` equals. -/
def number? : Json → Option ℚ
  | .int n => some n
  | .float q => some q
  | .bool b => some (if b then 1 else 0)
  | _ => none

mutual

/-- `value == other`. -/
def eq : Json → Json → Bool
  | .null, .null => true
  | .str s, .str t => s = t
  | .arr xs, .arr ys => eqItems xs ys
  | .obj ms, .obj ns => ns.all (fun n => ms.any (·.1 = n.1)) && eqMembers ms ns
  | v, w => v.number?.any fun p => w.number? = some p

def eqItems : List Json → List Json → Bool
  | [], [] => true
  | x :: xs, y :: ys => x.eq y && eqItems xs ys
  | _, _ => false

/-- Every member of the first object is in the second. -/
def eqMembers : List (String × Json) → List (String × Json) → Bool
  | [], _ => true
  | (key, x) :: ms, ns => (ns.lookup key).any (fun y => x.eq y) && eqMembers ms ns

end

/-! ## Serialization -/

/-- A hexadecimal digit. -/
def hexDigit (n : ℕ) : Char := Nat.digitChar (n % 16)

/-- `\uXXXX`. -/
def unicodeEscape (n : ℕ) : List Char :=
  ['\\', 'u', hexDigit (n / 4096), hexDigit (n / 256), hexDigit (n / 16), hexDigit n]

/-- A character within quotes; what is not printable ASCII is written as UTF-16 code units. -/
def dumpsChar (c : Char) : List Char :=
  if c = '"' then ['\\', '"']
  else if c = '\\' then ['\\', '\\']
  else if c = '\n' then ['\\', 'n']
  else if c = '\r' then ['\\', 'r']
  else if c = '\t' then ['\\', 't']
  else if c.toNat = 8 then ['\\', 'b']
  else if c.toNat = 12 then ['\\', 'f']
  else if 32 ≤ c.toNat ∧ c.toNat ≤ 126 then [c]
  else if c.toNat < 65536 then unicodeEscape c.toNat
  else unicodeEscape (55296 + (c.toNat - 65536) / 1024)
    ++ unicodeEscape (56320 + (c.toNat - 65536) % 1024)

def dumpsText (s : String) : String :=
  "\"" ++ String.ofList (s.toList.flatMap dumpsChar) ++ "\""

variable [Python]

mutual

/-- `json.dumps(value, sort_keys=True, separators=(",", ":"))`. -/
def dumps : Json → String
  | .null => "null"
  | .bool b => if b then "true" else "false"
  | .int n => n.repr
  | .float q => Python.repr (.float q)
  | .str s => dumpsText s
  | .arr items => "[" ++ String.intercalate "," (dumpsItems items) ++ "]"
  | .obj members =>
      "\x7b" ++ String.intercalate "," ((dumpsMembers members).insertionSort
        (fun m n => m.1 ≤ n.1) |>.map fun m => dumpsText m.1 ++ ":" ++ m.2) ++ "\x7d"

def dumpsItems : List Json → List String
  | [] => []
  | item :: rest => item.dumps :: dumpsItems rest

def dumpsMembers : List (String × Json) → List (String × String)
  | [] => []
  | (key, value) :: rest => (key, value.dumps) :: dumpsMembers rest

end

end Json

/-- `hashlib.sha256(data).hexdigest()`. -/
class Sha256 where
  hexdigest : ByteArray → String

/-- The bytes as the digits of one number, which is quick to compare. -/
def bytesNumber (bytes : ByteArray) : ℕ := bytes.data.toList.foldl (fun n b => n * 256 + b.toNat) 1

/-- The digests of some texts, to evaluate the model on them. -/
@[reducible]
def knownDigests (digests : List (String × String)) : Sha256 where
  hexdigest bytes :=
    ((digests.find? fun d => bytesNumber d.1.toUTF8 = bytesNumber bytes).map Prod.snd).getD ""

/-- The members of a value that is read as a `dict` where it is one. -/
def Json.members : Json → List (String × Json)
  | .obj members => members
  | _ => []

/-- `value.get(key) if isinstance(value, dict) else None`. -/
def Json.field (value : Json) (key : String) : Json := (value.members.lookup key).getD .null

/-- `value if isinstance(value, list) else []`. -/
def Json.items : Json → List Json
  | .arr items => items
  | _ => []

/-- `{**value, key: member}`. -/
def Json.withMember (value : Json) (key : String) (member : Json) : Json :=
  if value.members.any (·.1 = key) then
    .obj (value.members.map fun m => if m.1 = key then (key, member) else m)
  else .obj (value.members ++ [(key, member)])

/-- `a or b`. -/
def Json.or (a b : Json) : Json := if a.truthy then a else b

/-- `list(value)`. -/
def Json.toList : Json → Except PyError (List Json)
  | .arr items => .ok items
  | .obj members => .ok (members.map fun m => .str m.1)
  | .str s => .ok (s.toList.map fun c => .str (String.ofList [c]))
  | _ => .error .typeError

/-- `value.get(key, default)`. -/
def Json.getOr (value : Json) (key : String) (default : Json) : Except PyError Json :=
  match value with
  | .obj members => .ok ((members.lookup key).getD default)
  | _ => .error .attributeError

/-! ## Reading objects -/

/-- The other members stay. -/
theorem Json.lookup_withMember {value : Json} {key key' : String} {member : Json}
    (hobj : ∃ members, value = .obj members) (hne : key' ≠ key) :
    (value.withMember key member).members.lookup key' = value.members.lookup key' := by
  obtain ⟨members, rfl⟩ := hobj
  have hmap : ∀ ms : List (String × Json),
      (ms.map fun m => if m.1 = key then (key, member) else m).lookup key' = ms.lookup key' := by
    intro ms
    induction ms with
    | nil => rfl
    | cons m ms ih =>
        obtain ⟨k, v⟩ := m
        have hmiss : (key' == key) = false := by simpa using hne
        by_cases hm : k = key
        · subst hm
          simp [List.lookup_cons, hmiss, ih]
        · by_cases hk : key' = k <;> simp [List.lookup_cons, hm, hk, ih]
  unfold Json.withMember
  split_ifs
  · exact hmap members
  · have hmiss : List.lookup key' [(key, member)] = none := by
      have hbeq : (key' == key) = false := by simpa using hne
      simp [List.lookup_cons, hbeq]
    simp [Json.members, List.lookup_append, hmiss]

/-- An object that is read with `{}` as its default. -/
theorem Json.getOr_field {raw value member : Json} {key key' : String}
    (hvalue : raw.getOr key (.obj []) = .ok value) (hmember : value.get key' = .ok member) :
    (∀ k, (raw.field key).field k = value.field k) ∧ member = value.field key' := by
  cases raw with
  | obj members =>
      obtain rfl := Except.ok.inj hvalue
      cases hlookup : members.lookup key with
      | none =>
          rw [hlookup] at hmember
          refine ⟨fun k => ?_, (Except.ok.inj hmember).symm⟩
          simp [Json.field, Json.members, hlookup]
      | some v =>
          rw [hlookup] at hmember
          refine ⟨fun k => ?_, ?_⟩
          · simp [Json.field, Json.members, hlookup]
          · cases v with
            | obj ms => exact (Except.ok.inj hmember).symm
            | _ => cases hmember
  | _ => cases hvalue

/-- The members of `value or {}`. -/
theorem Json.getOr_members {raw value : Json} {key : String}
    (hvalue : raw.getOr key (.obj []) = .ok value) :
    value.orEmpty.members = (raw.field key).members := by
  cases raw with
  | obj members =>
      obtain rfl := Except.ok.inj hvalue
      cases hlookup : members.lookup key with
      | none => simp [Json.field, Json.members, Json.orEmpty, hlookup]
      | some v =>
          cases v with
          | obj ms =>
              cases ms <;> simp [Json.field, Json.members, Json.orEmpty, Json.truthy, hlookup]
          | _ =>
              simp only [Json.field, Json.members, Json.orEmpty, hlookup, Option.getD_some]
              split_ifs <;> rfl
  | _ => cases hvalue

/-- The text a `str` holds, if it has more than white space: `value.strip()`. -/
def Json.stripped? : Json → Option String
  | .str s => if strip s = "" then none else some (strip s)
  | _ => none

end VulnOpsHub
