import VulnOpsHub.Lib.Python

set_option autoImplicit false

/-! # Percent decoding

`urllib.parse.unquote`: escapes are read as bytes, everything else by its UTF-8 encoding, and the
bytes are decoded. What encodes every character as itself or as the escapes of its bytes is undone. -/

namespace VulnOpsHub

namespace Percent

/-- The value of a hexadecimal digit. -/
def hexValue (c : Char) : Option ℕ :=
  if '0' ≤ c ∧ c ≤ '9' then some (c.toNat - 48)
  else if 'A' ≤ c ∧ c ≤ 'F' then some (c.toNat - 55)
  else if 'a' ≤ c ∧ c ≤ 'f' then some (c.toNat - 87)
  else none

/-- The byte that two digits stand for. -/
def escape (hi lo : Char) : Option UInt8 := do
  let h ← hexValue hi
  let l ← hexValue lo
  pure (UInt8.ofNat (16 * h + l))

/-- `unquote_to_bytes`. A percent sign without two digits stands for itself. -/
def decode : List Char → List UInt8
  | [] => []
  | '%' :: hi :: lo :: rest =>
      match escape hi lo with
      | some b => b :: decode rest
      | none => 37 :: decode (hi :: lo :: rest)
  | c :: rest => String.utf8EncodeChar c ++ decode rest

/-- `unquote`, for bytes that are valid UTF-8. -/
def unquote (text : List Char) : Option String := String.fromUTF8? (decode text).toByteArray

/-! ## Escapes -/

theorem decode_cons {c : Char} (hc : c ≠ '%') (rest : List Char) :
    decode (c :: rest) = String.utf8EncodeChar c ++ decode rest := by
  rw [decode.eq_def]
  split
  · rename_i h
    cases h
  · rename_i h
    exact absurd (List.cons.inj h).1 hc
  · rename_i h
    obtain ⟨rfl, rfl⟩ := List.cons.inj h
    rfl

theorem decode_escape {hi lo : Char} {b : UInt8} (h : escape hi lo = some b) (rest : List Char) :
    decode ('%' :: hi :: lo :: rest) = b :: decode rest := by
  rw [decode, h]

/-- Text without a percent sign is decoded to itself. -/
theorem decode_plain {text : List Char} (h : '%' ∉ text) :
    decode text = text.flatMap String.utf8EncodeChar := by
  induction text with
  | nil => rfl
  | cons c text ih =>
      rw [decode_cons (fun heq => h (heq ▸ List.mem_cons_self)),
        ih fun hmem => h (List.mem_cons_of_mem _ hmem), List.flatMap_cons]

theorem unquote_of_decode {text s : List Char} (h : decode text = s.flatMap String.utf8EncodeChar) :
    unquote text = some (String.ofList s) := by
  have hbytes : (decode text).toByteArray = (String.ofList s).toByteArray := by
    rw [h, String.toByteArray_ofList]
    rfl
  unfold unquote String.fromUTF8?
  rw [hbytes]
  rw [dif_pos (String.ofList s).isValidUTF8]
  rfl

theorem unquote_plain {text : List Char} (h : '%' ∉ text) :
    unquote text = some (String.ofList text) :=
  unquote_of_decode (decode_plain h)

/-- **Whatever writes each character as itself or as the escapes of its bytes is undone.** -/
theorem unquote_flatMap {write : Char → List Char}
    (hwrite : ∀ c rest, decode (write c ++ rest) = String.utf8EncodeChar c ++ decode rest)
    (s : List Char) : unquote (s.flatMap write) = some (String.ofList s) := by
  refine unquote_of_decode ?_
  induction s with
  | nil => rfl
  | cons c s ih => rw [List.flatMap_cons, List.flatMap_cons, hwrite, ih]

end Percent

end VulnOpsHub
