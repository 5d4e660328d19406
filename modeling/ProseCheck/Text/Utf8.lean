/-! # UTF-8

Bytes are read as UTF-8 character by character. Bytes that start no character, or one that breaks
off, are taken together as far as they could have gone on.
-/

namespace ProseCheck.Text.Utf8

/-- What a character with this first byte looks like: how many bytes follow, which ones may come
first, and the bits of the first byte that count. -/
structure Lead where
  following : Nat
  low : Nat
  high : Nat
  bits : Nat

def lead? (b : Nat) : Option Lead :=
  if b < 0x80 then some ⟨0, 0x80, 0xBF, b⟩
  else if 0xC2 ≤ b ∧ b < 0xE0 then some ⟨1, 0x80, 0xBF, b - 0xC0⟩
  else if b = 0xE0 then some ⟨2, 0xA0, 0xBF, 0⟩
  else if b = 0xED then some ⟨2, 0x80, 0x9F, 0xD⟩
  else if 0xE1 ≤ b ∧ b < 0xF0 then some ⟨2, 0x80, 0xBF, b - 0xE0⟩
  else if b = 0xF0 then some ⟨3, 0x90, 0xBF, 0⟩
  else if 0xF1 ≤ b ∧ b < 0xF4 then some ⟨3, 0x80, 0xBF, b - 0xF0⟩
  else if b = 0xF4 then some ⟨3, 0x80, 0x8F, 4⟩
  else none

/-- The following bytes of a character as far as they are right, and its code point. -/
def follow (low high : Nat) : Nat → Nat → List UInt8 → Nat × Option Nat
  | 0, code, _ => (0, some code)
  | _ + 1, _, [] => (0, none)
  | n + 1, code, b :: bs =>
    if low ≤ b.toNat ∧ b.toNat ≤ high then
      let (read, result) := follow 0x80 0xBF n (code * 64 + b.toNat % 64) bs
      (read + 1, result)
    else (0, none)

def read : List UInt8 → List (Option Char)
  | [] => []
  | b :: bs =>
    match lead? b.toNat with
    | none => none :: read bs
    | some l =>
      let (width, code) := follow l.low l.high l.following l.bits bs
      code.map Char.ofNat :: read (bs.drop width)
termination_by bytes => bytes.length

def decode? (bytes : List UInt8) : Option (List Char) := (read bytes).mapM id

/-- The text of some bytes, with a mark for what is no character. -/
def decodeLossy (bytes : List UInt8) : List Char := (read bytes).map (·.getD '\ufffd')

end ProseCheck.Text.Utf8
