import Mathlib.Tactic.Common
import ProseCheck.Text.Utf8

/-! # Reading UTF-8 back

The bytes of a text are read as that text. Each character is read as a whole, whatever bytes follow
it.
-/

namespace ProseCheck.Text.Utf8

variable {bs : List UInt8}

theorem read_cons {b : UInt8} {l : Lead} {width code : Nat} (hlead : lead? b.toNat = some l)
    (hfollow : follow l.low l.high l.following l.bits bs = (width, some code)) :
    read (b :: bs) = some (Char.ofNat code) :: read (bs.drop width) := by
  rw [read]
  simp only [hlead, hfollow, Option.map_some]

theorem toNat_ofNat {n : Nat} (h : n < 256) : (UInt8.ofNat n).toNat = n := by
  simpa using h

theorem follow_cons {low high bits n code width total : Nat} (hbits : bits < 64)
    (hlow : low ≤ bits + 128) (hhigh : bits + 128 ≤ high)
    (hrest : follow 0x80 0xBF n (code * 64 + bits) bs = (width, some total)) :
    follow low high (n + 1) code (UInt8.ofNat (bits + 128) :: bs) = (width + 1, some total) := by
  have hbyte : (UInt8.ofNat (bits + 128)).toNat = bits + 128 := toNat_ofNat (by omega)
  have hmod : (bits + 128) % 64 = bits := by omega
  rw [follow, if_pos (by omega), hbyte, hmod, hrest]

theorem follow_last {bits : Nat} (hbits : bits < 64) (code : Nat) (bs : List UInt8) :
    follow 0x80 0xBF 1 code (UInt8.ofNat (bits + 128) :: bs) = (1, some (code * 64 + bits)) :=
  follow_cons (n := 0) hbits (by omega) (by omega) rfl

/-- The first byte of three narrows down the second, so that the code point is neither too small nor
half a surrogate pair. -/
theorem lead?_three (bits second : Nat) (hbits : bits < 16) (hsecond : second < 64)
    (hsmall : bits = 0 → 32 ≤ second) (hhalf : bits = 13 → second < 32) :
    ∃ low high, lead? (bits + 224) = some ⟨2, low, high, bits⟩ ∧ low ≤ second + 128 ∧
      second + 128 ≤ high := by
  rw [lead?, if_neg (by omega), if_neg (by omega)]
  split
  · rename_i h
    obtain rfl : bits = 0 := by omega
    have := hsmall rfl
    exact ⟨0xA0, 0xBF, rfl, by omega, by omega⟩
  split
  · rename_i h
    obtain rfl : bits = 13 := by omega
    have := hhalf rfl
    exact ⟨0x80, 0x9F, rfl, by omega, by omega⟩
  · rw [if_pos (by omega), show 0xE0 = 224 from rfl, Nat.add_sub_cancel]
    exact ⟨0x80, 0xBF, rfl, by omega, by omega⟩

theorem lead?_four (bits second : Nat) (hbits : bits < 5) (hsecond : second < 64)
    (hsmall : bits = 0 → 16 ≤ second) (hlarge : bits = 4 → second < 16) :
    ∃ low high, lead? (bits + 240) = some ⟨3, low, high, bits⟩ ∧ low ≤ second + 128 ∧
      second + 128 ≤ high := by
  rw [lead?, if_neg (by omega), if_neg (by omega), if_neg (by omega), if_neg (by omega),
    if_neg (by omega)]
  split
  · rename_i h
    obtain rfl : bits = 0 := by omega
    have := hsmall rfl
    exact ⟨0x90, 0xBF, rfl, by omega, by omega⟩
  split
  · rw [show 0xF0 = 240 from rfl, Nat.add_sub_cancel]
    exact ⟨0x80, 0xBF, rfl, by omega, by omega⟩
  · obtain rfl : bits = 4 := by omega
    have := hlarge rfl
    exact ⟨0x80, 0x8F, rfl, by omega, by omega⟩

/-! ### Characters -/

theorem read_one {v : Nat} (h : v ≤ 0x7F) :
    read (UInt8.ofNat v :: bs) = some (Char.ofNat v) :: read bs := by
  have hlead : lead? (UInt8.ofNat v).toNat = some ⟨0, 0x80, 0xBF, v⟩ := by
    rw [toNat_ofNat (by omega), lead?, if_pos (by omega)]
  exact read_cons hlead rfl

theorem read_two {v : Nat} (hlow : 0x7F < v) (hhigh : v ≤ 0x7FF) :
    read (UInt8.ofNat (v / 64 % 32 + 192) :: UInt8.ofNat (v % 64 + 128) :: bs) =
      some (Char.ofNat v) :: read bs := by
  have hlead : lead? (UInt8.ofNat (v / 64 % 32 + 192)).toNat =
      some ⟨1, 0x80, 0xBF, v / 64 % 32⟩ := by
    rw [toNat_ofNat (by omega), lead?, if_neg (by omega), if_pos (by omega),
      show 0xC0 = 192 from rfl, Nat.add_sub_cancel]
  have hfollow := follow_last (Nat.mod_lt v (by decide)) (v / 64 % 32) bs
  have hcode : v / 64 % 32 * 64 + v % 64 = v := by omega
  rw [hcode] at hfollow
  exact read_cons hlead hfollow

theorem read_three {v : Nat} (hlow : 0x7FF < v) (hhigh : v ≤ 0xFFFF)
    (hwhole : v < 0xD800 ∨ 0xDFFF < v) :
    read (UInt8.ofNat (v / 4096 % 16 + 224) :: UInt8.ofNat (v / 64 % 64 + 128) ::
      UInt8.ofNat (v % 64 + 128) :: bs) = some (Char.ofNat v) :: read bs := by
  obtain ⟨low, high, hlead, hlow, hhigh⟩ := lead?_three (v / 4096 % 16) (v / 64 % 64) (by omega)
    (by omega) (by omega) (by omega)
  rw [← toNat_ofNat (show v / 4096 % 16 + 224 < 256 by omega)] at hlead
  have hlast := follow_last (Nat.mod_lt v (by decide)) (v / 4096 % 16 * 64 + v / 64 % 64) bs
  have hcode : (v / 4096 % 16 * 64 + v / 64 % 64) * 64 + v % 64 = v := by omega
  rw [hcode] at hlast
  exact read_cons hlead (follow_cons (Nat.mod_lt (v / 64) (by decide)) hlow hhigh hlast)

theorem read_four {v : Nat} (hlow : 0xFFFF < v) (hhigh : v < 0x110000) :
    read (UInt8.ofNat (v / 262144 % 8 + 240) :: UInt8.ofNat (v / 4096 % 64 + 128) ::
      UInt8.ofNat (v / 64 % 64 + 128) :: UInt8.ofNat (v % 64 + 128) :: bs) =
        some (Char.ofNat v) :: read bs := by
  obtain ⟨low, high, hlead, hlow, hhigh⟩ := lead?_four (v / 262144 % 8) (v / 4096 % 64) (by omega)
    (by omega) (by omega) (by omega)
  rw [← toNat_ofNat (show v / 262144 % 8 + 240 < 256 by omega)] at hlead
  have hlast := follow_last (Nat.mod_lt v (by decide))
    ((v / 262144 % 8 * 64 + v / 4096 % 64) * 64 + v / 64 % 64) bs
  have hcode : ((v / 262144 % 8 * 64 + v / 4096 % 64) * 64 + v / 64 % 64) * 64 + v % 64 = v := by
    omega
  rw [hcode] at hlast
  have hthird := follow_cons (Nat.mod_lt (v / 64) (by decide))
    (show 0x80 ≤ v / 64 % 64 + 128 by omega) (show v / 64 % 64 + 128 ≤ 0xBF by omega) hlast
  exact read_cons hlead (follow_cons (Nat.mod_lt (v / 4096) (by decide)) hlow hhigh hthird)

theorem read_utf8EncodeChar (c : Char) (bs : List UInt8) :
    read (String.utf8EncodeChar c ++ bs) = some c :: read bs := by
  have hvalid : c.val.toNat < 0xD800 ∨ 0xDFFF < c.val.toNat ∧ c.val.toNat < 0x110000 := c.valid
  have hc : Char.ofNat c.val.toNat = c := Char.ofNat_toNat c
  rw [String.utf8EncodeChar]
  generalize c.val.toNat = v at hc hvalid ⊢
  subst hc
  split
  · rename_i hone
    exact read_one hone
  split
  · rename_i hone htwo
    exact read_two (Nat.lt_of_not_le hone) htwo
  split
  · rename_i htwo hthree
    exact read_three (Nat.lt_of_not_le htwo) hthree (by omega)
  · rename_i hthree
    exact read_four (Nat.lt_of_not_le hthree) (by omega)

theorem read_flatMap_utf8EncodeChar (text : List Char) :
    read (text.flatMap String.utf8EncodeChar) = text.map some := by
  induction text with
  | nil => simp [read]
  | cons c cs ih => rw [List.flatMap_cons, read_utf8EncodeChar, ih, List.map_cons]

/-! ### Bytes -/

theorem byteArray_toList_loop (bytes : ByteArray) (i : Nat) (before : List UInt8) :
    ByteArray.toList.loop bytes i before = before.reverse ++ bytes.data.toList.drop i := by
  fun_induction ByteArray.toList.loop bytes i before with
  | case1 i before hlt ih =>
    have hlength : i < bytes.data.toList.length := by simpa using hlt
    have hget : bytes.get! i = bytes.data.toList[i] := by
      cases bytes
      exact getElem!_pos ..
    rw [ih, List.drop_eq_getElem_cons hlength, hget, List.reverse_cons, List.append_assoc]
    rfl
  | case2 i before hlt =>
    rw [List.drop_eq_nil_of_le (by simpa using Nat.le_of_not_lt hlt), List.append_nil]

theorem toList_toUTF8 (s : String) : s.toUTF8.toList = s.toList.flatMap String.utf8EncodeChar := by
  have hencode : s.toUTF8 = (s.toList.flatMap String.utf8EncodeChar).toByteArray :=
    String.utf8Encode_toList.symm
  rw [ByteArray.toList, byteArray_toList_loop, hencode, List.toList_data_toByteArray]
  rfl

theorem decode?_toUTF8 (s : String) : decode? s.toUTF8.toList = some s.toList := by
  rw [decode?, toList_toUTF8, read_flatMap_utf8EncodeChar]
  induction s.toList with
  | nil => rfl
  | cons c cs ih => simp [List.mapM_cons, ih]

end ProseCheck.Text.Utf8
