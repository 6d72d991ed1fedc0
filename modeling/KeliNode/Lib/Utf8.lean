import KeliNode.Lib.Text

/-!
# Text as UTF-8 bytes

`utf8` gives the bytes of a text and `fromUtf8` reads them back (`fromUtf8_utf8`); what is read is exactly what
encodes to the bytes (`utf8_of_fromUtf8`).  A byte below 128 in an encoding is the character of that number
(`mem_utf8_iff`).
-/

namespace Lib

abbrev Bytes := List UInt8

def utf8 (s : Text) : Bytes := s.flatMap String.utf8EncodeChar

/-- `str::from_utf8`: `none` for bytes that encode no text. -/
def fromUtf8 (bytes : Bytes) : Option Text := bytes.toByteArray.utf8Decode?.map Array.toList

@[simp] theorem utf8_nil : utf8 [] = [] := rfl

@[simp] theorem utf8_cons (c : Char) (s : Text) : utf8 (c :: s) = String.utf8EncodeChar c ++ utf8 s := rfl

@[simp] theorem utf8_append (s t : Text) : utf8 (s ++ t) = utf8 s ++ utf8 t := List.flatMap_append

/-- **Round trip**: the bytes of a text are read back as the text. -/
theorem fromUtf8_utf8 (s : Text) : fromUtf8 (utf8 s) = some s := by
  have h : (utf8 s).toByteArray.utf8Decode? = some s.toArray := List.utf8Decode?_utf8Encode
  rw [fromUtf8, h]
  rfl

theorem utf8_of_fromUtf8 {bytes : Bytes} {s : Text} (h : fromUtf8 bytes = some s) : utf8 s = bytes := by
  obtain ⟨chars, hchars, rfl⟩ := Option.map_eq_some_iff.1 h
  have hsome : bytes.toByteArray.utf8Decode?.isSome = true := by rw [hchars]; rfl
  have henc := ByteArray.utf8Encode_get_utf8Decode? (b := bytes.toByteArray) (h := hsome)
  simp only [hchars, Option.get_some] at henc
  have hdata := congrArg (fun b : ByteArray => b.data.toList) henc
  simpa [List.utf8Encode, utf8] using hdata

theorem utf8_inj {s t : Text} (h : utf8 s = utf8 t) : s = t := by
  have hs := fromUtf8_utf8 s
  rw [h, fromUtf8_utf8] at hs
  exact (Option.some.inj hs).symm

/-! ## ASCII -/

theorem utf8EncodeChar_ascii {c : Char} (h : c.toNat < 128) : String.utf8EncodeChar c = [UInt8.ofNat c.toNat] := by
  have hle : c.val.toNat ≤ 0x7f := by
    change c.toNat ≤ 127
    omega
  simp only [String.utf8EncodeChar]
  rw [if_pos hle]
  rfl

/-- The bytes of a character outside ASCII are all 128 or more. -/
theorem le_of_mem_utf8EncodeChar {c : Char} (h : 128 ≤ c.toNat) {b : UInt8} (hb : b ∈ String.utf8EncodeChar c) :
    128 ≤ b.toNat := by
  have hgt : ¬ c.val.toNat ≤ 0x7f := by
    change ¬ c.toNat ≤ 127
    omega
  simp only [String.utf8EncodeChar] at hb
  rw [if_neg hgt] at hb
  split at hb
  · simp only [List.mem_cons, List.not_mem_nil, or_false] at hb
    rcases hb with rfl | rfl <;> simp only [UInt8.toNat_ofNat'] <;> omega
  · split at hb
    · simp only [List.mem_cons, List.not_mem_nil, or_false] at hb
      rcases hb with rfl | rfl | rfl <;> simp only [UInt8.toNat_ofNat'] <;> omega
    · simp only [List.mem_cons, List.not_mem_nil, or_false] at hb
      rcases hb with rfl | rfl | rfl | rfl <;> simp only [UInt8.toNat_ofNat'] <;> omega

/-- An ASCII byte of an encoding is the character of that number. -/
theorem mem_utf8_iff {c : Char} (hc : c.toNat < 128) {s : Text} : UInt8.ofNat c.toNat ∈ utf8 s ↔ c ∈ s := by
  constructor
  · intro h
    obtain ⟨d, hd, hb⟩ := List.mem_flatMap.1 h
    by_cases hascii : d.toNat < 128
    · rw [utf8EncodeChar_ascii hascii, List.mem_singleton] at hb
      have hnat := congrArg UInt8.toNat hb
      simp only [UInt8.toNat_ofNat'] at hnat
      have heq : c.toNat = d.toNat := by omega
      have hcd : c = d := Char.ext (UInt32.toNat_inj.1 heq)
      exact hcd ▸ hd
    · have hle := le_of_mem_utf8EncodeChar (by omega) hb
      simp only [UInt8.toNat_ofNat'] at hle
      omega
  · intro h
    refine List.mem_flatMap.2 ⟨c, h, ?_⟩
    rw [utf8EncodeChar_ascii hc]
    exact List.mem_singleton.2 rfl

/-! ## Length -/

/-- `str::len`: the number of bytes. -/
def byteLen (s : Text) : Nat := (utf8 s).length

theorem byteLen_append (s t : Text) : byteLen (s ++ t) = byteLen s + byteLen t := by
  simp [byteLen]

theorem byteLen_pos {s : Text} (h : s ≠ []) : 0 < byteLen s := by
  cases s with
  | nil => exact absurd rfl h
  | cons c s =>
    rw [byteLen, utf8_cons, List.length_append, String.length_utf8EncodeChar]
    have := c.utf8Size_pos
    omega

end Lib
