import KeliNode.Proxy.Percent

/-!
# The percent codec, both ways

The decoder of the source walks an index over the bytes and looks two bytes ahead.  Written with that index
(`percentDecodeLoop`), every read carries the bound that the loop has checked, and the walk ends because the index
grows.  It computes what the recursion over the remaining bytes computes (`percentDecodeLoop_eq`), so the failures can
be read off the bytes (`percentDecodeBytes_eq_none`).
-/

namespace KeliNode

open Lib

/-! ## The printed code -/

/-- Unreserved ASCII characters and codes of two upper hex digits. -/
inductive Encoded : Text → Prop
  | nil : Encoded []
  | plain {b : UInt8} {rest : Text} : isUnreserved b = true → Encoded rest → Encoded (Char.ofNat b.toNat :: rest)
  | code {hi lo : UInt8} {rest : Text} : hi < 16 → lo < 16 → Encoded rest →
      Encoded ('%' :: upperHexDigit hi :: upperHexDigit lo :: rest)

theorem encoded_byte (b : UInt8) {rest : Text} (h : Encoded rest) : Encoded (percentEncodeByte b ++ rest) := by
  rw [percentEncodeByte]
  split
  · rename_i hplain
    exact .plain hplain h
  · refine .code ?_ ?_ h
    · rw [UInt8.lt_iff_toNat_lt, UInt8.toNat_div]
      have := b.toNat_lt
      change b.toNat / 16 < 16
      omega
    · rw [UInt8.lt_iff_toNat_lt, UInt8.toNat_mod]
      change b.toNat % 16 < 16
      omega

theorem encoded_encode (value : Text) : Encoded (percentEncodePathSegment value) := by
  rw [percentEncodePathSegment]
  induction utf8 value with
  | nil => exact .nil
  | cons b bytes ih =>
    rw [List.flatMap_cons]
    exact encoded_byte b ih

/-- A character that a URL reads as part of a segment. -/
def isSegmentChar (c : Char) : Bool :=
  !(['/', '?', '#'] : List Char).contains c && !isWhite c && decide (0x20 < c.toNat) && decide (c.toNat < 0x7f)

theorem isSegmentChar_unreserved {b : UInt8} (h : isUnreserved b = true) : isSegmentChar (Char.ofNat b.toNat) = true := by
  have hall : ∀ n < 256, isUnreserved (UInt8.ofNat n) = true → isSegmentChar (Char.ofNat n) = true := by decide +kernel
  exact hall b.toNat b.toNat_lt (by rwa [UInt8.ofNat_toNat])

theorem isSegmentChar_upperHexDigit {n : UInt8} (h : n < 16) : isSegmentChar (upperHexDigit n) = true := by
  have hall : ∀ m < 16, isSegmentChar (upperHexDigit (UInt8.ofNat m)) = true := by decide +kernel
  have hdigit := hall n.toNat h
  rwa [UInt8.ofNat_toNat] at hdigit

/-- No separator, no white space and no control character is printed. -/
theorem Encoded.isSegmentChar {text : Text} (h : Encoded text) : ∀ c ∈ text, isSegmentChar c = true := by
  induction h with
  | nil => intro c hc; cases hc
  | plain hplain _ ih =>
    intro c hc
    rcases List.mem_cons.1 hc with rfl | hc
    · exact isSegmentChar_unreserved hplain
    · exact ih c hc
  | code hhi hlo _ ih =>
    intro c hc
    simp only [List.mem_cons] at hc
    rcases hc with rfl | rfl | rfl | hc
    · decide
    · exact isSegmentChar_upperHexDigit hhi
    · exact isSegmentChar_upperHexDigit hlo
    · exact ih c hc

theorem percentDecode_encode (value : Text) : percentDecodePathSegment (percentEncodePathSegment value) = .ok value := by
  rw [percentDecodePathSegment, percentDecodeBytes_encode, Option.bind_some, fromUtf8_utf8]

/-! ## The decoding loop -/

/-- The loop of `percent_decode_path_segment` (`subscription_proxy.rs:2141`), with its index; `none` is a bad escape. -/
def percentDecodeLoop (bytes : Bytes) (index : Nat) (output : Bytes) : Option Bytes :=
  if h : index < bytes.length then
    if bytes[index] = 0x25 then
      if hescape : index + 2 ≥ bytes.length then none
      else
        match hexValue bytes[index + 1] with
        | none => none
        | some hi =>
          match hexValue bytes[index + 2] with
          | none => none
          | some lo => percentDecodeLoop bytes (index + 3) (output ++ [hi <<< 4 ||| lo])
    else percentDecodeLoop bytes (index + 1) (output ++ [bytes[index]])
  else some output
termination_by bytes.length - index

theorem percentDecodeBytes_code (hi lo : UInt8) (rest : Bytes) : percentDecodeBytes (0x25 :: hi :: lo :: rest) =
    match hexValue hi, hexValue lo with
    | some hi, some lo => (percentDecodeBytes rest).map ((hi <<< 4 ||| lo) :: ·)
    | _, _ => none := by
  rw [percentDecodeBytes, if_pos rfl]
  cases hexValue hi with
  | none => rfl
  | some hi => cases hexValue lo with
    | none => rfl
    | some lo => cases percentDecodeBytes rest <;> rfl

theorem percentDecodeBytes_short {rest : Bytes} (h : rest.length < 2) : percentDecodeBytes (0x25 :: rest) = none := by
  rcases rest with _ | ⟨hi, _ | ⟨lo, rest⟩⟩
  · rfl
  · rfl
  · simp only [List.length_cons] at h
    omega

/-- **The loop** decodes what is left behind its index. -/
theorem percentDecodeLoop_eq (bytes : Bytes) (index : Nat) (output : Bytes) :
    percentDecodeLoop bytes index output = (percentDecodeBytes (bytes.drop index)).map (output ++ ·) := by
  -- behind an escape character stand the two bytes that are looked at
  have hlook : ∀ i, (h : i + 2 < bytes.length) →
      bytes.drop i = bytes[i] :: bytes[i + 1] :: bytes[i + 2] :: bytes.drop (i + 3) := by
    intro i h
    rw [List.drop_eq_getElem_cons (by omega), List.drop_eq_getElem_cons (by omega), List.drop_eq_getElem_cons (by omega)]
  fun_induction percentDecodeLoop bytes index output with
  | case1 index output h hmark hescape =>
    have hshort : (bytes.drop (index + 1)).length < 2 := by
      rw [List.length_drop]
      omega
    rw [List.drop_eq_getElem_cons h, hmark, percentDecodeBytes_short hshort]
    rfl
  | case2 index output h hmark hescape hhi =>
    rw [hlook index (by omega), hmark, percentDecodeBytes_code, hhi]
    rfl
  | case3 index output h hmark hescape hi hhi hlo =>
    rw [hlook index (by omega), hmark, percentDecodeBytes_code, hhi, hlo]
    rfl
  | case4 index output h hmark hescape hi hhi lo hlo ih =>
    rw [hlook index (by omega), hmark, percentDecodeBytes_code, hhi, hlo, ih]
    simp [Function.comp_def]
  | case5 index output h hmark ih =>
    rw [List.drop_eq_getElem_cons h, percentDecodeBytes_plain hmark, ih]
    simp [Function.comp_def]
  | case6 index output h =>
    rw [List.drop_eq_nil_of_le (by omega)]
    simp [percentDecodeBytes]

/-! ## What fails -/

def isHexDigit (b : UInt8) : Bool := (0x30 ≤ b && b ≤ 0x39) || (0x61 ≤ b && b ≤ 0x66) || (0x41 ≤ b && b ≤ 0x46)

/-- The code of a byte: a hex digit and its value below 16. -/
theorem hexValue_isSome (b : UInt8) : (hexValue b).isSome = isHexDigit b := by
  have hall : ∀ n < 256, (hexValue (UInt8.ofNat n)).isSome = isHexDigit (UInt8.ofNat n) := by decide +kernel
  have hb := hall b.toNat b.toNat_lt
  rwa [UInt8.ofNat_toNat] at hb

theorem not_mark_of_hexDigit {b : UInt8} (h : isHexDigit b = true) : b ≠ 0x25 := by
  rintro rfl
  revert h
  decide

/-- A percent sign without two hex digits behind it. -/
def BadEscape (bytes : Bytes) (i : Nat) : Prop :=
  bytes[i]? = some 0x25 ∧
    ¬ ∃ hi lo, bytes[i + 1]? = some hi ∧ bytes[i + 2]? = some lo ∧ isHexDigit hi = true ∧ isHexDigit lo = true

theorem badEscape_succ {b : UInt8} {bytes : Bytes} {i : Nat} : BadEscape (b :: bytes) (i + 1) ↔ BadEscape bytes i := by
  simp [BadEscape]

theorem badEscape_cons {b : UInt8} {bytes : Bytes} :
    (∃ i, BadEscape (b :: bytes) i) ↔ BadEscape (b :: bytes) 0 ∨ ∃ i, BadEscape bytes i := by
  constructor
  · rintro ⟨_ | i, h⟩
    · exact .inl h
    · exact .inr ⟨i, badEscape_succ.1 h⟩
  · rintro (h | ⟨i, h⟩)
    · exact ⟨0, h⟩
    · exact ⟨i + 1, badEscape_succ.2 h⟩

theorem not_badEscape_of_ne {b : UInt8} {bytes : Bytes} (h : b ≠ 0x25) : ¬ BadEscape (b :: bytes) 0 := by
  rintro ⟨hmark, -⟩
  exact h (Option.some.inj hmark)

theorem hexValue_eq_some {b : UInt8} (h : isHexDigit b = true) : ∃ value, hexValue b = some value := by
  rw [← Option.isSome_iff_exists, hexValue_isSome, h]

theorem hexValue_eq_none {b : UInt8} (h : ¬ isHexDigit b = true) : hexValue b = none := by
  rw [← Option.not_isSome_iff_eq_none, hexValue_isSome]
  exact h

/-- **Bad escapes**: the bytes are refused exactly if a percent sign lacks its digits, wherever it stands. -/
theorem percentDecodeBytes_eq_none (bytes : Bytes) : percentDecodeBytes bytes = none ↔ ∃ i, BadEscape bytes i := by
  induction hlen : bytes.length using Nat.strong_induction_on generalizing bytes with
  | _ len ih =>
    rcases bytes with _ | ⟨b, rest⟩
    · simp [percentDecodeBytes, BadEscape]
    by_cases hmark : b = 0x25
    case neg =>
      have hrest := ih rest.length (by simp only [List.length_cons] at hlen; omega) rest rfl
      rw [percentDecodeBytes_plain hmark, Option.map_eq_none_iff, hrest, badEscape_cons]
      exact (or_iff_right (not_badEscape_of_ne hmark)).symm
    subst hmark
    by_cases hshort : rest.length < 2
    · refine iff_of_true (percentDecodeBytes_short hshort) ⟨0, rfl, ?_⟩
      rintro ⟨hi, lo, -, hlo, -⟩
      have := (List.getElem?_eq_some_iff.1 hlo).1
      simp only [List.length_cons] at this
      omega
    obtain ⟨hi, lo, rest, rfl⟩ : ∃ hi lo tail, rest = hi :: lo :: tail := by
      rcases rest with _ | ⟨hi, _ | ⟨lo, tail⟩⟩
      · simp at hshort
      · simp at hshort
      · exact ⟨hi, lo, tail, rfl⟩
    by_cases hdigits : isHexDigit hi = true ∧ isHexDigit lo = true
    · -- the two digits are no percent signs themselves
      obtain ⟨high, hhigh⟩ := hexValue_eq_some hdigits.1
      obtain ⟨low, hlow⟩ := hexValue_eq_some hdigits.2
      have hrest := ih rest.length (by simp only [List.length_cons] at hlen; omega) rest rfl
      have hgood : ¬ BadEscape (0x25 :: hi :: lo :: rest) 0 := fun h => h.2 ⟨hi, lo, rfl, rfl, hdigits⟩
      rw [percentDecodeBytes_code, hhigh, hlow, badEscape_cons, or_iff_right hgood, badEscape_cons,
        or_iff_right (not_badEscape_of_ne (not_mark_of_hexDigit hdigits.1)), badEscape_cons,
        or_iff_right (not_badEscape_of_ne (not_mark_of_hexDigit hdigits.2)), ← hrest]
      exact Option.map_eq_none_iff
    · refine iff_of_true ?_ ⟨0, rfl, ?_⟩
      · rw [percentDecodeBytes_code]
        by_cases hhigh : isHexDigit hi = true
        · rw [hexValue_eq_none fun hlow => hdigits ⟨hhigh, hlow⟩]
          cases hexValue hi <;> rfl
        · rw [hexValue_eq_none hhigh]
      · rintro ⟨high, low, hhigh, hlow, hboth⟩
        cases hhigh
        cases hlow
        exact hdigits hboth

/-- The bytes that a text stands for once its escapes are read. -/
inductive Decodes : Bytes → Bytes → Prop
  | nil : Decodes [] []
  | plain {b : UInt8} {bytes decoded : Bytes} : b ≠ 0x25 → Decodes bytes decoded → Decodes (b :: bytes) (b :: decoded)
  | code {hi lo high low : UInt8} {bytes decoded : Bytes} : hexValue hi = some high → hexValue lo = some low →
      Decodes bytes decoded → Decodes (0x25 :: hi :: lo :: bytes) ((high <<< 4 ||| low) :: decoded)

theorem decodes_iff (bytes decoded : Bytes) : percentDecodeBytes bytes = some decoded ↔ Decodes bytes decoded := by
  constructor
  · intro h
    induction hlen : bytes.length using Nat.strong_induction_on generalizing bytes decoded with
    | _ len ih =>
      rcases bytes with _ | ⟨b, rest⟩
      · cases h
        exact .nil
      by_cases hmark : b = 0x25
      · subst hmark
        rcases rest with _ | ⟨hi, _ | ⟨lo, rest⟩⟩
        · cases h
        · cases h
        · rw [percentDecodeBytes_code] at h
          cases hhigh : hexValue hi with
          | none => rw [hhigh] at h; cases h
          | some high => cases hlow : hexValue lo with
            | none => rw [hhigh, hlow] at h; cases h
            | some low =>
              rw [hhigh, hlow] at h
              obtain ⟨tail, htail, rfl⟩ := Option.map_eq_some_iff.1 h
              exact .code hhigh hlow (ih rest.length (by simp only [List.length_cons] at hlen; omega) rest tail htail rfl)
      · rw [percentDecodeBytes_plain hmark] at h
        obtain ⟨tail, htail, rfl⟩ := Option.map_eq_some_iff.1 h
        exact .plain hmark (ih rest.length (by simp only [List.length_cons] at hlen; omega) rest tail htail rfl)
  · intro h
    induction h with
    | nil => rfl
    | plain hmark _ ih => rw [percentDecodeBytes_plain hmark, ih, Option.map_some]
    | code hhigh hlow _ ih => rw [percentDecodeBytes_code, hhigh, hlow]; simp [ih]

theorem fromUtf8_eq_none {bytes : Bytes} : fromUtf8 bytes = none ↔ ∀ text, utf8 text ≠ bytes := by
  constructor
  · rintro h text rfl
    rw [fromUtf8_utf8] at h
    cases h
  · intro h
    cases htext : fromUtf8 bytes with
    | none => rfl
    | some text => exact absurd (utf8_of_fromUtf8 htext) (h text)

theorem percentDecodePathSegment_error {value : Text} : (∃ error, percentDecodePathSegment value = .error error) ↔
    (∃ i, BadEscape (utf8 value) i) ∨ ∃ decoded, Decodes (utf8 value) decoded ∧ ∀ text, utf8 text ≠ decoded := by
  rw [← percentDecodeBytes_eq_none]
  simp only [← decodes_iff, ← fromUtf8_eq_none, percentDecodePathSegment]
  cases percentDecodeBytes (utf8 value) with
  | none => simp
  | some decoded => cases hdecoded : fromUtf8 decoded <;> simp [hdecoded]

/-- **The codec**: what is printed is a plain segment and is read back; the decoder of the source, reading inside its
input, refuses exactly what has a bad escape or decodes to no text. -/
theorem percent_codec (value : Text) :
    Encoded (percentEncodePathSegment value) ∧ (∀ c ∈ percentEncodePathSegment value, isSegmentChar c = true) ∧
    percentDecodePathSegment (percentEncodePathSegment value) = .ok value ∧
    percentDecodeLoop (utf8 value) 0 [] = percentDecodeBytes (utf8 value) ∧
    ((∃ error, percentDecodePathSegment value = .error error) ↔
      (∃ i, BadEscape (utf8 value) i) ∨ ∃ decoded, Decodes (utf8 value) decoded ∧ ∀ text, utf8 text ≠ decoded) := by
  refine ⟨encoded_encode value, (encoded_encode value).isSegmentChar, percentDecode_encode value, ?_,
    percentDecodePathSegment_error⟩
  rw [percentDecodeLoop_eq, List.drop_zero]
  simp

end KeliNode
