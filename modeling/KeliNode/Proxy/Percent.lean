import KeliNode.Proxy.Route
import KeliNode.Lib.DotSegments

/-!
# Percent codes of a path segment

What `percent_encode_path_segment` prints is one segment (`segment_of_encode`) that decodes to the text it was made
from (`percentDecodeBytes_encode`).  A dot stands for itself, so the segment is a dot segment exactly for `.` and `..`
(`isDotSegment_encode`).
-/

namespace KeliNode

open Lib

/-- What an encoded byte looks like, as one check. -/
def encodedWell (b : UInt8) : Bool :=
  ((percentEncodeByte b).all fun c => !(['/', '?', '#'] : List Char).contains c) && !(percentEncodeByte b).isEmpty &&
    match utf8 (percentEncodeByte b) with
    | [c] => c = b && c ≠ 0x25
    | [percent, hi, lo] => percent = 0x25 && hexValue hi = some (b / 16) && hexValue lo = some (b % 16) &&
        (b / 16) <<< 4 ||| (b % 16) = b
    | _ => false

theorem encodedWell_all (b : UInt8) : encodedWell b = true := by
  have h : ∀ n : Fin 256, encodedWell (UInt8.ofNat n) = true := by decide +kernel
  have hb := h ⟨b.toNat, b.toNat_lt⟩
  rwa [UInt8.ofNat_toNat] at hb

theorem percentDecodeBytes_plain {b : UInt8} (h : b ≠ 0x25) (rest : Bytes) :
    percentDecodeBytes (b :: rest) = (percentDecodeBytes rest).map (b :: ·) := by
  rcases rest with _ | ⟨hi, _ | ⟨lo, rest⟩⟩ <;> simp [percentDecodeBytes, h]

theorem percentDecodeBytes_step (b : UInt8) (rest : Bytes) :
    percentDecodeBytes (utf8 (percentEncodeByte b) ++ rest) = (percentDecodeBytes rest).map (b :: ·) := by
  have h := encodedWell_all b
  simp only [encodedWell, Bool.and_eq_true] at h
  obtain ⟨-, h⟩ := h
  split at h
  · rename_i c hc
    simp only [Bool.and_eq_true, decide_eq_true_eq] at h
    rw [hc, List.singleton_append, percentDecodeBytes_plain h.2, h.1]
  · rename_i percent hi lo hc
    simp only [Bool.and_eq_true, decide_eq_true_eq] at h
    obtain ⟨⟨⟨rfl, hhi⟩, hlo⟩, hbyte⟩ := h
    rw [hc]
    simp only [List.cons_append, List.nil_append, percentDecodeBytes, if_true, hhi, hlo, Option.bind_eq_bind,
      Option.bind_some, hbyte]
    cases percentDecodeBytes rest <;> rfl
  · cases h

/-- **Round trip**: the code decodes to the bytes of the text. -/
theorem percentDecodeBytes_encode (value : Text) :
    percentDecodeBytes (utf8 (percentEncodePathSegment value)) = some (utf8 value) := by
  rw [percentEncodePathSegment]
  induction utf8 value with
  | nil => rfl
  | cons b bytes ih => rw [List.flatMap_cons, utf8_append, percentDecodeBytes_step, ih, Option.map_some]

/-- The code is one segment, and nothing behind it is read as a query or a fragment. -/
theorem segment_of_encode {value : Text} {c : Char} (h : c ∈ percentEncodePathSegment value) : c ∉ ['/', '?', '#'] := by
  obtain ⟨b, -, hc⟩ := List.mem_flatMap.1 h
  have hb := encodedWell_all b
  simp only [encodedWell, Bool.and_eq_true, List.all_eq_true] at hb
  simpa using hb.1.1 c hc

theorem encode_ne_nil {value : Text} (h : value ≠ []) : percentEncodePathSegment value ≠ [] := by
  intro hnil
  have hpos := byteLen_pos h
  cases hbytes : utf8 value with
  | nil => simp [byteLen, hbytes] at hpos
  | cons b bytes =>
    rw [percentEncodePathSegment, hbytes, List.flatMap_cons, List.append_eq_nil_iff] at hnil
    have hb := encodedWell_all b
    simp [encodedWell, hnil.1] at hb

/-- A dot segment decodes to one dot or to two. -/
theorem decode_dotSegment {segment : Text} (h : isDotSegment segment = true) :
    percentDecodeBytes (utf8 segment) = some (utf8 ".") ∨ percentDecodeBytes (utf8 segment) = some (utf8 "..") := by
  have hone : ∀ form ∈ dotForms, percentDecodeBytes (utf8 form) = some (utf8 ".") := by decide +kernel
  have htwo : ∀ first ∈ dotForms, ∀ second ∈ dotForms,
      percentDecodeBytes (utf8 (first ++ second)) = some (utf8 "..") := by decide +kernel
  rw [isDotSegment, Bool.or_eq_true] at h
  rcases h with h | h
  · simp only [isDotDot, List.any_eq_true, decide_eq_true_eq] at h
    obtain ⟨first, hfirst, second, hsecond, rfl⟩ := h
    exact .inr (htwo first hfirst second hsecond)
  · exact .inl (hone segment (by simpa [isDot] using h))

/-- **Dots**: the code is a dot segment exactly for a dot and for two. -/
theorem isDotSegment_encode {value : Text} :
    isDotSegment (percentEncodePathSegment value) = true ↔ value = "." ∨ value = ".." := by
  constructor
  · intro h
    have hdecode := decode_dotSegment h
    rw [percentDecodeBytes_encode, Option.some.injEq, Option.some.injEq] at hdecode
    exact hdecode.imp utf8_inj utf8_inj
  · rintro (rfl | rfl) <;> decide +kernel

end KeliNode
