import Mathlib.Data.List.Basic

/-!
# Streams in pieces

A reader hands a stream out in pieces of bounded length.  The piece that completes the first `n` symbols ends at a
place that depends on how the stream is cut: anywhere from `n` (`exists_delivery_at`) to `limit - 1` symbols later
(`cut_le`), and the places in between can all be reached.
-/

namespace Lib

section

variable {α : Type}

/-- The pieces are a delivery of the stream: none is empty and none is longer than the limit. -/
structure Delivers (limit : Nat) (pieces : List (List α)) (stream : List α) : Prop where
  nonempty : ∀ piece ∈ pieces, piece ≠ []
  bounded : ∀ piece ∈ pieces, piece.length ≤ limit
  whole : pieces.flatten = stream

variable {limit n : Nat} {pieces front back : List (List α)} {piece stream : List α}

theorem Delivers.append {left right : List (List α)} {first second : List α} (hl : Delivers limit left first)
    (hr : Delivers limit right second) : Delivers limit (left ++ right) (first ++ second) where
  nonempty p hp := (List.mem_append.1 hp).elim (hl.nonempty p) (hr.nonempty p)
  bounded p hp := (List.mem_append.1 hp).elim (hl.bounded p) (hr.bounded p)
  whole := by rw [List.flatten_append, hl.whole, hr.whole]

/-- One symbol at a time. -/
theorem delivers_singles (limit : Nat) (hlimit : 0 < limit) (stream : List α) : Delivers limit (stream.map fun a => [a]) stream where
  nonempty p hp := by
    obtain ⟨a, -, rfl⟩ := List.mem_map.1 hp
    simp
  bounded p hp := by
    obtain ⟨a, -, rfl⟩ := List.mem_map.1 hp
    exact hlimit
  whole := by
    induction stream with
    | nil => rfl
    | cons a stream ih => rw [List.map_cons, List.flatten_cons, ih, List.singleton_append]

/-- One piece completes the first `n` symbols. -/
theorem exists_cut : ∀ {pieces : List (List α)} {n : Nat}, 0 < n → n ≤ pieces.flatten.length →
    ∃ front piece back, pieces = front ++ piece :: back ∧ front.flatten.length < n ∧
      n ≤ (front ++ [piece]).flatten.length
  | [], n, hpos, hn => by
    rw [List.flatten_nil, List.length_nil] at hn
    omega
  | piece :: pieces, n, hpos, hn => by
    by_cases hhere : n ≤ piece.length
    · exact ⟨[], piece, pieces, rfl, hpos, by simpa using hhere⟩
    · rw [List.flatten_cons, List.length_append] at hn
      obtain ⟨front, cut, back, rfl, hfront, hcut⟩ := @exists_cut pieces (n - piece.length) (by omega) (by omega)
      refine ⟨piece :: front, cut, back, rfl, ?_, ?_⟩
      · rw [List.flatten_cons, List.length_append]
        omega
      · rw [List.cons_append, List.flatten_cons, List.length_append]
        omega

/-- What is complete is not far past `n`. -/
theorem Delivers.cut_le (h : Delivers limit (front ++ piece :: back) stream) (hfront : front.flatten.length < n) :
    (front ++ [piece]).flatten.length < n + limit := by
  have hpiece := h.bounded piece (by simp)
  rw [List.flatten_append, List.flatten_singleton, List.length_append]
  omega

theorem Delivers.cut_whole (h : Delivers limit (front ++ piece :: back) stream) :
    (front ++ [piece]).flatten ++ back.flatten = stream := by
  rw [← h.whole, ← List.flatten_append, List.append_assoc, List.singleton_append]

/-- A delivery whose piece that completes the first `n` symbols ends at `stop`. -/
theorem exists_delivery_at (limit n stop : Nat) (hpos : 0 < n) (hstop : n ≤ stop) (hle : stop ≤ stream.length)
    (hlimit : stop < n + limit) : ∃ front piece back, Delivers limit (front ++ piece :: back) stream ∧
      front.flatten.length < n ∧ (front ++ [piece]).flatten = stream.take stop := by
  have hfront := delivers_singles limit (by omega) (stream.take (n - 1))
  have hback := delivers_singles limit (by omega) (stream.drop stop)
  have hsplit : stream.take (n - 1) ++ (stream.take stop).drop (n - 1) = stream.take stop := by
    have htake : stream.take (n - 1) = (stream.take stop).take (n - 1) := by
      rw [List.take_take, Nat.min_eq_left (by omega)]
    rw [htake, List.take_append_drop]
  have hlen : ((stream.take stop).drop (n - 1)).length = stop - (n - 1) := by
    rw [List.length_drop, List.length_take, Nat.min_eq_left hle]
  have hpiece : Delivers limit [(stream.take stop).drop (n - 1)] ((stream.take stop).drop (n - 1)) := by
    refine ⟨fun p hp => ?_, fun p hp => ?_, by simp⟩
    · rw [List.mem_singleton.1 hp, ← List.length_pos_iff, hlen]
      omega
    · rw [List.mem_singleton.1 hp, hlen]
      omega
  refine ⟨(stream.take (n - 1)).map fun a => [a], (stream.take stop).drop (n - 1),
    (stream.drop stop).map fun a => [a], ?_, ?_, ?_⟩
  · have hall := (hfront.append hpiece).append hback
    rw [hsplit, List.take_append_drop, List.append_assoc, List.singleton_append] at hall
    exact hall
  · rw [hfront.whole, List.length_take]
    omega
  · rw [List.flatten_append, hfront.whole, List.flatten_singleton, hsplit]

end

end Lib
