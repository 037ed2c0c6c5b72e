/-
Module: NativeBridge.Proofs.CutSearch
Purpose: The search for the place to cut a text at is over after three steps back, none of them from
  zero, and what is in front of that place is the longest part that there is room for.
Main exports: Text.Utf8.Search, Text.Utf8.Search.turn, Text.Utf8.Search.turns_looking,
  Text.Utf8.floorBoundary_near, Heap.truncatedText_searched
-/
import Mathlib.Logic.Function.Iterate
import NativeBridge.Heap
import NativeBridge.Proofs.TextCut

namespace NativeBridge

namespace Text.Utf8

/-!
`floorBoundary` takes zero for a boundary without a look at it.  The search below looks at every
position, and a step back from zero is an end of its own, so that it can be shown never to come
about.  That there are few steps is a matter of the encoding: a character has at most four bytes, so
one of any four positions in a row within a text is a boundary.
-/

/-! ### The search -/

/-- How far the search for a boundary has come. -/
inductive Search where
  | looking (position : Nat)
  | found (position : Nat)
  /-- A step back was taken from zero. -/
  | underflow
deriving Repr, DecidableEq

/-- One turn of the search: it ends at a boundary, and takes one step back elsewhere. -/
def Search.turn (bytes : List UInt8) : Search → Search
  | looking 0 => if isBoundary bytes 0 then found 0 else underflow
  | looking (n + 1) => if isBoundary bytes (n + 1) then found (n + 1) else looking n
  | found n => found n
  | underflow => underflow

theorem isBoundary_zero (bytes : List UInt8) : isBoundary bytes 0 = true := by
  rw [isBoundary]
  split <;> rfl

namespace Search

theorem turns_found (bytes : List UInt8) (n turns : Nat) :
    (turn bytes)^[turns] (found n) = found n :=
  Function.iterate_fixed rfl turns

/-- The search steps back to the nearest boundary, and stays there. -/
theorem turns_looking (bytes : List UInt8) (n turns : Nat) :
    (turn bytes)^[turns] (looking n) =
      if n < floorBoundary bytes n + turns then found (floorBoundary bytes n)
      else looking (n - turns) := by
  induction n generalizing turns with
  | zero =>
    cases turns with
    | zero => rfl
    | succ turns =>
      rw [Function.iterate_succ_apply, turn, if_pos (isBoundary_zero bytes), turns_found]
      simp [floorBoundary]
  | succ n ih =>
    cases turns with
    | zero =>
      have below := (floorBoundary_greatest bytes (n + 1)).1
      have ahead : ¬ n + 1 < floorBoundary bytes (n + 1) + 0 := by omega
      rw [if_neg ahead]
      rfl
    | succ turns =>
      rw [Function.iterate_succ_apply, turn, floorBoundary]
      by_cases here : isBoundary bytes (n + 1) = true
      · rw [if_pos here, if_pos here, turns_found, if_pos (by omega)]
      · rw [if_neg here, if_neg here, ih, Nat.add_sub_add_right]
        have same : n + 1 < floorBoundary bytes n + (turns + 1) ↔
            n < floorBoundary bytes n + turns := by omega
        simp only [same]

/-- No search steps back from zero. -/
theorem turns_ne_underflow (bytes : List UInt8) (n turns : Nat) :
    (turn bytes)^[turns] (looking n) ≠ underflow := by
  rw [turns_looking]
  split <;> exact Search.noConfusion

end Search

/-! ### How far back -/

/-- The nearest boundary below a position within a text is at most three bytes away. -/
theorem floorBoundary_near {chars : List Char} {n : Nat}
    (within : n ≤ (encodeChars chars).length) : n ≤ floorBoundary (encodeChars chars) n + 3 := by
  obtain ⟨below, boundary, greatest⟩ := floorBoundary_greatest (encodeChars chars) n
  obtain ⟨front, ⟨rest, parted⟩, long⟩ := (isBoundary_encodeChars chars _).mp boundary
  cases rest with
  | nil =>
    rw [List.append_nil] at parted
    subst parted
    omega
  | cons c rest =>
    -- The next boundary, behind one more character, is already above the position.
    have single : encodeChars [c] = String.utf8EncodeChar c := List.flatMap_singleton ..
    have next : (encodeChars (front ++ [c])).length =
        (encodeChars front).length + c.utf8Size := by
      rw [encodeChars_append, List.length_append, single, String.length_utf8EncodeChar]
    have bounded : isBoundary (encodeChars chars) (encodeChars (front ++ [c])).length = true := by
      apply (isBoundary_encodeChars chars _).mpr
      exact ⟨front ++ [c], ⟨rest, by rw [List.append_assoc]; exact parted⟩, rfl⟩
    have above : ¬ (encodeChars (front ++ [c])).length ≤ n := by
      intro inside
      have nearer := greatest _ inside bounded
      have positive := c.utf8Size_pos
      omega
    have four := c.utf8Size_le_four
    omega

-- A character of four bytes, with room for three.
example : floorBoundary (encode "😀") 3 = 0 := by
  decide

/-- What is cut is the bytes in front of the nearest boundary. -/
theorem encode_truncate (text : String) (room : Nat) :
    encode (truncate text room) =
      (encode text).take (floorBoundary (encode text) (min (encode text).length room)) := by
  have boundary := (floorBoundary_greatest (encode text) (min (encode text).length room)).2.1
  obtain ⟨front, -, -, taken⟩ := take_boundary boundary
  rw [truncate, taken, decodeLossy, decodeLossyChars_encodeChars, encode, String.toList_ofList]

end Text.Utf8

/-! ### Buffers -/

open Text.Utf8

/-- The cut of a buffer's text to the buffer's capacity.  The search starts where the room or the
text ends, never steps back from zero, and has found a boundary with at most three steps back, hence
four looks.  The bytes in front of it are the longest part of the text that has room and does not
end within a character: all of it if it fits, and otherwise at most three bytes less than the
capacity. -/
theorem Heap.truncatedText_searched {κ : Type} [HostProgram κ] (heap : Heap κ)
    (buffer : StringBuffer) :
    let text := heap.text buffer
    let bytes := encode text
    let start := min bytes.length buffer.capacity
    let search (turns : Nat) := (Search.turn bytes)^[turns] (.looking start)
    let cut := heap.truncatedText buffer
    (∀ turns, search turns ≠ .underflow) ∧
    (∃ stop, search 4 = .found stop ∧ isBoundary bytes stop = true ∧ encode cut = bytes.take stop) ∧
    IsCut text buffer.capacity cut ∧
    (cut = text ↔ bytes.length ≤ buffer.capacity) ∧
    (buffer.capacity < bytes.length → buffer.capacity ≤ (encode cut).length + 3) := by
  intro text bytes start search cut
  have within : start ≤ bytes.length := Nat.min_le_left _ _
  have near : start ≤ floorBoundary bytes start + 3 := floorBoundary_near within
  obtain ⟨below, boundary, -⟩ := floorBoundary_greatest bytes start
  have taken : encode cut = bytes.take (floorBoundary bytes start) :=
    encode_truncate text buffer.capacity
  have found : search 4 = .found (floorBoundary bytes start) := by
    show (Search.turn bytes)^[4] (.looking start) = _
    rw [Search.turns_looking]
    exact if_pos (Nat.lt_succ_of_le near)
  refine ⟨?_, ⟨_, found, boundary, taken⟩, truncate_isCut _ _, truncate_eq_self_iff _ _, ?_⟩
  · exact Search.turns_ne_underflow bytes start
  · intro long
    have full : start = buffer.capacity := Nat.min_eq_right (Nat.le_of_lt long)
    rw [taken, List.length_take, Nat.min_eq_left (Nat.le_trans below within)]
    omega

end NativeBridge
