/-
Module: NativeBridge.Proofs.TextCut
Purpose: Cutting a text to a number of bytes leaves as much of its front as there is room for, and
  never part of a character.
Main exports: Text.Utf8.isBoundary_encodeChars, Text.Utf8.IsCut, Text.Utf8.truncate_isCut,
  Text.Utf8.IsCut.eq_truncate, Text.Utf8.truncate_eq_self_iff
-/
import NativeBridge.Proofs.Utf8RoundTrip

namespace NativeBridge.Text.Utf8

/-!
The first byte of a character never continues one, and the others always do.  So the boundaries in
the bytes of a text are the lengths of what stands in front of some character.
-/

/-! ### Boundaries -/

theorem isContinuation_ofNat {n : Nat} (byte : n < 256) (outside : n < 0x80 ∨ 0xC0 ≤ n) :
    isContinuation (UInt8.ofNat n) = false := by
  have number := toNat_ofNat byte
  rw [isContinuation, Bool.and_eq_false_iff, decide_eq_false_iff_not, decide_eq_false_iff_not,
    UInt8.le_iff_toNat_le, UInt8.le_iff_toNat_le, number]
  show ¬ 128 ≤ n ∨ ¬ n ≤ 191
  omega

/-- The first byte of a character continues none, and all others do. -/
theorem encodeChar_bytes (c : Char) :
    ∃ first more, String.utf8EncodeChar c = first :: more ∧ isContinuation first = false ∧
      ∀ byte ∈ more, isContinuation byte = true := by
  have continues (n : Nat) : isContinuation (UInt8.ofNat (n % 0x40 + 0x80)) = true :=
    isContinuation_continuation n
  have none_left : ∀ byte ∈ ([] : List UInt8), isContinuation byte = true := List.forall_mem_nil _
  rw [String.utf8EncodeChar]
  generalize c.val.toNat = n
  split
  · refine ⟨_, [], rfl, isContinuation_ofNat (by omega) (by omega), ?_⟩
    exact none_left
  split
  · refine ⟨_, _, rfl, isContinuation_ofNat (by omega) (by omega), ?_⟩
    exact List.forall_mem_cons.mpr ⟨continues _, none_left⟩
  split
  · refine ⟨_, _, rfl, isContinuation_ofNat (by omega) (by omega), ?_⟩
    exact List.forall_mem_cons.mpr ⟨continues _, List.forall_mem_cons.mpr ⟨continues _, none_left⟩⟩
  · refine ⟨_, _, rfl, isContinuation_ofNat (by omega) (by omega), ?_⟩
    exact List.forall_mem_cons.mpr ⟨continues _, List.forall_mem_cons.mpr
      ⟨continues _, List.forall_mem_cons.mpr ⟨continues _, none_left⟩⟩⟩

theorem encodeChars_cons (c : Char) (chars : List Char) :
    encodeChars (c :: chars) = String.utf8EncodeChar c ++ encodeChars chars :=
  List.flatMap_cons

theorem encodeChars_append (front back : List Char) :
    encodeChars (front ++ back) = encodeChars front ++ encodeChars back :=
  List.flatMap_append

/-- Characters do not start with a byte that continues one. -/
theorem encodeChars_starts {chars : List Char} {byte : UInt8}
    (first : (encodeChars chars)[0]? = some byte) : isContinuation byte = false := by
  cases chars with
  | nil => cases first
  | cons c chars =>
    obtain ⟨start, more, bytes, starts, -⟩ := encodeChar_bytes c
    rw [encodeChars_cons, bytes] at first
    cases first
    exact starts

/-- After a character boundaries are those of the characters that follow. -/
theorem isBoundary_append {bytes : List UInt8} (nonempty : bytes ≠ []) (chars : List Char)
    (n : Nat) :
    isBoundary (bytes ++ encodeChars chars) (bytes.length + n) =
      isBoundary (encodeChars chars) n := by
  have positive : bytes.length ≠ 0 := by simpa using nonempty
  rw [isBoundary, isBoundary, List.getElem?_append_right (Nat.le_add_right _ _),
    Nat.add_sub_cancel_left]
  cases found : (encodeChars chars)[n]? with
  | none =>
    have outside := List.getElem?_eq_none_iff.mp found
    rw [Bool.eq_iff_iff]
    simp only [Bool.or_eq_true, beq_iff_eq, List.length_append]
    omega
  | some byte =>
    cases n with
    | zero => simp [encodeChars_starts found]
    | succ n => simp

/-- The boundaries of encoded characters are where one of them ends. -/
theorem isBoundary_encodeChars (chars : List Char) (n : Nat) :
    isBoundary (encodeChars chars) n = true ↔
      ∃ front, front <+: chars ∧ (encodeChars front).length = n := by
  induction chars generalizing n with
  | nil =>
    constructor
    · intro boundary
      have zero : n = 0 := by simpa [isBoundary, encodeChars] using boundary
      exact ⟨[], List.nil_prefix, zero.symm⟩
    · rintro ⟨front, least, rfl⟩
      rw [List.prefix_nil.mp least]
      rfl
  | cons c chars ih =>
    obtain ⟨first, more, bytes, starts, continues⟩ := encodeChar_bytes c
    rw [encodeChars_cons, bytes]
    by_cases inside : n < more.length + 1
    · cases n with
      | zero =>
        refine ⟨fun _ => ⟨[], List.nil_prefix, rfl⟩, fun _ => ?_⟩
        simp [isBoundary]
      | succ n =>
        have within : n < more.length := by omega
        have continued := continues more[n] (List.getElem_mem within)
        have found : (first :: more ++ encodeChars chars)[n + 1]? = some more[n] := by
          simp [within, List.getElem?_append_left]
        have outside : isBoundary (first :: more ++ encodeChars chars) (n + 1) = false := by
          rw [isBoundary, found]
          simp [continued]
        rw [outside]
        refine ⟨fun impossible => Bool.noConfusion impossible, ?_⟩
        rintro ⟨front, parted, short⟩
        cases front with
        | nil => cases short
        | cons other front =>
          rw [(List.cons_prefix_cons.mp parted).1, encodeChars_cons, bytes, List.length_append,
            List.length_cons] at short
          omega
    · obtain ⟨m, rfl⟩ := Nat.exists_eq_add_of_le (Nat.le_of_not_lt inside)
      have parted := isBoundary_append (List.cons_ne_nil first more) chars m
      rw [List.length_cons] at parted
      rw [parted, ih]
      constructor
      · rintro ⟨front, among, rfl⟩
        refine ⟨c :: front, List.cons_prefix_cons.mpr ⟨rfl, among⟩, ?_⟩
        rw [encodeChars_cons, bytes, List.length_append, List.length_cons]
      · rintro ⟨front, among, long⟩
        cases front with
        | nil =>
          have none_there : 0 = more.length + 1 + m := long
          omega
        | cons other front =>
          obtain ⟨rfl, later⟩ := List.cons_prefix_cons.mp among
          rw [encodeChars_cons, bytes, List.length_append, List.length_cons] at long
          exact ⟨front, later, Nat.add_left_cancel long⟩

/-- What stands in front of a boundary is the bytes of the first characters. -/
theorem take_boundary {text : String} {n : Nat} (boundary : isBoundary (encode text) n = true) :
    ∃ front, front <+: text.toList ∧ (encodeChars front).length = n ∧
      (encode text).take n = encodeChars front := by
  obtain ⟨front, ⟨rest, parted⟩, long⟩ := (isBoundary_encodeChars text.toList n).mp boundary
  refine ⟨front, ⟨rest, parted⟩, long, ?_⟩
  rw [encode, ← parted, encodeChars_append, ← long, List.take_left]

/-- The nearest boundary at or below a position is the greatest one there. -/
theorem floorBoundary_greatest (bytes : List UInt8) (n : Nat) :
    floorBoundary bytes n ≤ n ∧ isBoundary bytes (floorBoundary bytes n) = true ∧
      ∀ m ≤ n, isBoundary bytes m = true → m ≤ floorBoundary bytes n := by
  induction n with
  | zero =>
    refine ⟨Nat.le_refl 0, ?_, fun m least _ => least⟩
    rw [floorBoundary, isBoundary]
    split <;> rfl
  | succ n ih =>
    rw [floorBoundary]
    split
    · next here => exact ⟨Nat.le_refl _, here, fun m below _ => below⟩
    · next inside =>
      obtain ⟨below, boundary, greatest⟩ := ih
      refine ⟨Nat.le_succ_of_le below, boundary, ?_⟩
      intro m least found
      rcases Nat.lt_or_eq_of_le least with less | rfl
      · exact greatest m (Nat.le_of_lt_succ less) found
      · exact absurd found inside

/-! ### Cutting -/

/-- The longest part at the front of a text that has room in a number of bytes. -/
structure IsCut (text : String) (room : Nat) (cut : String) : Prop where
  front : cut.toList <+: text.toList
  fits : (encode cut).length ≤ room
  longest : ∀ front, front <+: text.toList → (encodeChars front).length ≤ room →
    front <+: cut.toList

/-- Of two parts at the front of a text, the one with more bytes goes on from the other. -/
theorem prefix_of_length_le {chars front longer : List Char} (one : front <+: chars)
    (two : longer <+: chars) (shorter : (encodeChars front).length ≤ (encodeChars longer).length) :
    front <+: longer := by
  rcases List.prefix_or_prefix_of_prefix one two with found | ⟨rest, rfl⟩
  · exact found
  · -- There is no byte for what is left, and every character has one.
    cases rest with
    | nil => simp
    | cons c rest =>
      obtain ⟨first, more, bytes, -⟩ := encodeChar_bytes c
      rw [encodeChars_append, encodeChars_cons, bytes, List.length_append, List.length_append,
        List.length_cons] at shorter
      omega

theorem truncate_isCut (text : String) (room : Nat) : IsCut text room (truncate text room) := by
  obtain ⟨below, boundary, greatest⟩ :=
    floorBoundary_greatest (encode text) (min (encode text).length room)
  obtain ⟨front, among, long, taken⟩ := take_boundary boundary
  have cut : (truncate text room).toList = front := by
    rw [truncate, taken, decodeLossy, decodeLossyChars_encodeChars, String.toList_ofList]
  rw [← long] at below greatest
  refine ⟨?_, ?_, ?_⟩
  · rw [cut]
    exact among
  · rw [encode, cut]
    exact Nat.le_trans below (Nat.min_le_right _ _)
  · intro other first fits
    rw [cut]
    refine prefix_of_length_le first among ?_
    refine greatest _ (Nat.le_min.mpr ⟨?_, fits⟩) ?_
    · obtain ⟨more, whole⟩ := first
      rw [encode, ← whole, encodeChars_append, List.length_append]
      exact Nat.le_add_right _ _
    · exact (isBoundary_encodeChars text.toList _).mpr ⟨other, first, rfl⟩

/-- What is cut has a zero byte only if the text has a NUL. -/
theorem IsCut.nonzero {text cut : String} {room : Nat} (isCut : IsCut text room cut)
    (clean : '\x00' ∉ text.toList) : 0 ∉ encode cut := by
  intro zero
  exact clean (isCut.front.subset ((zero_mem_encode cut).mp zero))

/-- There is one longest part. -/
theorem IsCut.eq_truncate {text cut : String} {room : Nat} (isCut : IsCut text room cut) :
    cut = truncate text room := by
  have other := truncate_isCut text room
  have one := other.longest cut.toList isCut.front isCut.fits
  have two := isCut.longest (truncate text room).toList other.front other.fits
  exact String.toList_inj.mp (one.eq_of_length_le two.length_le)

/-- A text is cut to the whole of it just when there is room for it. -/
theorem truncate_eq_self_iff (text : String) (room : Nat) :
    truncate text room = text ↔ (encode text).length ≤ room := by
  constructor
  · intro whole
    have fits := (truncate_isCut text room).fits
    rwa [whole] at fits
  · intro fits
    have whole : IsCut text room text := ⟨List.prefix_refl _, fits, fun _ among _ => among⟩
    exact whole.eq_truncate.symm

end NativeBridge.Text.Utf8
