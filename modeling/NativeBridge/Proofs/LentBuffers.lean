/-
Module: NativeBridge.Proofs.LentBuffers
Purpose: What the arguments of a native call leave in native memory, and the room that is lent for
  the string buffers among them.
Main exports: Value.Sendable, Value.room, SentAll, SentAll.encodeAll, SentAll.accepted, LentAt,
  SentAll.lentAt, readBack_lent
-/
import Mathlib.Algebra.Ring.Nat
import NativeBridge.Proofs.PlainValues
import NativeBridge.Proofs.RunGrowth

namespace NativeBridge

variable {κ : Type} [HostProgram κ]

/-!
Each argument that needs native memory gets memory of its own behind what is handed out.  So the
room lent for a string buffer is apart from every text that stood in memory before, and from what
the other arguments get.
-/

/-- The C string at an address lies between two places, its terminator included. -/
def Memory.CStringWithin (memory : Memory) (address : UInt64) (lower upper : Nat) : Prop :=
  lower ≤ address.toNat ∧
    ∃ stop, address.toNat ≤ stop ∧ stop < upper ∧ memory.read stop = 0

/-- A value that can be passed to host code behind a parameter of a type: one that crosses by itself,
a text without a NUL, the address of a C string, or a string buffer that needs no more room than
there can be. -/
inductive Value.Sendable (memory : Memory) : Value κ → HostType κ → Prop
  | direct {value seen : Value κ} {type : HostType κ} {raw : RawValue}
      (given : value.toRaw? = some raw) (abi : raw.abi = type.abi)
      (taken : Value.fromRaw raw type = .ok seen) : Sendable memory value type
  | text {text : String} (clean : '\x00' ∉ text.toList) : Sendable memory (.string text) .string
  | address {type : HostType κ} {address : UInt64}
      (asText : type = .string ∨ type = .stringBuffer) (nonnull : address ≠ 0)
      (stands : memory.CStringWithin address 0 (Memory.base + memory.size)) :
      Sendable memory (.pointer address) type
  | buffer {buffer : StringBuffer} (small : buffer.capacity + 1 ≤ largestRoom) :
      Sendable memory (.stringBuffer buffer) .stringBuffer

/-- The number of bytes that are handed out for an argument. -/
def Value.room : Value κ → Nat
  | .string text => (Text.Utf8.encode text).length + 1
  | .stringBuffer buffer => buffer.capacity + 1
  | _ => 0

/-! ### Room for a text -/

namespace Memory

variable {memory later : Memory} {address : UInt64} {lower upper : Nat}

theorem CStringWithin.widen {less more : Nat} (within : memory.CStringWithin address lower upper)
    (below : less ≤ lower) (above : upper ≤ more) : memory.CStringWithin address less more := by
  obtain ⟨start, stop, behind, inside, read⟩ := within
  exact ⟨Nat.le_trans below start, stop, behind, Nat.lt_of_lt_of_le inside above, read⟩

theorem CStringWithin.length_lt (within : memory.CStringWithin address lower upper) :
    address.toNat + (memory.cString address).length < upper := by
  obtain ⟨-, stop, behind, inside, read⟩ := within
  by_cases longer : stop < address.toNat + (memory.cString address).length
  · -- There is no zero inside a C string.
    obtain ⟨index, rfl⟩ := Nat.exists_eq_add_of_le behind
    exact absurd read (bytesBeforeZero_nonzero _ _ _ _ (Nat.lt_of_add_lt_add_left longer))
  · omega

/-- A C string in memory that is handed out stays where it is while more is handed out. -/
theorem CStringWithin.extend (within : memory.CStringWithin address lower (base + memory.size))
    (grown : memory.Extends later) : later.CStringWithin address lower (base + memory.size) := by
  obtain ⟨start, stop, behind, inside, read⟩ := within
  exact ⟨start, stop, behind, inside, (grown.kept stop inside).trans read⟩

theorem HoldsCString.within {bytes : List UInt8} (holds : memory.HoldsCString address bytes) :
    memory.CStringWithin address address.toNat (base + memory.size) :=
  ⟨Nat.le_refl _, address.toNat + bytes.length, Nat.le_add_right _ _, holds.upper,
    holds.written bytes.length 0 List.getElem?_concat_length⟩

/-- Room that is handed out begins behind what was handed out before. -/
theorem allocateRoom_place {bytes : List UInt8} {room : Nat}
    (fits : (memory.allocateRoom bytes room).2.Fits) (positive : 0 < room) :
    (memory.allocateRoom bytes room).1.toNat = base + memory.size := by
  have size : base + (memory.size + room) ≤ UInt64.size := fits
  apply UInt64.toNat_ofNat_of_lt'
  omega

/-- Room with a C string at its front holds it. -/
theorem allocateRoom_holds {bytes : List UInt8} {room : Nat}
    (fits : (memory.allocateRoom (bytes ++ [0]) room).2.Fits) (short : bytes.length < room) :
    (memory.allocateRoom (bytes ++ [0]) room).2.HoldsCString
      (memory.allocateRoom (bytes ++ [0]) room).1 bytes := by
  have place := allocateRoom_place fits (Nat.zero_lt_of_lt short)
  have size : (memory.allocateRoom (bytes ++ [0]) room).2.size = memory.size + room := rfl
  refine ⟨?_, ?_, ?_⟩
  · omega
  · omega
  · intro index byte found
    have inside : index < (bytes ++ [0]).length := (List.getElem?_eq_some_iff.mp found).1
    have read := memory.read_writeAll (base + memory.size) (bytes ++ [0])
      (base + memory.size + index)
    rw [if_pos ⟨Nat.le_add_right _ _, Nat.add_lt_add_left inside _⟩, Nat.add_sub_cancel_left,
      List.getD_eq_getElem?_getD, found] at read
    rw [place]
    exact read

end Memory

/-- The native memory lent for a string buffer. -/
def lend (heap : Heap κ) (buffer : StringBuffer) (memory : Memory) : UInt64 × Memory :=
  memory.allocateRoom (lentBytes heap buffer) (buffer.capacity + 1)

/-! ### One argument -/

/-- What encoding an argument comes to, from one memory to the next.  Texts whose address is passed
are held in a memory from before. -/
inductive SentOne (heap : Heap κ) (held : Memory) :
    HostType κ → Value κ → Memory → RawValue → List LentBuffer → Memory → Prop
  | direct {type : HostType κ} {value seen : Value κ} {raw : RawValue} {before : Memory}
      (given : value.toRaw? = some raw) (abi : raw.abi = type.abi)
      (taken : Value.fromRaw raw type = .ok seen) : SentOne heap held type value before raw [] before
  | text {text : String} {before : Memory} (clean : '\x00' ∉ text.toList) :
      SentOne heap held .string (.string text) before
        (.pointer (before.allocateCString (Text.Utf8.encode text)).1) []
        (before.allocateCString (Text.Utf8.encode text)).2
  | address {type : HostType κ} {address : UInt64} {before : Memory}
      (asText : type = .string ∨ type = .stringBuffer) (nonnull : address ≠ 0)
      (stands : held.CStringWithin address 0 (Memory.base + held.size)) :
      SentOne heap held type (.pointer address) before (.pointer address) [] before
  | buffer {buffer : StringBuffer} {before : Memory} (small : buffer.capacity + 1 ≤ largestRoom) :
      SentOne heap held .stringBuffer (.stringBuffer buffer) before
        (.pointer (lend heap buffer before).1) [⟨(lend heap buffer before).1, buffer⟩]
        (lend heap buffer before).2

/-- A value that can be passed is encoded. -/
theorem Value.Sendable.sentOne {held : Memory} {value : Value κ} {type : HostType κ}
    (sendable : value.Sendable held type) (heap : Heap κ) (before : Memory) :
    ∃ raw lent after, SentOne heap held type value before raw lent after := by
  cases sendable with
  | direct given abi taken => exact ⟨_, _, _, .direct given abi taken⟩
  | text clean => exact ⟨_, _, _, .text clean⟩
  | address asText nonnull stands => exact ⟨_, _, _, .address asText nonnull stands⟩
  | buffer small => exact ⟨_, _, _, .buffer small⟩

/-- A parameter that takes the address of a text takes every address but the null address. -/
theorem accept_address {type : HostType κ} (asText : type = .string ∨ type = .stringBuffer)
    {address : UInt64} (nonnull : address ≠ 0) (registry : Option (Registry κ)) (memory : Memory)
    (heap : Heap κ) :
    ∃ decoded, accept registry memory (.ofType type) (.pointer address) heap = .ok decoded := by
  rcases asText with rfl | rfl
  · rw [MarshalSlot.ofType, accept_string, cStringAt, if_neg nonnull]
    exact ⟨_, rfl⟩
  · rw [MarshalSlot.ofType, accept_stringBuffer, cStringAt, if_neg nonnull]
    exact ⟨_, rfl⟩

/-- What crosses by itself is not taken for the address of a text. -/
theorem Value.fromRaw_stringBuffer {raw : RawValue} {seen : Value κ}
    (taken : Value.fromRaw raw .stringBuffer = .ok seen) : False := by
  cases raw <;> cases taken

namespace SentOne

variable {heap : Heap κ} {held before after later : Memory} {type : HostType κ} {value : Value κ}
  {raw : RawValue} {lent : List LentBuffer}

theorem encodeOne (sent : SentOne heap held type value before raw lent after) :
    NativeBridge.encodeOne heap type value before = .returned (.ok (raw, lent, after)) := by
  cases sent with
  | direct given abi taken =>
    have direct : giveDirect type value = .ok raw := by
      rw [giveDirect, given]
      exact if_pos abi
    have other : NativeBridge.encodeOne heap type value before = (do
        let raw ← giveDirect type value
        return (raw, [], before)) := by
      cases type with
      | string =>
        cases value with
        | string text => cases given
        | _ => rfl
      | stringBuffer => exact (Value.fromRaw_stringBuffer taken).elim
      | _ => cases value <;> rfl
    rw [other, direct]
    rfl
  | text clean =>
    rw [NativeBridge.encodeOne, cBytes_ok clean]
    rfl
  | address asText nonnull stands => rcases asText with rfl | rfl <;> rfl
  | buffer small =>
    rw [NativeBridge.encodeOne, if_pos small]
    rfl

theorem abi (sent : SentOne heap held type value before raw lent after) : raw.abi = type.abi := by
  cases sent with
  | direct given abi taken => exact abi
  | address asText nonnull stands => rcases asText with rfl | rfl <;> rfl
  | _ => rfl

theorem size (sent : SentOne heap held type value before raw lent after) :
    after.size = before.size + value.room := by
  cases sent with
  | direct given abi taken => cases value <;> first | rfl | cases given
  | text clean =>
    show before.size + (_ ++ [0]).length = _
    rw [List.length_append, List.length_singleton]
    rfl
  | _ => rfl

/-- Only string buffers are lent memory for. -/
theorem lends (sent : SentOne heap held type value before raw lent after) :
    ∀ one ∈ lent, value = .stringBuffer one.buffer := by
  cases sent with
  | buffer small =>
    intro one found
    rw [List.mem_singleton.mp found]
  | _ => exact List.forall_mem_nil _

/-- Host code behind the parameter can be given the argument. -/
theorem accepted (sent : SentOne heap held type value before raw lent after) (fits : after.Fits)
    (registry : Option (Registry κ)) (memory : Memory) (now : Heap κ) :
    ∃ decoded, accept registry memory (.ofType type) raw now = .ok decoded := by
  cases sent with
  | direct given abi taken =>
    cases type with
    | stringBuffer => exact (Value.fromRaw_stringBuffer taken).elim
    | string => cases raw <;> cases taken
    | object type => cases raw <;> cases taken
    | _ =>
      simp only [accept, MarshalSlot.ofType]
      rw [taken]
      exact ⟨_, rfl⟩
  | text clean =>
    exact accept_address (.inl rfl) (Memory.allocateCString_holds fits).nonnull _ _ _
  | address asText nonnull stands => exact accept_address asText nonnull _ _ _
  | @buffer buffer before small =>
    have short := Nat.lt_succ_of_le (heap.length_truncatedText_le buffer)
    exact accept_address (.inr rfl) (Memory.allocateRoom_holds fits short).nonnull _ _ _

/-- A text buffer that is passed on lies in memory from before, or in memory of its own. -/
theorem cString (sent : SentOne heap held type value before raw lent after)
    (fits : after.Fits) (early : held.Extends later) (late : after.Extends later)
    {address : UInt64} (passed : textAt? (.ofType type) raw = some address) :
    later.CStringWithin address 0 (Memory.base + held.size) ∨
      later.CStringWithin address (Memory.base + before.size) (Memory.base + after.size) := by
  cases sent with
  | direct given abi taken =>
    cases type with
    | stringBuffer => exact (Value.fromRaw_stringBuffer taken).elim
    | _ => cases passed
  | text clean => cases passed
  | address asText nonnull stands =>
    rcases asText with rfl | rfl
    · cases passed
    · cases passed
      exact .inl (stands.extend early)
  | @buffer buffer before small =>
    cases passed
    have holds := Memory.allocateRoom_holds fits
      (Nat.lt_succ_of_le (heap.length_truncatedText_le buffer))
    have place := Memory.allocateRoom_place fits (Nat.succ_pos _)
    exact .inr ((holds.within.extend late).widen (Nat.le_of_eq place.symm) (Nat.le_refl _))

end SentOne

/-! ### Argument lists -/

/-- What encoding arguments comes to, one after the other. -/
inductive SentAll (heap : Heap κ) (held : Memory) : List (HostType κ) → List (Value κ) → Memory →
    List RawValue → List LentBuffer → Memory → Prop
  | nil {memory : Memory} : SentAll heap held [] [] memory [] [] memory
  | cons {type : HostType κ} {types : List (HostType κ)} {value : Value κ} {values : List (Value κ)}
      {before middle after : Memory} {raw : RawValue} {raws : List RawValue}
      {first rest : List LentBuffer} (one : SentOne heap held type value before raw first middle)
      (others : SentAll heap held types values middle raws rest after) :
      SentAll heap held (type :: types) (value :: values) before (raw :: raws) (first ++ rest) after

theorem Value.Sendable.sentAll {held : Memory} {values : List (Value κ)}
    {types : List (HostType κ)} (sendable : List.Forall₂ (Value.Sendable held) values types)
    (heap : Heap κ) (before : Memory) :
    ∃ raws lent after, SentAll heap held types values before raws lent after := by
  induction sendable generalizing before with
  | nil => exact ⟨_, _, _, .nil⟩
  | cons first _ ih =>
    obtain ⟨raw, lent, middle, one⟩ := first.sentOne heap before
    obtain ⟨raws, rest, after, others⟩ := ih middle
    exact ⟨_, _, _, .cons one others⟩

/-- Where the memory lent for the string buffer at an index lies, and what is in it.  What else is
lent is for other arguments, and no text buffer that is passed on for another argument gets into it. -/
structure LentAt (heap : Heap κ) (types : List (HostType κ)) (values : List (Value κ))
    (before : Memory) (raws : List RawValue) (lent : List LentBuffer) (after : Memory) (index : Nat)
    (buffer : StringBuffer) (place : UInt64) : Prop where
  passed : bufferAt? (types.map .ofType) raws index = some place
  holds : after.HoldsCString place (Text.Utf8.encode (heap.truncatedText buffer))
  lower : Memory.base + before.size ≤ place.toNat
  upper : place.toNat + buffer.capacity < Memory.base + after.size
  others : ∃ front back, lent = front ++ ⟨place, buffer⟩ :: back ∧
    ∀ one ∈ front ++ back, ∃ other, other ≠ index ∧
      values[other]? = some (.stringBuffer one.buffer)
  apart : ∀ other address, other ≠ index → bufferAt? (types.map .ofType) raws other = some address →
    after.CStringWithin address 0 place.toNat ∨ place.toNat + buffer.capacity < address.toNat

namespace SentAll

variable {heap : Heap κ} {held before after later : Memory} {types : List (HostType κ)}
  {values : List (Value κ)} {raws : List RawValue} {lent : List LentBuffer}

theorem encodeAll (sent : SentAll heap held types values before raws lent after) :
    NativeBridge.encodeAll heap types values before = .returned (.ok (raws, lent, after)) := by
  induction sent with
  | nil => rfl
  | cons one others ih =>
    rw [NativeBridge.encodeAll, one.encodeOne]
    simp only [bind, Outcome.bind]
    rw [ih]
    rfl

theorem grown (sent : SentAll heap held types values before raws lent after) :
    before.Extends after :=
  encodeAll_extends sent.encodeAll

theorem abis (sent : SentAll heap held types values before raws lent after) :
    raws.map RawValue.abi = types.map HostType.abi := by
  induction sent with
  | nil => rfl
  | cons one others ih => rw [List.map_cons, List.map_cons, one.abi, ih]

theorem size (sent : SentAll heap held types values before raws lent after) :
    after.size = before.size + (values.map Value.room).sum := by
  induction sent with
  | nil => rfl
  | cons one others ih => rw [ih, one.size, List.map_cons, List.sum_cons, Nat.add_assoc]

theorem lends (sent : SentAll heap held types values before raws lent after) :
    ∀ one ∈ lent, ∃ index : Nat, values[index]? = some (.stringBuffer one.buffer) := by
  induction sent with
  | nil => exact List.forall_mem_nil _
  | cons one others ih =>
    intro piece found
    rcases List.mem_append.mp found with here | there
    · exact ⟨0, congrArg some (one.lends piece here)⟩
    · obtain ⟨index, same⟩ := ih piece there
      exact ⟨index + 1, same⟩

/-- Host code behind the parameters can be given the arguments. -/
theorem accepted (sent : SentAll heap held types values before raws lent after) (fits : after.Fits)
    (registry : Option (Registry κ)) (memory : Memory) (now : Heap κ) :
    ∃ decoded, acceptEach registry memory (types.map .ofType) raws now = .ok decoded := by
  induction sent generalizing now with
  | nil => exact ⟨_, rfl⟩
  | cons one others ih =>
    obtain ⟨⟨value, first, middle⟩, here⟩ :=
      one.accepted (others.grown.fits fits) registry memory now
    obtain ⟨⟨seen, rest, last⟩, there⟩ := ih fits middle
    simp only [List.map_cons, acceptEach, here, there, bind, Except.bind]
    exact ⟨_, rfl⟩

/-- The text buffers that are passed on lie in memory from before, or in memory handed out for them. -/
theorem cString (sent : SentAll heap held types values before raws lent after) (fits : after.Fits)
    (early : held.Extends later) (late : after.Extends later) {index : Nat} {address : UInt64}
    (passed : bufferAt? (types.map .ofType) raws index = some address) :
    later.CStringWithin address 0 (Memory.base + held.size) ∨
      later.CStringWithin address (Memory.base + before.size) (Memory.base + after.size) := by
  induction sent generalizing index with
  | nil => cases passed
  | cons one others ih =>
    have grown := others.grown
    have grownOne := encodeOne_extends one.encodeOne
    cases index with
    | zero =>
      rcases one.cString (grown.fits fits) early (grown.trans late) passed with old | new
      · exact .inl old
      · exact .inr (new.widen (Nat.le_refl _) (Nat.add_le_add_left grown.size _))
    | succ index =>
      have later : bufferAt? (_ : List (MarshalSlot κ)) _ index = some address := passed
      rcases ih fits late later with old | new
      · exact .inl old
      · exact .inr (new.widen (Nat.add_le_add_left grownOne.size _) (Nat.le_refl _))

/-- Memory is lent for each string buffer among the arguments, apart from everything else. -/
theorem lentAt (sent : SentAll heap held types values before raws lent after) (fits : after.Fits)
    (early : held.Extends before) {index : Nat} {buffer : StringBuffer}
    (there : values[index]? = some (.stringBuffer buffer)) :
    ∃ place, LentAt heap types values before raws lent after index buffer place := by
  induction sent generalizing index with
  | nil => cases there
  | @cons type types value values before middle after raw raws first rest one others ih =>
    have grown := others.grown
    have grownOne := encodeOne_extends one.encodeOne
    cases index with
    | zero =>
      obtain rfl : value = .stringBuffer buffer := Option.some.inj there
      cases one with
      | direct given abi taken => cases given
      | buffer small =>
        have room := grown.fits fits
        have short := Nat.lt_succ_of_le (heap.length_truncatedText_le buffer)
        have place : (lend heap buffer before).1.toNat = Memory.base + before.size :=
          Memory.allocateRoom_place room (Nat.succ_pos _)
        have size : (lend heap buffer before).2.size = before.size + (buffer.capacity + 1) := rfl
        have more := grown.size
        refine ⟨(lend heap buffer before).1, rfl, (Memory.allocateRoom_holds room short).extend grown,
          Nat.le_of_eq place.symm, by omega, ⟨[], rest, rfl, ?_⟩, ?_⟩
        · intro piece found
          obtain ⟨other, same⟩ := others.lends piece found
          exact ⟨other + 1, Nat.succ_ne_zero other, same⟩
        · intro other address different passed
          cases other with
          | zero => exact absurd rfl different
          | succ other =>
            have later : bufferAt? (_ : List (MarshalSlot κ)) raws other = some address := passed
            rcases others.cString fits (early.trans (grownOne.trans grown)) (.refl _) later
              with old | new
            · have earlier := early.size
              exact .inl (old.widen (Nat.le_refl _) (by omega))
            · have behind := new.1
              exact .inr (by omega)
    | succ index =>
      have later : values[index]? = some (.stringBuffer buffer) := there
      obtain ⟨place, lentAt⟩ := ih fits (early.trans grownOne) later
      obtain ⟨front, back, rfl, parted⟩ := lentAt.others
      have earlier := grownOne.size
      have lower := lentAt.lower
      refine ⟨place, lentAt.passed, lentAt.holds, by omega, lentAt.upper,
        ⟨first ++ front, back, (List.append_assoc _ _ _).symm, ?_⟩, ?_⟩
      · intro piece found
        rw [List.append_assoc] at found
        rcases List.mem_append.mp found with here | later
        · exact ⟨0, (Nat.succ_ne_zero index).symm, congrArg some (one.lends piece here)⟩
        · obtain ⟨other, different, same⟩ := parted piece later
          exact ⟨other + 1, fun same => different (Nat.succ.inj same), same⟩
      · intro other address different passed
        cases other with
        | zero =>
          -- What comes first lies in front of everything that follows.
          left
          rcases one.cString (grown.fits fits) (early.trans (grownOne.trans grown)) grown
            passed with old | new
          · have held := early.size
            exact old.widen (Nat.le_refl _) (by omega)
          · exact new.widen (Nat.zero_le _) lower
        | succ other =>
          exact lentAt.apart other address (fun same => different (congrArg (· + 1) same)) passed

end SentAll

/-! ### Reading back -/

/-- The text of the buffer in a cell; a buffer that does not exist has none. -/
theorem Heap.setText_other {heap : Heap κ} {buffer : StringBuffer} {text : String} {cell : Nat}
    (other : buffer.cell ≠ cell) :
    (heap.setText buffer text).texts[cell]? = heap.texts[cell]? :=
  Array.getElem?_setIfInBounds_ne other

/-- A string buffer for which no memory was lent keeps its text. -/
theorem readBack_apart {memory : Memory} {lent : List LentBuffer} {heap : Heap κ} {cell : Nat}
    (apart : ∀ one ∈ lent, one.buffer.cell ≠ cell) :
    (readBack memory lent heap).texts[cell]? = heap.texts[cell]? := by
  induction lent generalizing heap with
  | nil => rfl
  | cons one lent ih =>
    have first : (heap.setText one.buffer (one.textIn memory)).texts[cell]? = heap.texts[cell]? :=
      Heap.setText_other (apart one List.mem_cons_self)
    rw [← first]
    exact ih fun other found => apart other (List.mem_cons_of_mem _ found)

/-- A string buffer for which memory was lent once gets the text that is left there. -/
theorem readBack_lent {memory : Memory} {front back : List LentBuffer} {one : LentBuffer}
    {heap : Heap κ} (there : one.buffer.cell < heap.texts.size)
    (once : ∀ other ∈ back, other.buffer.cell ≠ one.buffer.cell) :
    (readBack memory (front ++ one :: back) heap).texts[one.buffer.cell]? =
      some (one.textIn memory) := by
  have parted : readBack memory (front ++ one :: back) heap =
      readBack memory back ((readBack memory front heap).setText one.buffer (one.textIn memory)) := by
    rw [readBack, List.foldl_append]
    rfl
  rw [parted, readBack_apart once]
  apply Array.getElem?_setIfInBounds_self_of_lt
  rw [readBack_texts_size]
  exact there

/-- The text in lent memory is read up to its terminator. -/
theorem LentBuffer.textIn_eq {one : LentBuffer} {memory : Memory} {text : String}
    (spelled : memory.Spells one.address.toNat (Text.Utf8.encode text))
    (short : (Text.Utf8.encode text).length ≤ one.buffer.capacity) : one.textIn memory = text := by
  rw [LentBuffer.textIn, Memory.bytesBeforeZero_eq spelled.nonzero (Nat.lt_succ_of_le short)
    spelled.written, Text.Utf8.decodeLossy_encode]

end NativeBridge
