/-
Module: NativeBridge.Proofs.WriteBacks
Purpose: Writing text buffers back after host code has run stays within the C strings that native
  code passed, and leaves as much of each text as there is room for.
Main exports: bufferAt?, acceptEach_buffer, Memory.InCString, Memory.Spells, ClosureCall.Covers,
  ClosureCall.writeBacks_confined
-/
import NativeBridge.Proofs.Journal
import NativeBridge.Proofs.TextCut
import NativeBridge.Workbench.Classes

namespace NativeBridge

variable {κ : Type} [HostProgram κ]

/-!
A text buffer has room for as many bytes as the C string had when it was decoded.  Writing it back
puts at most one byte more at its address, and the last byte put there is a zero.  So where C strings
overlap, and share their terminator therefore, none of them gets longer than it was.
-/

/-! ### C strings -/

namespace Memory

/-- A place lies in the C string at an address, if only as its terminator: there is no zero in
between. -/
def InCString (memory : Memory) (address place : Nat) : Prop :=
  address ≤ place ∧ ∀ before, address ≤ before → before < place → memory.read before ≠ 0

/-- The bytes at an address are these, none of them a zero, and then a zero. -/
structure Spells (memory : Memory) (address : Nat) (bytes : List UInt8) : Prop where
  nonzero : 0 ∉ bytes
  written : ∀ index byte, (bytes ++ [0])[index]? = some byte → memory.read (address + index) = byte

/-- There is no zero among the bytes before the first zero. -/
theorem bytesBeforeZero_nonzero (memory : Memory) (address room index : Nat)
    (within : index < (memory.bytesBeforeZero address room).length) :
    memory.read (address + index) ≠ 0 := by
  induction room generalizing address index with
  | zero => cases within
  | succ room ih =>
    rw [bytesBeforeZero] at within
    split at within
    · cases within
    · next other =>
      cases index with
      | zero => exact other
      | succ index =>
        have later := ih (address + 1) index (Nat.lt_of_succ_lt_succ within)
        rw [Nat.add_assoc, Nat.add_comm 1 index] at later
        exact later

/-- A C string as it is decoded, with its terminator, lies in the C string. -/
theorem inCString_of_le {memory : Memory} {address : UInt64} {place : Nat}
    (lower : address.toNat ≤ place)
    (upper : place ≤ address.toNat + (memory.cString address).length) :
    memory.InCString address.toNat place := by
  refine ⟨lower, ?_⟩
  intro before start stop
  obtain ⟨index, rfl⟩ := Nat.exists_eq_add_of_le start
  exact memory.bytesBeforeZero_nonzero address.toNat memory.size index (by
    rw [cString] at upper
    omega)

end Memory

/-! ### Texts of string buffers -/

/-- There are the string buffers that there were, with the same texts. -/
def Heap.KeepsTexts (heap after : Heap κ) : Prop :=
  ∀ (cell : Nat) (text : String), heap.texts[cell]? = some text → after.texts[cell]? = some text

namespace Heap

theorem KeepsTexts.refl (heap : Heap κ) : heap.KeepsTexts heap := fun _ _ found => found

theorem KeepsTexts.trans {heap middle after : Heap κ} (one : heap.KeepsTexts middle)
    (two : middle.KeepsTexts after) : heap.KeepsTexts after :=
  fun cell text found => two cell text (one cell text found)

theorem KeepsTexts.size_le {heap after : Heap κ} (kept : heap.KeepsTexts after) :
    heap.texts.size ≤ after.texts.size := by
  rcases Nat.eq_zero_or_pos heap.texts.size with empty | some_there
  · rw [empty]
    exact Nat.zero_le _
  · have last : heap.texts.size - 1 < heap.texts.size := Nat.sub_lt some_there Nat.one_pos
    have there := kept _ _ (Array.getElem?_eq_getElem last)
    have inside := (Array.getElem?_eq_some_iff.mp there).1
    omega

theorem text_eq {heap : Heap κ} {buffer : StringBuffer} {text : String}
    (there : heap.texts[buffer.cell]? = some text) : heap.text buffer = text := by
  rw [Heap.text, Array.getD_eq_getD_getElem?, there]
  rfl

theorem length_truncatedText_le (heap : Heap κ) (buffer : StringBuffer) :
    (Text.Utf8.encode (heap.truncatedText buffer)).length ≤ buffer.capacity :=
  (Text.Utf8.truncate_isCut _ _).fits

theorem push_keepsTexts (heap : Heap κ) (text : String) :
    heap.KeepsTexts { heap with texts := heap.texts.push text } := by
  intro cell old found
  have inside := (Array.getElem?_eq_some_iff.mp found).1
  show (heap.texts.push text)[cell]? = some old
  rw [Array.getElem?_push_lt inside, ← found, Array.getElem?_eq_getElem inside]

end Heap

/-! ### Decoding -/

/-- The address that a slot takes a text buffer from. -/
def textAt? (slot : MarshalSlot κ) (raw : RawValue) : Option UInt64 :=
  match slot.type, raw with
  | .stringBuffer, .pointer address => some address
  | _, _ => none

/-- The address of the text buffer that is passed at an index, if one is. -/
def bufferAt? (slots : List (MarshalSlot κ)) (raws : List RawValue) (index : Nat) : Option UInt64 :=
  match slots[index]?, raws[index]? with
  | some slot, some raw => textAt? slot raw
  | _, _ => none

/-- The string buffer that is made for a C string. -/
def bufferFor (memory : Memory) (address : UInt64) (heap : Heap κ) : StringBuffer :=
  ⟨heap.texts.size, (memory.cString address).length⟩

/-- A value that is looked up, and nothing else, leaves nothing to be written back. -/
theorem nothing_made {heap after : Heap κ} {value : Value κ} {writeBacks : List WriteBack}
    {looked : Except Error (Value κ)}
    (accepted : (looked >>= fun value => .ok (value, [], heap)) = .ok (value, writeBacks, after)) :
    writeBacks = [] ∧ after = heap := by
  cases looked with
  | error error => cases accepted
  | ok value =>
    cases accepted
    exact ⟨rfl, rfl⟩

/-- A slot makes a string buffer for a text buffer, and nothing for anything else. -/
theorem accept_cases {registry : Option (Registry κ)} {memory : Memory} {slot : MarshalSlot κ}
    {raw : RawValue} {heap after : Heap κ} {value : Value κ} {writeBacks : List WriteBack}
    (accepted : accept registry memory slot raw heap = .ok (value, writeBacks, after)) :
    (∃ address, textAt? slot raw = some address ∧
      value = .stringBuffer (bufferFor memory address heap) ∧
      writeBacks = [⟨address, bufferFor memory address heap⟩] ∧
      after = { heap with
        texts := heap.texts.push (Text.Utf8.decodeLossy (memory.cString address)) }) ∨
    (textAt? slot raw = none ∧ writeBacks = [] ∧ after = heap) := by
  rcases slot with ⟨type, byHandle⟩
  cases type with
  | stringBuffer =>
    cases raw with
    | pointer address =>
      left
      refine ⟨address, rfl, ?_⟩
      rw [accept_stringBuffer, cStringAt] at accepted
      split at accepted
      · cases accepted
      · cases accepted
        exact ⟨rfl, rfl, rfl⟩
    | _ => cases accepted
  | string =>
    cases raw with
    | pointer address =>
      rw [accept_string, cStringAt] at accepted
      split at accepted
      · cases accepted
      · cases accepted
        exact .inr ⟨rfl, rfl, rfl⟩
    | _ => cases accepted
  | object type =>
    cases raw with
    | pointer handle =>
      cases registry with
      | none => cases accepted
      | some registry =>
        have decoded : accept (some registry) memory ⟨.object type, byHandle⟩ (.pointer handle)
            heap = (liftM (registry.resolve handle) : Except Error (HostObject κ)) >>= fun object =>
              (liftM (object.expectType type) : Except Error Unit) >>= fun _ =>
                .ok (.object object, [], heap) := rfl
        rw [decoded] at accepted
        cases found : registry.resolve handle with
        | error error =>
          rw [found] at accepted
          cases accepted
        | ok object =>
          have looked : ((liftM (object.expectType type) : Except Error Unit) >>= fun _ =>
              .ok (.object object, [], heap)) = .ok (value, writeBacks, after) := by
            rw [found] at accepted
            exact accepted
          cases expected : object.expectType type with
          | error error =>
            rw [expected] at looked
            cases looked
          | ok same =>
            rw [expected] at looked
            cases looked
            exact .inr ⟨rfl, rfl, rfl⟩
    | _ => cases accepted
  | _ => exact .inr ⟨rfl, nothing_made accepted⟩

/-- Arguments are decoded one by one. -/
theorem acceptEach_cons {registry : Option (Registry κ)} {memory : Memory} {slot : MarshalSlot κ}
    {slots : List (MarshalSlot κ)} {raw : RawValue} {raws : List RawValue} {heap after : Heap κ}
    {values : List (Value κ)} {writeBacks : List WriteBack}
    (accepted : acceptEach registry memory (slot :: slots) (raw :: raws) heap =
      .ok (values, writeBacks, after)) :
    ∃ value first middle later rest, accept registry memory slot raw heap =
        .ok (value, first, middle) ∧
      acceptEach registry memory slots raws middle = .ok (later, rest, after) ∧
      values = value :: later ∧ writeBacks = first ++ rest := by
  rw [acceptEach] at accepted
  cases one : accept registry memory slot raw heap with
  | error error =>
    rw [one] at accepted
    cases accepted
  | ok decoded =>
    rcases decoded with ⟨value, first, middle⟩
    rw [one] at accepted
    simp only [bind, Except.bind] at accepted
    cases others : acceptEach registry memory slots raws middle with
    | error error =>
      rw [others] at accepted
      cases accepted
    | ok decoded =>
      rcases decoded with ⟨later, rest, last⟩
      rw [others] at accepted
      cases accepted
      exact ⟨value, first, middle, later, rest, rfl, others, rfl, rfl⟩

/-- A text buffer that is passed at an index is what is written back, as long as it was. -/
structure WriteBack.IsFor (one : WriteBack) (memory : Memory) (slots : List (MarshalSlot κ))
    (raws : List RawValue) (index : Nat) : Prop where
  passed : bufferAt? slots raws index = some one.address
  capacity : one.buffer.capacity = (memory.cString one.address).length

/-- What the first slot makes is for index zero. -/
theorem accept_first {registry : Option (Registry κ)} {memory : Memory} {slot : MarshalSlot κ}
    {raw : RawValue} {heap after : Heap κ} {value : Value κ} {writeBacks : List WriteBack}
    (accepted : accept registry memory slot raw heap = .ok (value, writeBacks, after))
    (slots : List (MarshalSlot κ)) (raws : List RawValue) :
    heap.KeepsTexts after ∧
      ∀ one ∈ writeBacks, one.IsFor memory (slot :: slots) (raw :: raws) 0 := by
  obtain ⟨address, passed, -, rfl, rfl⟩ | ⟨-, rfl, rfl⟩ := accept_cases accepted
  · refine ⟨heap.push_keepsTexts _, ?_⟩
    intro one found
    cases List.mem_singleton.mp found
    exact ⟨passed, rfl⟩
  · exact ⟨.refl _, List.forall_mem_nil _⟩

section Decoding

variable {registry : Option (Registry κ)} {memory : Memory} {slots : List (MarshalSlot κ)}
  {raws : List RawValue} {heap after : Heap κ} {values : List (Value κ)}
  {writeBacks : List WriteBack}

/-- Decoding makes new string buffers and leaves those that there are. -/
theorem acceptEach_keepsTexts
    (accepted : acceptEach registry memory slots raws heap = .ok (values, writeBacks, after)) :
    heap.KeepsTexts after := by
  induction slots generalizing raws heap values writeBacks with
  | nil =>
    cases accepted
    exact .refl _
  | cons slot slots ih =>
    cases raws with
    | nil =>
      cases accepted
      exact .refl _
    | cons raw raws =>
      obtain ⟨value, first, middle, later, rest, one, others, rfl, rfl⟩ := acceptEach_cons accepted
      exact (accept_first one slots raws).1.trans (ih others)

/-- What is written back is the text of a string buffer that was made for a text buffer. -/
theorem acceptEach_writeBack
    (accepted : acceptEach registry memory slots raws heap = .ok (values, writeBacks, after)) :
    ∀ one ∈ writeBacks, ∃ index, one.IsFor memory slots raws index ∧
      values[index]? = some (.stringBuffer one.buffer) ∧
      after.texts[one.buffer.cell]? = some (Text.Utf8.decodeLossy (memory.cString one.address)) := by
  induction slots generalizing raws heap values writeBacks with
  | nil =>
    cases accepted
    exact List.forall_mem_nil _
  | cons slot slots ih =>
    cases raws with
    | nil =>
      cases accepted
      exact List.forall_mem_nil _
    | cons raw raws =>
      obtain ⟨value, first, middle, later, rest, one, others, rfl, rfl⟩ := acceptEach_cons accepted
      intro writeBack found
      rcases List.mem_append.mp found with here | there
      · obtain ⟨address, passed, rfl, rfl, rfl⟩ | ⟨-, rfl, -⟩ := accept_cases one
        · obtain rfl := List.mem_singleton.mp here
          exact ⟨0, ⟨passed, rfl⟩, rfl,
            acceptEach_keepsTexts others _ _ Array.getElem?_push_size⟩
        · cases here
      · obtain ⟨index, isFor, given, text⟩ := ih others writeBack there
        exact ⟨index + 1, ⟨isFor.passed, isFor.capacity⟩, given, text⟩

/-- Only text buffers that were passed are written back. -/
theorem acceptEach_writeBacks
    (accepted : acceptEach registry memory slots raws heap = .ok (values, writeBacks, after)) :
    ∀ one ∈ writeBacks, ∃ index, one.IsFor memory slots raws index := by
  intro one among
  obtain ⟨index, isFor, -⟩ := acceptEach_writeBack accepted one among
  exact ⟨index, isFor⟩

/-- What decoding makes of the text buffer that is passed at an index: a string buffer with its text,
and as much room as the text buffer had.  It is written back to where it came from. -/
structure MadeAt (memory : Memory) (slots : List (MarshalSlot κ)) (raws : List RawValue)
    (values : List (Value κ)) (writeBacks : List WriteBack) (heap after : Heap κ) (index : Nat)
    (address : UInt64) (buffer : StringBuffer) : Prop where
  value : values[index]? = some (.stringBuffer buffer)
  capacity : buffer.capacity = (memory.cString address).length
  fresh : heap.texts.size ≤ buffer.cell
  text : after.texts[buffer.cell]? = some (Text.Utf8.decodeLossy (memory.cString address))
  writtenBack : ∃ front back, writeBacks = front ++ ⟨address, buffer⟩ :: back ∧
    ∀ one ∈ front ++ back, ∃ other, other ≠ index ∧ one.IsFor memory slots raws other

/-- Every text buffer that is passed becomes a string buffer. -/
theorem acceptEach_buffer
    (accepted : acceptEach registry memory slots raws heap = .ok (values, writeBacks, after))
    {index : Nat} {address : UInt64} (passed : bufferAt? slots raws index = some address) :
    ∃ buffer, MadeAt memory slots raws values writeBacks heap after index address buffer := by
  induction slots generalizing raws heap values writeBacks index with
  | nil => cases passed
  | cons slot slots ih =>
    cases raws with
    | nil =>
      cases index <;> simp [bufferAt?] at passed
    | cons raw raws =>
      obtain ⟨value, first, middle, later, rest, one, others, rfl, rfl⟩ := acceptEach_cons accepted
      cases index with
      | zero =>
        -- Nothing in front is written back, and all that follows has another index.
        obtain ⟨place, taken, rfl, rfl, rfl⟩ | ⟨missing, -, -⟩ := accept_cases one
        · obtain rfl : place = address := Option.some.inj (taken.symm.trans passed)
          refine ⟨bufferFor memory place heap, rfl, rfl, Nat.le_refl _, ?_, [], rest, rfl, ?_⟩
          · exact acceptEach_keepsTexts others _ _ Array.getElem?_push_size
          · intro writeBack found
            obtain ⟨other, isFor⟩ := acceptEach_writeBacks others writeBack found
            exact ⟨other + 1, Nat.succ_ne_zero other, isFor.passed, isFor.capacity⟩
        · have found : textAt? slot raw = some address := passed
          rw [missing] at found
          cases found
      | succ index =>
        have later : bufferAt? slots raws index = some address := passed
        obtain ⟨buffer, made⟩ := ih others later
        obtain ⟨front, back, rfl, apart⟩ := made.writtenBack
        obtain ⟨grown, firstFor⟩ := accept_first one slots raws
        refine ⟨buffer, made.value, made.capacity, Nat.le_trans grown.size_le made.fresh, made.text,
          first ++ front, back, (List.append_assoc _ _ _).symm, ?_⟩
        intro writeBack found
        rw [List.append_assoc] at found
        rcases List.mem_append.mp found with here | there
        · exact ⟨0, (Nat.succ_ne_zero index).symm, firstFor writeBack here⟩
        · obtain ⟨other, different, isFor⟩ := apart writeBack there
          exact ⟨other + 1, fun same => different (Nat.succ.inj same), isFor.passed,
            isFor.capacity⟩

end Decoding

/-! ### Writing back -/

namespace WriteBack

variable {one : WriteBack} {heap : Heap κ} {memory : Memory} {place : Nat}

/-- A place that a text buffer may be written back to. -/
def Reaches (one : WriteBack) (place : Nat) : Prop :=
  one.address.toNat ≤ place ∧ place ≤ one.address.toNat + one.buffer.capacity

/-- The bytes that are written back, without the terminator. -/
def bytes (one : WriteBack) (heap : Heap κ) : List UInt8 :=
  Text.Utf8.encode (heap.truncatedText one.buffer)

theorem length_bytes_le (one : WriteBack) (heap : Heap κ) :
    (one.bytes heap).length ≤ one.buffer.capacity :=
  heap.length_truncatedText_le one.buffer

theorem apply_outside (outside : ¬ (one.address.toNat ≤ place ∧
      place ≤ one.address.toNat + (one.bytes heap).length)) :
    (one.apply heap memory).read place = memory.read place := by
  have read := memory.read_writeAll one.address.toNat (one.bytes heap ++ [0]) place
  rw [List.length_append, List.length_singleton, if_neg (by omega)] at read
  exact read

theorem apply_apart (apart : ¬ one.Reaches place) :
    (one.apply heap memory).read place = memory.read place := by
  have short := one.length_bytes_le heap
  apply apply_outside
  rintro ⟨lower, upper⟩
  exact apart ⟨lower, by omega⟩

theorem apply_written {index : Nat} {byte : UInt8}
    (found : (one.bytes heap ++ [0])[index]? = some byte) :
    (one.apply heap memory).read (one.address.toNat + index) = byte := by
  have inside : index < (one.bytes heap ++ [0]).length := (List.getElem?_eq_some_iff.mp found).1
  have read := memory.read_writeAll one.address.toNat (one.bytes heap ++ [0])
    (one.address.toNat + index)
  rw [if_pos ⟨Nat.le_add_right _ _, Nat.add_lt_add_left inside _⟩, Nat.add_sub_cancel_left,
    List.getD_eq_getElem?_getD, found] at read
  exact read

/-- Nothing but a zero is put behind as many bytes as there is room for. -/
theorem apply_cases (one : WriteBack) (heap : Heap κ) (memory : Memory) (place : Nat) :
    (one.apply heap memory).read place = memory.read place ∨
      one.Reaches place ∧ ((one.apply heap memory).read place = 0 ∨
        place < one.address.toNat + one.buffer.capacity) := by
  have short := one.length_bytes_le heap
  by_cases inside : one.address.toNat ≤ place ∧ place ≤ one.address.toNat + (one.bytes heap).length
  · refine .inr ⟨⟨inside.1, by omega⟩, ?_⟩
    by_cases last : place = one.address.toNat + (one.bytes heap).length
    · left
      rw [last]
      exact apply_written List.getElem?_concat_length
    · right
      omega
  · exact .inl (apply_outside inside)

end WriteBack

/-- Memory after text buffers were written back, in order. -/
def writtenBack (writeBacks : List WriteBack) (heap : Heap κ) (memory : Memory) : Memory :=
  writeBacks.foldl (fun memory one => one.apply heap memory) memory

theorem writtenBack_apart {writeBacks : List WriteBack} {heap : Heap κ} {memory : Memory}
    {place : Nat} (apart : ∀ one ∈ writeBacks, ¬ one.Reaches place) :
    (writtenBack writeBacks heap memory).read place = memory.read place := by
  induction writeBacks generalizing memory with
  | nil => rfl
  | cons first rest ih =>
    have here : (first.apply heap memory).read place = memory.read place :=
      WriteBack.apply_apart (apart first List.mem_cons_self)
    rw [← here]
    exact ih fun one found => apart one (List.mem_cons_of_mem _ found)

/-- Whatever is written back changes a place only where a text buffer has room, and behind its room
puts nothing but a zero. -/
theorem writtenBack_cases (writeBacks : List WriteBack) (heap : Heap κ) (memory : Memory)
    (place : Nat) :
    (writtenBack writeBacks heap memory).read place = memory.read place ∨
      ∃ one ∈ writeBacks, one.Reaches place ∧
        ((writtenBack writeBacks heap memory).read place = 0 ∨
          place < one.address.toNat + one.buffer.capacity) := by
  induction writeBacks generalizing memory with
  | nil => exact .inl rfl
  | cons first rest ih =>
    have parted : writtenBack (first :: rest) heap memory =
      writtenBack rest heap (first.apply heap memory) := rfl
    rw [parted]
    obtain same | ⟨one, found, reaches, bounded⟩ := ih (first.apply heap memory)
    · rw [same]
      obtain same | changed := first.apply_cases heap memory place
      · exact .inl same
      · exact .inr ⟨first, List.mem_cons_self, changed⟩
    · exact .inr ⟨one, List.mem_cons_of_mem _ found, reaches, bounded⟩

section Last

variable {front back : List WriteBack} {one : WriteBack} {heap : Heap κ} {memory : Memory}
  (apart : ∀ place, one.Reaches place → ∀ other ∈ back, ¬ other.Reaches place)
include apart

/-- The bytes that are written back last stay. -/
theorem writtenBack_written {index : Nat} {byte : UInt8}
    (found : (one.bytes heap ++ [0])[index]? = some byte) :
    (writtenBack (front ++ one :: back) heap memory).read (one.address.toNat + index) = byte := by
  have short := one.length_bytes_le heap
  have inside : index < (one.bytes heap ++ [0]).length := (List.getElem?_eq_some_iff.mp found).1
  rw [List.length_append, List.length_singleton] at inside
  have parted : writtenBack (front ++ one :: back) heap memory =
      writtenBack back heap (one.apply heap (writtenBack front heap memory)) := by
    rw [writtenBack, List.foldl_append]
    rfl
  rw [parted, writtenBack_apart (apart _ ⟨Nat.le_add_right _ _, by omega⟩)]
  exact WriteBack.apply_written found

/-- A text buffer that no later one reaches has the bytes that were written back to it. -/
theorem writtenBack_spells (clean : '\x00' ∉ (heap.text one.buffer).toList) :
    (writtenBack (front ++ one :: back) heap memory).Spells one.address.toNat (one.bytes heap) :=
  ⟨(Text.Utf8.truncate_isCut _ _).nonzero clean, fun _ _ found => writtenBack_written apart found⟩

end Last

/-! ### Calls of closures -/

namespace ClosureCall

/-- The address of the text buffer that is passed at an index, if one is. -/
def bufferAt? (call : ClosureCall κ) (index : Nat) : Option UInt64 :=
  NativeBridge.bufferAt? call.closure.plan.parameters call.args index

/-- A place lies in the text buffer that is passed at an index, up to and including its terminator
when the call is made. -/
def Covers (call : ClosureCall κ) (index place : Nat) : Prop :=
  ∃ address, call.bufferAt? index = some address ∧
    call.world.memory.InCString address.toNat place

theorem covers_of_reaches {call : ClosureCall κ} {one : WriteBack} {index place : Nat}
    (isFor : one.IsFor call.world.memory call.closure.plan.parameters call.args index)
    (reaches : one.Reaches place) : call.Covers index place := by
  refine ⟨one.address, isFor.passed, Memory.inCString_of_le reaches.1 ?_⟩
  rw [← isFor.capacity]
  exact reaches.2

theorem accepted_each {call : ClosureCall κ} {decoded : List (Value κ) × List WriteBack × Heap κ}
    (accepted : call.accepted = .ok decoded) :
    acceptEach (call.closure.registry.map call.world.registry) call.world.memory
      call.closure.plan.parameters call.args call.world.heap = .ok decoded := by
  rw [ClosureCall.accepted, acceptAll] at accepted
  split at accepted
  · exact accepted
  · cases accepted

/-- A text buffer that has no place in common with another one is reached by no later one. -/
theorem made_alone {call : ClosureCall κ} {values : List (Value κ)} {writeBacks : List WriteBack}
    {heap after : Heap κ} {index : Nat} {address : UInt64} {buffer : StringBuffer}
    (passed : call.bufferAt? index = some address)
    (made : MadeAt call.world.memory call.closure.plan.parameters call.args values writeBacks heap
      after index address buffer)
    (disjoint : ∀ other place, other ≠ index → call.Covers index place →
      ¬ call.Covers other place) :
    ∃ front back, writeBacks = front ++ ⟨address, buffer⟩ :: back ∧
      ∀ place, WriteBack.Reaches ⟨address, buffer⟩ place →
        ∀ other ∈ back, ¬ other.Reaches place := by
  obtain ⟨front, back, parted, apart⟩ := made.writtenBack
  have own : WriteBack.IsFor ⟨address, buffer⟩ call.world.memory
      call.closure.plan.parameters call.args index := ⟨passed, made.capacity⟩
  refine ⟨front, back, parted, ?_⟩
  intro place reaches other found otherReaches
  obtain ⟨otherIndex, different, isFor⟩ := apart other (List.mem_append_right _ found)
  exact disjoint otherIndex place different (covers_of_reaches own reaches)
    (covers_of_reaches isFor otherReaches)

/-- When host code behind a closure has ended, and did not panic, its text buffers are written back,
however it ended, whatever it did to them, and however they overlap.  This changes native memory only
within the C strings that were passed, and no place that was a terminator is changed to anything but
a zero.  A buffer that overlaps no other, and has got a text without a NUL, is left with as much of
the front of that text as had room in the bytes that it had. -/
theorem writeBacks_confined (call : ClosureCall κ) {args : List (Value κ)}
    {writeBacks : List WriteBack} {heap : Heap κ} {result : Except Error (Value κ)}
    {left : World κ} (accepted : call.accepted = .ok (args, writeBacks, heap))
    (ran : call.closure.handler.run (enterAt call.depth) args { call.world with heap := heap } =
      (.returned result, left)) :
    let written := applyWriteBacks writeBacks left
    call.dispatched = call.finish writeBacks (.returned result, left) ∧
    (∀ place, written.memory.read place ≠ left.memory.read place →
      ∃ index, call.Covers index place) ∧
    (∀ place, call.world.memory.read place = 0 →
      written.memory.read place = 0 ∨ written.memory.read place = left.memory.read place) ∧
    ∀ index address, call.bufferAt? index = some address →
      ∃ buffer, args[index]? = some (.stringBuffer buffer) ∧
        buffer.capacity = (call.world.memory.cString address).length ∧
        ((∀ other place, other ≠ index → call.Covers index place → ¬ call.Covers other place) →
          '\x00' ∉ (left.heap.text buffer).toList →
            ∃ cut, Text.Utf8.IsCut (left.heap.text buffer)
                (call.world.memory.cString address).length cut ∧
              written.memory.Spells address.toNat (Text.Utf8.encode cut)) := by
  intro written
  have each := accepted_each accepted
  refine ⟨?_, ?_, ?_, ?_⟩
  · rw [call.dispatched_eq, accepted]
    dsimp only
    rw [ran]
  · intro place changed
    obtain same | ⟨one, found, reaches, -⟩ :=
      writtenBack_cases writeBacks left.heap left.memory place
    · exact absurd same changed
    · obtain ⟨index, isFor⟩ := acceptEach_writeBacks each one found
      exact ⟨index, covers_of_reaches isFor reaches⟩
  · intro place zero
    obtain same | ⟨one, found, reaches, put | before⟩ :=
      writtenBack_cases writeBacks left.heap left.memory place
    · exact .inr same
    · exact .inl put
    · -- Before its terminator a C string had no zero.
      obtain ⟨index, isFor⟩ := acceptEach_writeBacks each one found
      obtain ⟨offset, rfl⟩ := Nat.exists_eq_add_of_le reaches.1
      rw [isFor.capacity] at before
      exact absurd zero
        (Memory.bytesBeforeZero_nonzero _ _ _ _ (Nat.lt_of_add_lt_add_left before))
  · intro index address passed
    obtain ⟨buffer, made⟩ := acceptEach_buffer each passed
    refine ⟨buffer, made.value, made.capacity, ?_⟩
    intro disjoint clean
    obtain ⟨front, back, rfl, alone⟩ := made_alone passed made disjoint
    refine ⟨left.heap.truncatedText buffer, ?_, ?_⟩
    · rw [← made.capacity]
      exact Text.Utf8.truncate_isCut _ _
    · exact writtenBack_spells alone clean

end ClosureCall

namespace Workbench

/-- A function that puts a text into each of two buffers. -/
def fillBothBody : List (Value Key) → Code Key
  | [.stringBuffer first, .stringBuffer second] =>
      .writeBuffer first "longer" (.writeBuffer second "no" (.done (.ok .void)))
  | _ => .done (.ok .void)

/-- Its type: two text buffers and no result. -/
def fillBothType : CallableType Key :=
  ⟨1, ⟨[.stringBuffer, .stringBuffer], .void⟩⟩

/-- It is called with the buffers of a text and of the end of that text. -/
def fillBothCall : ClosureCall Key :=
  let (address, memory) := Memory.empty.allocateCString (Text.Utf8.encode "tick")
  { depth := 0
    address := World.codeAddress 0
    closure := ⟨fillBothType, "fill", .ofTypes fillBothType.signature.parameters .void, none,
      .function fillBothBody, []⟩
    sent := [.pointer address, .pointer (address + 2)]
    world := { (World.initial Globals.initial : World Key) with memory := memory } }

/-- Both are written back within the four bytes of the text and its terminator. -/
theorem fillBoth_confined :
    ∃ args writeBacks heap left, fillBothCall.accepted = .ok (args, writeBacks, heap) ∧
      fillBothCall.closure.handler.run (enterAt fillBothCall.depth) args
        { fillBothCall.world with heap := heap } = (.returned (.ok .void), left) ∧
      ∀ place, (applyWriteBacks writeBacks left).memory.read place ≠ left.memory.read place →
        ∃ index, fillBothCall.Covers index place :=
  ⟨_, _, _, _, rfl, rfl, (fillBothCall.writeBacks_confined rfl rfl).2.1⟩

end Workbench

end NativeBridge
