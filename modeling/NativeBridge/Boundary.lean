/-
Module: NativeBridge.Boundary
Purpose: Conversion of arguments and results between raw values in native memory and host values,
  in both directions.
Main exports: WriteBack, accept, acceptAll, giveDirect, LentBuffer, encodeAll, readBack,
  decodeReturn, accept_string, accept_stringBuffer
-/
import NativeBridge.Outcome
import NativeBridge.World

namespace NativeBridge

variable {κ : Type} [HostProgram κ]

/-!
Inbound, when native code calls host code: C strings are copied, text buffers become string buffers
as large as the C string they hold and are written back after the call, handles are looked up in a
registry.  Outbound, when host code calls native code: texts become C strings, string buffers become
native buffers of their capacity plus a terminator and are read back after the call.

Decoding looks at the slots from left to right and stops at the first that fails.  What it has made
by then is dropped with it.
-/

/-! ### Native code calls host code -/

/-- A native text buffer to be rewritten from a string buffer when the host call returns. -/
structure WriteBack where
  address : UInt64
  buffer : StringBuffer
deriving Repr, Inhabited, DecidableEq

/-- Write a native buffer back: the text cut to the buffer's capacity, then a terminator. -/
def WriteBack.apply (writeBack : WriteBack) (heap : Heap κ) (memory : Memory) : Memory :=
  memory.writeAll writeBack.address.toNat
    (Text.Utf8.encode (heap.truncatedText writeBack.buffer) ++ [0])

/-- The address a raw value holds, wanted for a type. -/
def addressOf (raw : RawValue) (type : HostType κ) : Except MarshalError UInt64 :=
  match raw with
  | .pointer address => .ok address
  | other => .error (.typeMismatch type.name other.abi.title)

/-- The bytes of the C string at an address; the null address has none. -/
def cStringAt (memory : Memory) (address : UInt64) : Except MarshalError (List UInt8) :=
  if address = 0 then .error .nullString else .ok (memory.cString address)

/-- Decode one argument.  A string buffer is made in the heap and has to be written back. -/
def accept (registry : Option (Registry κ)) (memory : Memory) (slot : MarshalSlot κ)
    (raw : RawValue) (heap : Heap κ) : Except Error (Value κ × List WriteBack × Heap κ) :=
  match slot.type with
  | .object type => do
      let address ← addressOf raw slot.type
      match registry with
      | none => .error (CallableError.opaqueSignature "parameter" slot.type.name)
      | some registry => do
          let object ← registry.resolve address
          object.expectType type
          .ok (.object object, [], heap)
  | .string => do
      let address ← addressOf raw slot.type
      let bytes ← cStringAt memory address
      .ok (.string (Text.Utf8.decodeLossy bytes), [], heap)
  | .stringBuffer => do
      let address ← addressOf raw slot.type
      let bytes ← cStringAt memory address
      let (buffer, heap) := heap.newBuffer (Text.Utf8.decodeLossy bytes) bytes.length
      .ok (.stringBuffer buffer, [⟨address, buffer⟩], heap)
  | type => do
      let value ← Value.fromRaw raw type
      .ok (value, [], heap)

/-- Decode arguments from left to right. -/
def acceptEach (registry : Option (Registry κ)) (memory : Memory) :
    List (MarshalSlot κ) → List RawValue → Heap κ →
      Except Error (List (Value κ) × List WriteBack × Heap κ)
  | slot :: slots, raw :: raws, heap => do
      let (value, first, heap) ← accept registry memory slot raw heap
      let (values, rest, heap) ← acceptEach registry memory slots raws heap
      .ok (value :: values, first ++ rest, heap)
  | _, _, heap => .ok ([], [], heap)

/-- Decode an argument list; its length is checked before any argument. -/
def acceptAll (registry : Option (Registry κ)) (memory : Memory) (slots : List (MarshalSlot κ))
    (raws : List RawValue) (heap : Heap κ) :
    Except Error (List (Value κ) × List WriteBack × Heap κ) :=
  if raws.length = slots.length then acceptEach registry memory slots raws heap
  else .error (MarshalError.arityMismatch slots.length raws.length)

/-- The raw form of a value that crosses in its native representation. -/
def giveDirect (type : HostType κ) (value : Value κ) : Except Error RawValue :=
  match value.toRaw? with
  | some raw =>
      if raw.abi = type.abi then .ok raw
      else .error (MarshalError.typeMismatch type.name value.kind)
  | none => .error (MarshalError.typeMismatch type.name value.kind)

/-- The bytes of a text without terminator; a text that holds a NUL has no C form. -/
def cBytes (text : String) : Except MarshalError (List UInt8) :=
  if (Text.Utf8.encode text).contains 0 then .error .interiorNul
  else .ok (Text.Utf8.encode text)

/-! ### Host code calls native code -/

/-- Native memory lent to a call in place of a string buffer. -/
structure LentBuffer where
  address : UInt64
  buffer : StringBuffer
deriving Repr, Inhabited, DecidableEq

/-- The bytes lent for a string buffer: its text cut to its capacity, and a terminator.  They lie at
the front of room for the capacity and one more byte. -/
def lentBytes (heap : Heap κ) (buffer : StringBuffer) : List UInt8 :=
  Text.Utf8.encode (heap.truncatedText buffer) ++ [0]

/-- The number of bytes that one piece of memory can have at most. -/
def largestRoom : Nat := Int64.maxValue.toInt.toNat

/-- The text of the panic when more room is asked for than there can be. -/
def roomPanic : String := "capacity overflow"

/-- Encode one argument.  A buffer that needs more room than there can be is a panic. -/
def encodeOne (heap : Heap κ) (type : HostType κ) (value : Value κ) (memory : Memory) :
    Outcome (RawValue × List LentBuffer × Memory) :=
  match type, value with
  | .string, .string text => do
      let bytes ← cBytes text
      let (address, memory) := memory.allocateCString bytes
      return (.pointer address, [], memory)
  | .stringBuffer, .stringBuffer buffer =>
      if buffer.capacity + 1 ≤ largestRoom then
        let (address, memory) := memory.allocateRoom (lentBytes heap buffer) (buffer.capacity + 1)
        return (.pointer address, [⟨address, buffer⟩], memory)
      else .panicked (some roomPanic)
  | type, value => do
      let raw ← giveDirect type value
      return (raw, [], memory)

/-- Encode arguments from left to right. -/
def encodeAll (heap : Heap κ) : List (HostType κ) → List (Value κ) → Memory →
    Outcome (List RawValue × List LentBuffer × Memory)
  | type :: types, value :: values, memory => do
      let (raw, first, memory) ← encodeOne heap type value memory
      let (raws, rest, memory) ← encodeAll heap types values memory
      return (raw :: raws, first ++ rest, memory)
  | _, _, memory => return ([], [], memory)

/-- The text native code left in a lent buffer: up to the first zero, or all of it. -/
def LentBuffer.textIn (lent : LentBuffer) (memory : Memory) : String :=
  Text.Utf8.decodeLossy
    (memory.bytesBeforeZero lent.address.toNat (lent.buffer.capacity + 1))

/-- Put what native code left in the lent buffers into their string buffers, in order. -/
def readBack (memory : Memory) (lent : List LentBuffer) (heap : Heap κ) : Heap κ :=
  lent.foldl (fun heap one => heap.setText one.buffer (one.textIn memory)) heap

/-- The host value of a native result. -/
def decodeReturn (memory : Memory) (raw : RawValue) (type : HostType κ) (heap : Heap κ) :
    Except Error (Value κ × Heap κ) :=
  match type with
  | .string => do
      let address ← addressOf raw type
      let bytes ← cStringAt memory address
      .ok (.string (Text.Utf8.decodeLossy bytes), heap)
  | .stringBuffer => do
      let address ← addressOf raw type
      let bytes ← cStringAt memory address
      let text := Text.Utf8.decodeLossy bytes
      let (buffer, heap) := heap.newBuffer text (Text.Utf8.encode text).length
      .ok (.stringBuffer buffer, heap)
  | type => do
      let value ← Value.fromRaw raw type
      .ok (value, heap)

/-! ### Addresses of texts -/

section

variable (registry : Option (Registry κ)) (memory : Memory) (byHandle : Bool) (address : UInt64)
  (heap : Heap κ)

/-- The address of a C string is decoded as its text. -/
theorem accept_string :
    accept registry memory ⟨.string, byHandle⟩ (.pointer address) heap =
      (cStringAt memory address : Except Error (List UInt8)) >>= fun bytes =>
        .ok (.string (Text.Utf8.decodeLossy bytes), [], heap) := rfl

/-- The address of a text buffer is decoded as a new string buffer with its text. -/
theorem accept_stringBuffer :
    accept registry memory ⟨.stringBuffer, byHandle⟩ (.pointer address) heap =
      (cStringAt memory address : Except Error (List UInt8)) >>= fun bytes =>
        .ok (.stringBuffer ⟨heap.texts.size, bytes.length⟩,
          [⟨address, ⟨heap.texts.size, bytes.length⟩⟩],
          { heap with texts := heap.texts.push (Text.Utf8.decodeLossy bytes) }) := rfl

/-- The address of a C string is read as its text. -/
theorem decodeReturn_string :
    decodeReturn memory (.pointer address) .string heap =
      (cStringAt memory address : Except Error (List UInt8)) >>= fun bytes =>
        .ok (.string (Text.Utf8.decodeLossy bytes), heap) := rfl

/-- The address of a text buffer is read as a new string buffer that its text fills. -/
theorem decodeReturn_stringBuffer :
    decodeReturn memory (.pointer address) .stringBuffer heap =
      (cStringAt memory address : Except Error (List UInt8)) >>= fun bytes =>
        .ok (.stringBuffer ⟨heap.texts.size,
            (Text.Utf8.encode (Text.Utf8.decodeLossy bytes)).length⟩,
          { heap with texts := heap.texts.push (Text.Utf8.decodeLossy bytes) }) := rfl

end

end NativeBridge
