/-
Module: NativeBridge.Memory
Purpose: Native memory: bytes at addresses, C strings, and space that is handed out once.
Main exports: Memory, Memory.read, Memory.writeAll, Memory.allocateRoom, Memory.allocate,
  Memory.cString, Memory.allocateCString, Memory.read_writeAll
-/
import NativeBridge.Text.Utf8

namespace NativeBridge

/-!
Every address can be read and written; a byte that was never written reads as zero.  Memory keeps
what was written where, so that space costs nothing until something is put there.  Space is handed
out upwards and never given back, so what is at an address stays readable.
-/

/-- Bytes that were put at an address and the addresses after it. -/
structure Stretch where
  start : Nat
  bytes : Array UInt8
deriving Repr, Inhabited, DecidableEq

/-- Whether a stretch holds the byte at an address. -/
def Stretch.covers (stretch : Stretch) (address : Nat) : Bool :=
  stretch.start ≤ address && address < stretch.start + stretch.bytes.size

/-- Native memory: what was written, latest first, and the number of bytes handed out. -/
structure Memory where
  stretches : List Stretch
  size : Nat
deriving Repr, Inhabited, DecidableEq

namespace Memory

/-- The address of the first byte that is handed out. -/
def base : Nat := 0x100000000

/-- Memory in which nothing is allocated. -/
def empty : Memory := ⟨[], 0⟩

/-- The byte at an address: what was written there last, or zero. -/
def read (memory : Memory) (address : Nat) : UInt8 :=
  match memory.stretches.find? fun stretch => stretch.covers address with
  | some stretch => stretch.bytes.getD (address - stretch.start) 0
  | none => 0

/-- Put bytes at an address and the addresses after it. -/
def writeAll (memory : Memory) (address : Nat) (bytes : List UInt8) : Memory :=
  { memory with stretches := ⟨address, bytes.toArray⟩ :: memory.stretches }

/-- A write changes the bytes that it covers, and no others. -/
theorem read_writeAll (memory : Memory) (start : Nat) (bytes : List UInt8) (address : Nat) :
    (memory.writeAll start bytes).read address =
      if start ≤ address ∧ address < start + bytes.length then bytes.getD (address - start) 0
      else memory.read address := by
  by_cases inside : start ≤ address ∧ address < start + bytes.length
  · have covered : (⟨start, bytes.toArray⟩ : Stretch).covers address = true := by
      simpa [Stretch.covers] using inside
    simp only [read, writeAll, List.find?_cons, covered, if_pos inside]
    simp [Array.getD_eq_getD_getElem?, List.getD_eq_getElem?_getD]
  · have missed : (⟨start, bytes.toArray⟩ : Stretch).covers address = false := by
      simpa [Stretch.covers] using inside
    simp only [read, writeAll, List.find?_cons, missed, if_neg inside]

/-- The bytes from an address on, a given number of them. -/
def readAll (memory : Memory) (address : Nat) : Nat → List UInt8
  | 0 => []
  | n + 1 => memory.read address :: memory.readAll (address + 1) n

/-- Hand out a number of bytes with some bytes at their front. -/
def allocateRoom (memory : Memory) (bytes : List UInt8) (room : Nat) : UInt64 × Memory :=
  let start := base + memory.size
  (UInt64.ofNat start, { memory.writeAll start bytes with size := memory.size + room })

/-- Hand out new space with some bytes in it. -/
def allocate (memory : Memory) (bytes : List UInt8) : UInt64 × Memory :=
  memory.allocateRoom bytes bytes.length

/-- The bytes before the first zero, among at most a given number of bytes. -/
def bytesBeforeZero (memory : Memory) (address : Nat) : Nat → List UInt8
  | 0 => []
  | n + 1 =>
      let byte := memory.read address
      if byte = 0 then [] else byte :: memory.bytesBeforeZero (address + 1) n

/-- The C string at an address: its bytes without the terminator.  It lies in the space handed out,
so there is no need to look at more bytes than that has. -/
def cString (memory : Memory) (address : UInt64) : List UInt8 :=
  memory.bytesBeforeZero address.toNat memory.size

/-- Hand out new space with bytes and a terminator. -/
def allocateCString (memory : Memory) (bytes : List UInt8) : UInt64 × Memory :=
  memory.allocate (bytes ++ [0])

end Memory

end NativeBridge
