/-
Module: NativeBridge.Heap
Purpose: Host instances and the texts of string buffers, and the rule that an instance has either
  one writer or any number of readers.
Main exports: Borrow, Cell, Heap, Heap.allocate, Heap.borrowShared?, Heap.borrowExclusive?,
  Heap.stateAt?, Heap.setState, Heap.copyOut, Heap.text, Heap.setText
-/
import NativeBridge.Text.Utf8
import NativeBridge.Value

namespace NativeBridge

variable {κ : Type}

/-!
An instance lives in a cell with the class it was made as and its borrow: free, read by some
number of readers, or held by one writer.  Cells are never reused.  A buffer's text lives in a cell
of its own; clones of a buffer share that cell.
-/

/-- Who holds an instance. -/
inductive Borrow where
  | free
  /-- One reader and a number of others. -/
  | shared (others : Nat)
  | exclusive
deriving Repr, Inhabited, DecidableEq

namespace Borrow

/-- One more reader, unless there is a writer. -/
def share? : Borrow → Option Borrow
  | free => some (shared 0)
  | shared others => some (shared (others + 1))
  | exclusive => none

/-- A writer, if nobody holds the instance. -/
def claim? : Borrow → Option Borrow
  | free => some exclusive
  | shared _ | exclusive => none

/-- One reader fewer. -/
def unshare : Borrow → Borrow
  | shared (others + 1) => shared others
  | shared 0 => free
  | free => free
  | exclusive => exclusive

end Borrow

/-- One instance: its class, its state and who holds it. -/
structure Cell (κ : Type) [HostProgram κ] where
  key : κ
  state : HostProgram.State key
  borrow : Borrow

/-- The state of a cell of a known class. -/
def Cell.stateAs [HostProgram κ] (cell : Cell κ) (key : κ) : Option (HostProgram.State key) :=
  if h : cell.key = key then some (h ▸ cell.state) else none

/-- All host instances and buffer texts. -/
structure Heap (κ : Type) [HostProgram κ] where
  cells : Array (Cell κ)
  texts : Array String

namespace Heap

variable [HostProgram κ]

/-- No instance and no buffer. -/
def empty : Heap κ := ⟨#[], #[]⟩

/-! ### Instances -/

/-- Store a new instance that nobody holds; its cell is the next free one. -/
def allocate (heap : Heap κ) (key : κ) (state : HostProgram.State key) : Nat × Heap κ :=
  (heap.cells.size, { heap with cells := heap.cells.push ⟨key, state, .free⟩ })

/-- Store a new instance and refer to it with some semantics. -/
def newObject (heap : Heap κ) (type : ObjectType κ) (state : HostProgram.State type.key) :
    HostObject κ × Heap κ :=
  let (cell, heap) := heap.allocate type.key state
  (⟨cell, type⟩, heap)

/-- Who holds the instance in a cell. -/
def borrowAt? (heap : Heap κ) (cell : Nat) : Option Borrow :=
  heap.cells[cell]?.map Cell.borrow

/-- Change who holds the instance in a cell. -/
def setBorrow (heap : Heap κ) (cell : Nat) (borrow : Borrow) : Heap κ :=
  { heap with cells := heap.cells.modify cell fun c => { c with borrow := borrow } }

/-- Become one more reader of an instance. -/
def borrowShared? (heap : Heap κ) (cell : Nat) : Option (Heap κ) :=
  ((heap.borrowAt? cell).bind Borrow.share?).map (heap.setBorrow cell)

/-- Become the writer of an instance. -/
def borrowExclusive? (heap : Heap κ) (cell : Nat) : Option (Heap κ) :=
  ((heap.borrowAt? cell).bind Borrow.claim?).map (heap.setBorrow cell)

/-- Stop being a reader of an instance. -/
def endShared (heap : Heap κ) (cell : Nat) : Heap κ :=
  match heap.borrowAt? cell with
  | some borrow => heap.setBorrow cell borrow.unshare
  | none => heap

/-- Stop being the writer of an instance. -/
def endExclusive (heap : Heap κ) (cell : Nat) : Heap κ :=
  heap.setBorrow cell .free

/-- Whether nobody writes to the instance in a cell. -/
def isReadable (heap : Heap κ) (cell : Nat) : Bool :=
  ((heap.borrowAt? cell).bind Borrow.share?).isSome

/-- The state in a cell, if the cell holds an instance of a class. -/
def stateAt? (heap : Heap κ) (key : κ) (cell : Nat) : Option (HostProgram.State key) :=
  heap.cells[cell]?.bind fun c => c.stateAs key

/-- Replace the state in a cell, if the cell holds an instance of the same class. -/
def setState (heap : Heap κ) (cell : Nat) (key : κ) (state : HostProgram.State key) : Heap κ :=
  { heap with
    cells := heap.cells.modify cell fun c => if c.key = key then ⟨key, state, c.borrow⟩ else c }

/-- The failure of borrowing an object. -/
def busy (object : HostObject κ) : HandleError :=
  .receiverBusy object.type.name

/-- The whole content of an object that nobody writes to. -/
def readObject (heap : Heap κ) (object : HostObject κ) : Except HandleError (Cell κ) :=
  match heap.cells[object.cell]? with
  | some cell => if cell.borrow.share?.isSome then .ok cell else .error (busy object)
  | none => .error (busy object)

/-- A private copy of an instance of a value class, in a new cell. -/
def copyOut (heap : Heap κ) (object : HostObject κ) : Except Error (Nat × Heap κ) :=
  match object.type.semantics with
  | .reference =>
      .error (MarshalError.typeMismatch ("value class " ++ object.type.name)
        ("reference class " ++ object.type.name))
  | .value =>
      match heap.readObject object with
      | .error busy => .error busy
      | .ok cell =>
          match cell.stateAs object.type.key with
          | some state => .ok (heap.allocate object.type.key state)
          | none => .error (MarshalError.typeMismatch object.type.name "foreign instance")

/-! ### String buffers -/

/-- Store a text as a new buffer. -/
def newBuffer (heap : Heap κ) (text : String) (capacity : Nat) : StringBuffer × Heap κ :=
  (⟨heap.texts.size, capacity⟩, { heap with texts := heap.texts.push text })

/-- The text of a buffer. -/
def text (heap : Heap κ) (buffer : StringBuffer) : String :=
  heap.texts.getD buffer.cell ""

/-- Replace the text of a buffer. -/
def setText (heap : Heap κ) (buffer : StringBuffer) (text : String) : Heap κ :=
  { heap with texts := heap.texts.setIfInBounds buffer.cell text }

/-- The text of a buffer, cut to its capacity at a boundary between characters. -/
def truncatedText (heap : Heap κ) (buffer : StringBuffer) : String :=
  Text.Utf8.truncate (heap.text buffer) buffer.capacity

/-- Equality of values as host code compares them: numbers by value, buffers by text, objects by
instance. -/
def sameValue (heap : Heap κ) : Value κ → Value κ → Bool
  | .f32 x, .f32 y => x.sameNumber y
  | .f64 x, .f64 y => x.sameNumber y
  | .stringBuffer a, .stringBuffer b => heap.text a == heap.text b
  | .object a, .object b => a.sameInstance b
  | a, b => decide (a = b)

end Heap

end NativeBridge
