/-
Module: NativeBridge.Workbench.Operand
Purpose: Values as a scenario writes them, with names for what was made before.
Main exports: Operand, Operand.find, Operand.evaluate, Operand.evaluateAll, Operand.inHost, toRaw
-/
import NativeBridge.Workbench.Classes
import NativeBridge.World

namespace NativeBridge.Workbench

/-!
An operand is looked up when it is used.  A name that stands for nothing is nothing.
-/

/-- A value as a scenario writes it. -/
inductive Operand where
  | literal (value : Value Key)
  /-- A new buffer. -/
  | newBuffer (text : String) (capacity : Nat)
  | object (name : String)
  | buffer (name : String)
  /-- The address of a native buffer. -/
  | nativeBuffer (name : String)
  | saved (name : String)
  /-- An argument of the running closure. -/
  | argument (index : Nat)
deriving Repr, Inhabited

/-- What an operand stands for: a value, or a buffer that has to be made. -/
inductive Found where
  | value (value : Value Key)
  | newBuffer (text : String) (capacity : Nat)

/-- Look an operand up among shared data, saved values and arguments. -/
def Operand.find (globals : Globals) (table : Names (Value Key)) (args : List (Value Key)) :
    Operand → Found
  | literal value => .value value
  | newBuffer text capacity => .newBuffer text capacity
  | object name => .value ((globals.objects.find? name).elim .void .object)
  | buffer name => .value ((globals.buffers.find? name).elim .void .stringBuffer)
  | nativeBuffer name =>
      .value ((globals.nativeBuffers.find? name).elim .void fun entry => .pointer entry.1)
  | saved name => .value ((table.find? name).getD .void)
  | argument index => .value (args.getD index .void)

/-- The value of an operand outside all calls. -/
def Operand.evaluate (table : Names (Value Key)) (operand : Operand) (world : World Key) :
    Value Key × World Key :=
  match operand.find world.globals table [] with
  | .value value => (value, world)
  | .newBuffer text capacity =>
      let (made, heap) := world.heap.newBuffer text capacity
      (.stringBuffer made, { world with heap := heap })

/-- The values of operands outside all calls, from left to right. -/
def Operand.evaluateAll (table : Names (Value Key)) :
    List Operand → World Key → List (Value Key) × World Key
  | [], world => ([], world)
  | operand :: rest, world =>
      let (value, world) := operand.evaluate table world
      let (values, world) := evaluateAll table rest world
      (value :: values, world)

/-- The value of an operand inside a closure with arguments. -/
def Operand.inHost (args : List (Value Key)) (operand : Operand) : Host Key (Value Key) := do
  let globals ← (Host.globals : Host Key Globals)
  match operand.find globals globals.saved args with
  | .value value => pure value
  | .newBuffer text capacity => do
      let made ← Host.newBuffer text capacity
      pure (.stringBuffer made)

/-- The values of operands inside a closure, from left to right. -/
def Operand.inHostAll (args : List (Value Key)) : List Operand → Host Key (List (Value Key))
  | [] => pure []
  | operand :: rest => do
      let value ← operand.inHost args
      let values ← inHostAll args rest
      pure (value :: values)

/-- The raw form of a value; a text becomes the address of a copy of it. -/
def toRaw (value : Value Key) (world : World Key) : RawValue × World Key :=
  match value with
  | .string text =>
      let (address, world) := world.allocateCString (Text.Utf8.encode text)
      (.pointer address, world)
  | value => (value.toRaw?.getD .void, world)

/-- The raw forms of values, from left to right. -/
def toRawAll : List (Value Key) → World Key → List RawValue × World Key
  | [], world => ([], world)
  | value :: rest, world =>
      let (raw, world) := toRaw value world
      let (raws, world) := toRawAll rest world
      (raw :: raws, world)

/-- The raw form of a value inside a closure. -/
def toRawInHost : Value Key → Host Key RawValue
  | .string text => do
      let address ← Host.nativeText text
      pure (.pointer address)
  | value => pure (value.toRaw?.getD .void)

/-- The raw forms of values inside a closure, from left to right. -/
def toRawInHostAll : List (Value Key) → Host Key (List RawValue)
  | [] => pure []
  | value :: rest => do
      let raw ← toRawInHost value
      let raws ← toRawInHostAll rest
      pure (raw :: raws)

end NativeBridge.Workbench
