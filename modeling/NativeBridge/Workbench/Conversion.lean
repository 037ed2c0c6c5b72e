/-
Module: NativeBridge.Workbench.Conversion
Purpose: Single conversions of values, each in a process of its own.
Main exports: ValueReport, describeValue, readRaw, readAsType, readParameters
-/
import NativeBridge.Workbench.Functions
import NativeBridge.Workbench.Operand

namespace NativeBridge.Workbench

/-- A process of the workbench in which nothing has happened. -/
def freshWorld : World Key := World.initial Globals.initial

/-- A value as it is in a heap, when nothing else has a name. -/
def shownIn (heap : Heap Key) (value : Value Key) : Snapshot :=
  .of Globals.initial heap value

/-- What is told of a value. -/
structure ValueReport where
  kind : String
  /-- The raw form of the value, if it has one. -/
  raw : Option RawValue
deriving Repr, Inhabited, DecidableEq

/-- Describe a value. -/
def describeValue (operand : Operand) : ValueReport :=
  let (value, _) := operand.evaluate .empty freshWorld
  ⟨value.kind, value.toRaw?⟩

/-- Read a raw value at a type. -/
def readRaw (operand : Operand) (type : HostType Key) : Except MarshalError Snapshot :=
  let (value, world) := operand.evaluate .empty freshWorld
  let (raw, world) := toRaw value world
  (Value.fromRaw raw type).map (shownIn world.heap)

/-- Read a value as a marshal type, and turn it back into a value. -/
def readAsType (type : MarshalType Key) (operand : Operand) : Except MarshalError Snapshot := do
  let (value, world) := operand.evaluate .empty freshWorld
  let carried ← type.fromValue value world.heap
  let (back, heap) := type.intoValue carried world.heap
  .ok (shownIn heap back)

/-- Read values as the parameters of a function, and turn them back into values. -/
def readParameters (function : Function) (operands : List Operand) :
    Except MarshalError (List Snapshot) := do
  let (values, world) := Operand.evaluateAll .empty operands freshWorld
  let tuple ← Tuple.fromValues function.parameters values world.heap
  let (back, heap) := Tuple.intoValues function.parameters tuple world.heap
  .ok (back.map (shownIn heap))

end NativeBridge.Workbench
