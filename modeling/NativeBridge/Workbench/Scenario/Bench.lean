/-
Module: NativeBridge.Workbench.Scenario.Bench
Purpose: The state that the steps of a scenario work on, and steps on instances, handles and
  buffers.
Main exports: Bench, BenchM, Bench.ownersOf, and one operation per step
-/
import NativeBridge.Workbench.Inspection
import NativeBridge.Workbench.Scenario.Step

namespace NativeBridge.Workbench

/-!
A bench has one handle registry in use at a time: that of its session, or one of its own while there
is no session.  An instance is owned by every name and every handle that stands for it; the handles
of a registry count as long as the registry is in use or a living closure looks handles up in it.
-/

/-- The state of a scenario. -/
structure Bench where
  files : FileSystem
  world : World Key
  types : Names (CallableType Key)
  /-- The addresses of the closures that have names. -/
  closures : Names UInt64
  descriptions : Names (TypeDescription Key)
  session : Option (Session Service)
  /-- The registry in use while there is no session. -/
  ownRegistry : Nat
  /-- The cells of instances that running steps own besides. -/
  held : List Nat

/-- A step in the making. -/
abbrev BenchM : Type → Type := StateM Bench

/-- The bench at the start of a scenario. -/
def Bench.initial (files : FileSystem) : Bench :=
  let (registry, world) := (World.initial Globals.initial : World Key).addRegistry
  { files := files
    world := world
    types := .empty
    closures := .empty
    descriptions := .empty
    session := none
    ownRegistry := registry
    held := [] }

namespace Bench

/-- The shared data. -/
def globals (bench : Bench) : Globals := bench.world.globals

/-- The registry in use. -/
def registryId (bench : Bench) : Nat :=
  match bench.session with
  | some session => session.registry
  | none => bench.ownRegistry

/-- The addresses of the closures that live: those with names and those the session retains. -/
def livingClosures (bench : Bench) : List UInt64 :=
  bench.closures.values ++ bench.session.elim [] Session.retained

/-- The registries that are kept. -/
def keptRegistries (bench : Bench) : List Nat :=
  let ofClosures := bench.livingClosures.filterMap fun address =>
    (bench.world.closureAt? address).bind Closure.registry
  (bench.ownRegistry :: bench.registryId :: ofClosures).eraseDups

/-- Whether a value is the instance in a cell. -/
def isInstance (cell : Nat) : Value Key → Bool
  | .object target => target.cell == cell
  | _ => false

/-- The number of owners of the instance in a cell. -/
def ownersOf (bench : Bench) (cell : Nat) : Nat :=
  let named := bench.globals.objects.values.countP fun target => target.cell == cell
  let saved := bench.globals.saved.values.countP (isInstance cell)
  let handles := bench.keptRegistries.map fun id => (bench.world.registry id).owners cell
  named + saved + handles.foldl Nat.add 0 + bench.held.count cell

end Bench

/-! ### Access to the bench -/

/-- The shared data. -/
def readGlobals : BenchM Globals := do
  return (← get).globals

/-- Change the shared data. -/
def changeGlobals (change : Globals → Globals) : BenchM Unit :=
  modify fun bench =>
    { bench with world := { bench.world with globals := change bench.world.globals } }

/-- Do something in the world. -/
def inWorld {α : Type} (step : World Key → α × World Key) : BenchM α := do
  let bench ← get
  let (result, world) := step bench.world
  set { bench with world := world }
  return result

/-- The heap. -/
def readHeap : BenchM (Heap Key) := do
  return (← get).world.heap

/-- Replace the heap. -/
def setHeap (heap : Heap Key) : BenchM Unit :=
  modify fun bench => { bench with world := { bench.world with heap := heap } }

/-- A value as it is now. -/
def snapshot (value : Value Key) : BenchM Snapshot := do
  let bench ← get
  return .of bench.globals bench.world.heap value

/-- The value of an operand. -/
def evaluate (operand : Operand) : BenchM (Value Key) :=
  inWorld fun world => operand.evaluate world.globals.saved world

/-- The values of operands, from left to right. -/
def evaluateAll (operands : List Operand) : BenchM (List (Value Key)) :=
  inWorld fun world => Operand.evaluateAll world.globals.saved operands world

/-- The handle that an operand is. -/
def handleOf (operand : Operand) : BenchM UInt64 := do
  match ← evaluate operand with
  | .pointer address => return address
  | _ => return 0

/-- Go on with the instance of a name. -/
def withObject (name : String) (step : HostObject Key → BenchM Answer) : BenchM Answer := do
  match (← readGlobals).objects.find? name with
  | some target => step target
  | none => return .noFunction

/-- Go on with the buffer of a name. -/
def withBuffer (name : String) (step : StringBuffer → BenchM Answer) : BenchM Answer := do
  match (← readGlobals).buffers.find? name with
  | some buffer => step buffer
  | none => return .noFunction

/-- Give a name to an instance. -/
def nameObject (name : String) (target : HostObject Key) : BenchM Unit :=
  changeGlobals fun globals => { globals with objects := globals.objects.set name target }

/-- Give a name to a buffer. -/
def nameBuffer (name : String) (buffer : StringBuffer) : BenchM Unit :=
  changeGlobals fun globals => { globals with buffers := globals.buffers.set name buffer }

/-- Save a value under a name, if there is one. -/
def save (name : Option String) (value : Option (Value Key)) : BenchM Unit :=
  changeGlobals fun globals => { globals with saved := keep globals.saved name value }

/-- The answer of a check. -/
def answerCheck : Except Error Unit → Answer
  | .ok () => .done
  | .error error => .failed error

/-! ### Instances -/

/-- The first state of an instance, with a number and a text if they are asked for. -/
def stateWith (number : Option Int32) (text : Option String) :
    (key : Key) → HostProgram.State key
  | .widget _ =>
      { Widget.default with
        number := number.getD Widget.default.number
        text := text.getD Widget.default.text }
  | .shape => (default : Shape)

/-- Make an instance. -/
def makeObject (type : ObjectType Key) (number : Option Int32) (text : Option String)
    (name : String) : BenchM Answer := do
  let (target, heap) := (← readHeap).newObject type (stateWith number text type.key)
  setHeap heap
  nameObject name target
  return .value (← snapshot (.object target))

/-- Tell whether a name stands for an instance, and forget it. -/
def forgetObject (name : String) : BenchM Answer := do
  let known := ((← readGlobals).objects.find? name).isSome
  changeGlobals fun globals => { globals with objects := globals.objects.erase name }
  return .flag known

/-- Compare two instances: whether they are one, whether they are equal, and whether their types
are. -/
def compareObjects (a b : HostObject Key) : Answer :=
  .flags [a.sameInstance b, a.sameInstance b, decide (a.type = b.type)]

/-- Copy an instance of a value class and show the copy. -/
def copyOut (target : HostObject Key) : BenchM Answer := do
  match (← readHeap).copyOut target with
  | .error error => return .failed error
  | .ok (cell, heap) =>
      setHeap heap
      return .state (.of heap ⟨cell, target.type⟩)

/-- Change the number of an instance, unless somebody holds it. -/
def renumber (target : HostObject Key) (number : Int32) (heap : Heap Key) :
    Except HandleError Unit × Heap Key :=
  match heap.borrowExclusive? target.cell with
  | none => (.error (Heap.busy target), heap)
  | some _ =>
      match target.type.key with
      | .widget kind =>
          match heap.stateAt? (.widget kind) target.cell with
          | some (state : Widget) =>
              (.ok (), heap.setState target.cell (.widget kind) { state with number := number })
          | none => (.ok (), heap)
      | .shape => (.ok (), heap)

/-- The state of an instance, unless somebody writes to it. -/
def readState (target : HostObject Key) (heap : Heap Key) : Except HandleError StateView :=
  match heap.readObject target with
  | .ok _ => .ok (.of heap target)
  | .error error => .error error

/-- Look at an instance through a shared reference and a copy of it. -/
def viewAsRef (target : HostObject Key) (key : Key) (number : Option Int32) : BenchM Answer := do
  match target.expectType ⟨key, .reference⟩ with
  | .error error => return .failed error
  | .ok () => do
      let changed ←
        match number with
        | none => pure none
        | some number => do
            let (result, heap) := renumber target number (← readHeap)
            setHeap heap
            pure (some result)
      let bench ← get
      return .ref
        { changed := changed
          read := readState target bench.world.heap
          same := true
          owners := bench.ownersOf target.cell + 2 }

/-- Read a value as a marshal type and show what it turns back into. -/
def convert (type : MarshalType Key) (operand : Operand) : BenchM Answer := do
  let value ← evaluate operand
  match type.fromValue value (← readHeap) with
  | .error error => return .conversion type.hostType (.error error)
  | .ok carried => do
      let (back, heap) := type.intoValue carried (← readHeap)
      setHeap heap
      return .conversion type.hostType (.ok (← snapshot back))

/-! ### Handles -/

/-- Get a handle for an instance. -/
def allocateHandle (target : HostObject Key) (as : Option String) : BenchM Answer := do
  let id := (← get).registryId
  let handle ← inWorld fun world => world.allocateHandle id target
  save as (some (.pointer handle))
  return .handle handle (handleText handle)

/-- Look a handle up. -/
def resolveHandle (operand : Operand) (as : Option String) : BenchM Answer := do
  let handle ← handleOf operand
  let bench ← get
  match (bench.world.registry bench.registryId).resolve handle with
  | .error error => return .failed error
  | .ok target => do
      if let some name := as then nameObject name target
      return .value (← snapshot (.object target))

/-- Release a handle. -/
def releaseHandle (operand : Operand) : BenchM Answer := do
  let handle ← handleOf operand
  let id := (← get).registryId
  let result ← inWorld fun world => world.releaseHandle id handle
  return answerCheck (result.mapError Error.handle)

/-- Whether a handle is live. -/
def isLive (operand : Operand) : BenchM Answer := do
  let handle ← handleOf operand
  let bench ← get
  return .flag ((bench.world.registry bench.registryId).isLive handle)

/-- Show the registry in use. -/
def showRegistry : BenchM Answer := do
  let bench ← get
  let registry := bench.world.registry bench.registryId
  return .registry registry.live registry.inspect

/-! ### Buffers -/

/-- Make a buffer.  One that starts without a text has room set aside for its capacity. -/
def makeBufferNamed (name : String) (text : Option String) (capacity : Nat) : BenchM Answer := do
  if text.isSome || capacity ≤ largestRoom then
    let (buffer, heap) := (← readHeap).newBuffer (text.getD "") capacity
    setHeap heap
    nameBuffer name buffer
    return .done
  else return .panicked roomPanic

/-- Replace the text of a buffer by one made from it. -/
def changeBuffer (buffer : StringBuffer) (change : String → String) : BenchM Answer := do
  let heap ← readHeap
  setHeap (heap.setText buffer (change (heap.text buffer)))
  return .done

/-- All that can be told of a buffer. -/
def showBuffer (buffer : StringBuffer) : BenchM Answer := do
  let heap ← readHeap
  let text := heap.text buffer
  return .buffer ⟨text, text.utf8ByteSize, buffer.capacity, text.isEmpty,
    heap.truncatedText buffer⟩

/-- The inspection text of a buffer. -/
def inspectBuffer (buffer : StringBuffer) : BenchM Answer := do
  let text := (← readHeap).text buffer
  return .text ("StringBuffer \x7b text: " ++ Text.quote text ++ ", capacity: " ++
    toString buffer.capacity ++ " \x7d")

/-- Put bytes in native memory and name their address. -/
def makeNativeBuffer (name : String) (bytes : List UInt8) : BenchM Answer := do
  let address ← inWorld fun world =>
    let (address, memory) := world.memory.allocate bytes
    (address, { world with memory := memory })
  changeGlobals fun globals =>
    { globals with nativeBuffers := globals.nativeBuffers.set name (address, bytes.length) }
  return .done

/-- The bytes of a native buffer. -/
def showNativeBuffer (name : String) : BenchM Answer := do
  match (← readGlobals).nativeBuffers.find? name with
  | some (address, size) => do
      let memory := (← get).world.memory
      return .bytes (memory.readAll address.toNat size)
  | none => return .noFunction

end NativeBridge.Workbench
