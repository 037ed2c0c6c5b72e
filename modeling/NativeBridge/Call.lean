/-
Module: NativeBridge.Call
Purpose: What happens when native code calls host code and host code calls native code, nested to
  any depth.
Main exports: Frame, Entry, ForeignFunction.callRaw, ForeignFunction.call, Code.run,
  Handler.run, Closure.dispatch, Closure.enter, enterAt
-/
import NativeBridge.Boundary
import NativeBridge.CallingConvention

namespace NativeBridge

variable {κ : Type} [HostProgram κ]

/-!
A native call goes through an `Entry`: it takes an address, the result type the caller expects and
raw arguments, and gives a raw result.  Arguments and result travel as the calling convention says,
so the caller may see other types than the code it calls.  Behind a closure the entry decodes the
arguments, runs the host code, writes text buffers back, and encodes the result.  A failure anywhere
becomes the pending fault, and the native caller gets a zero.

`enterAt depth` is the entry under which calls may nest `depth` deep.  A call that would nest
deeper is answered like host code that panics.
-/

/-- A way of calling native addresses. -/
def Entry (κ : Type) [HostProgram κ] : Type :=
  UInt64 → AbiType → List RawValue → World κ → RawValue × World κ

/-- A borrow that a stretch of host code holds. -/
structure Guard where
  cell : Nat
  exclusive : Bool
deriving Repr, Inhabited, DecidableEq

/-- What a stretch of host code holds: the instance it was called on and its borrows. -/
structure Frame where
  receiver : Option Nat
  guards : List Guard
deriving Repr, Inhabited, DecidableEq

/-- The frame of code that is called on nothing. -/
def Frame.bare : Frame := ⟨none, []⟩

/-- The frame of a member called on an instance. -/
def Frame.onReceiver (cell : Nat) : Frame := ⟨some cell, []⟩

/-- Whether a frame lets its code read an instance. -/
def Frame.mayRead (frame : Frame) (cell : Nat) : Bool :=
  frame.guards.any fun guard => guard.cell == cell

/-- Whether a frame lets its code change an instance. -/
def Frame.mayWrite (frame : Frame) (cell : Nat) : Bool :=
  frame.guards.any fun guard => guard.cell == cell && guard.exclusive

/-! ### Borrows -/

/-- Give up one borrow. -/
def Guard.drop (guard : Guard) (heap : Heap κ) : Heap κ :=
  if guard.exclusive then heap.endExclusive guard.cell else heap.endShared guard.cell

/-- Give up all borrows of a frame. -/
def Frame.dropGuards (frame : Frame) (heap : Heap κ) : Heap κ :=
  frame.guards.foldl (fun heap guard => guard.drop heap) heap

/-- Try to add a borrow to a frame. -/
def Frame.borrow (frame : Frame) (cell : Nat) (exclusive : Bool) (heap : Heap κ) :
    Option (Frame × Heap κ) :=
  let attempt := if exclusive then heap.borrowExclusive? cell else heap.borrowShared? cell
  attempt.map fun heap => ({ frame with guards := ⟨cell, exclusive⟩ :: frame.guards }, heap)

/-- Give up the latest borrow of an instance, if the frame has one. -/
def Frame.endBorrow (frame : Frame) (cell : Nat) (heap : Heap κ) : Frame × Heap κ :=
  match frame.guards.find? fun guard => guard.cell == cell with
  | some guard => ({ frame with guards := frame.guards.erase guard }, guard.drop heap)
  | none => (frame, heap)

/-! ### Host code calls native code -/

namespace ForeignFunction

/-- A function of a type at an address. -/
def atAddress (address : UInt64) (type : CallableType κ) :
    Except CallableError (ForeignFunction κ) :=
  if address = 0 then .error .nullAddress else .ok ⟨address, type⟩

/-- The first raw argument that does not have the type of its parameter. -/
def rawFault : List (HostType κ) → List RawValue → Option MarshalError
  | type :: types, raw :: raws =>
      if raw.abi = type.abi then rawFault types raws
      else some (.typeMismatch type.name raw.abi.title)
  | _, _ => none

/-- Call with raw values.  A fault stays pending. -/
def callRaw (enter : Entry κ) (function : ForeignFunction κ) (args : List RawValue)
    (world : World κ) : Except MarshalError RawValue × World κ :=
  let signature := function.type.signature
  if args.length = signature.parameters.length then
    match rawFault signature.parameters args with
    | some error => (.error error, world)
    | none =>
        let (raw, world) := enter function.address signature.result.abi args world
        (.ok raw, world)
  else (.error (.arityMismatch signature.parameters.length args.length), world)

/-- Call with encoded arguments.  After the call the lent buffers are read back, and a fault raised
during the call is its error. -/
def callEncoded (enter : Entry κ) (function : ForeignFunction κ) (raws : List RawValue)
    (lent : List LentBuffer) (world : World κ) : Except Error (Value κ) × World κ :=
  let (result, fault, world) := world.isolate (function.callRaw enter raws)
  let world := { world with heap := readBack world.memory lent world.heap }
  match fault with
  | some error => (.error error, world)
  | none =>
      match result with
      | .error error => (.error error, world)
      | .ok raw =>
          match decodeReturn world.memory raw function.type.signature.result world.heap with
          | .error error => (.error error, world)
          | .ok (value, heap) => (.ok value, { world with heap := heap })

/-- Call with host values.  They are encoded first, which can fail or panic. -/
def call (enter : Entry κ) (function : ForeignFunction κ) (args : List (Value κ))
    (world : World κ) : Outcome (Value κ) × World κ :=
  let parameters := function.type.signature.parameters
  if args.length = parameters.length then
    match encodeAll world.heap parameters args world.memory with
    | .panicked message => (.panicked message, world)
    | .returned (.error error) => (.returned (.error error), world)
    | .returned (.ok (raws, lent, memory)) =>
        let (result, world) := function.callEncoded enter raws lent { world with memory := memory }
        (.returned result, world)
  else (.returned (.error (MarshalError.arityMismatch parameters.length args.length)), world)

/-- Check that a function has a static signature. -/
def expectSignature (function : ForeignFunction κ) (expected : Signature κ) :
    Except MarshalError Unit :=
  if function.type.signature = expected then .ok ()
  else .error (.typeMismatch expected.text function.type.signature.text)

/-- Call through a static signature: the tuple's values go in, and the result is read as the result
type. -/
def callTyped (enter : Entry κ) (function : ForeignFunction κ) (parameters : List (MarshalType κ))
    (result : MarshalType κ) (args : Tuple parameters) (world : World κ) :
    Outcome (Carrier result) × World κ :=
  let (values, heap) := Tuple.intoValues parameters args world.heap
  let (outcome, world) := function.call enter values { world with heap := heap }
  (do return ← result.fromValue (← outcome) world.heap, world)

/-- The inspection text of a function, its address given as text. -/
def inspect (function : ForeignFunction κ) : String :=
  "ForeignFunction \x7b address: " ++ Text.hexMarked function.address.toNat ++ ", ty: " ++
    function.type.inspect ++ " \x7d"

end ForeignFunction

/-! ### Running host code -/

/-- Run host code to its end.  What it still holds at the end is given up. -/
def Code.run (enter : Entry κ) : Code κ → Frame → World κ → Outcome (Value κ) × World κ
  | .done result, frame, world =>
      (.returned result, { world with heap := frame.dropGuards world.heap })
  | .panic message, frame, world =>
      (.panicked message, { world with heap := frame.dropGuards world.heap })
  | .readGlobals next, frame, world => (next world.globals).run enter frame world
  | .writeGlobals globals next, frame, world =>
      next.run enter frame { world with globals := globals }
  | .newBuffer text capacity next, frame, world =>
      let (buffer, heap) := world.heap.newBuffer text capacity
      (next buffer).run enter frame { world with heap := heap }
  | .readBuffer buffer next, frame, world =>
      (next (world.heap.text buffer)).run enter frame world
  | .writeBuffer buffer text next, frame, world =>
      next.run enter frame { world with heap := world.heap.setText buffer text }
  | .newObject type state next, frame, world =>
      let (object, heap) := world.heap.newObject type state
      (next object).run enter frame { world with heap := heap }
  | .borrow object exclusive next, frame, world =>
      match frame.borrow object.cell exclusive world.heap with
      | some (frame, heap) => (next true).run enter frame { world with heap := heap }
      | none => (next false).run enter frame world
  | .endBorrow object next, frame, world =>
      let (frame, heap) := frame.endBorrow object.cell world.heap
      next.run enter frame { world with heap := heap }
  | .readObject object key next, frame, world =>
      let state := if frame.mayRead object.cell then world.heap.stateAt? key object.cell else none
      (next state).run enter frame world
  | .writeObject object key state next, frame, world =>
      if frame.mayWrite object.cell then
        next.run enter frame { world with heap := world.heap.setState object.cell key state }
      else next.run enter frame world
  | .readReceiver key next, frame, world =>
      (next (frame.receiver.bind (world.heap.stateAt? key))).run enter frame world
  | .writeReceiver key state next, frame, world =>
      match frame.receiver with
      | some cell =>
          next.run enter frame { world with heap := world.heap.setState cell key state }
      | none => next.run enter frame world
  | .unmarshal types values next, frame, world =>
      (next (Tuple.fromValues types values world.heap)).run enter frame world
  | .marshal type carried next, frame, world =>
      let (value, heap) := type.intoValue carried world.heap
      (next value).run enter frame { world with heap := heap }
  | .call function args next, frame, world =>
      match function.call enter args world with
      | (.panicked message, world) =>
          (.panicked message, { world with heap := frame.dropGuards world.heap })
      | (.returned result, world) => (next result).run enter frame world
  | .callRaw function args next, frame, world =>
      let (result, world) := function.callRaw enter args world
      (next result).run enter frame world
  | .nativeText text next, frame, world =>
      let (address, world) := world.allocateCString (Text.Utf8.encode text)
      (next address).run enter frame world
  | .allocateHandle registry object next, frame, world =>
      let (handle, world) := world.allocateHandle registry object
      (next handle).run enter frame world
  | .resolveHandle registry handle next, frame, world =>
      (next ((world.registry registry).resolve handle)).run enter frame world
  | .releaseHandle registry handle next, frame, world =>
      let (result, world) := world.releaseHandle registry handle
      (next result).run enter frame world

/-- Run a member on the live instance behind an object, which the call holds meanwhile. -/
def runVirtual (enter : Entry κ) (object : HostObject κ) (code : Code κ) (world : World κ) :
    Outcome (Value κ) × World κ :=
  match world.heap.borrowExclusive? object.cell with
  | none => (.returned (.error (Heap.busy object)), world)
  | some heap =>
      let (outcome, world) := code.run enter (.onReceiver object.cell) { world with heap := heap }
      (outcome, { world with heap := world.heap.endExclusive object.cell })

/-- Run a member on a private copy of the value behind an object. -/
def runCopied (enter : Entry κ) (object : HostObject κ) (code : Code κ) (world : World κ) :
    Outcome (Value κ) × World κ :=
  match world.heap.copyOut object with
  | .error error => (.returned (.error error), world)
  | .ok (cell, heap) => code.run enter (.onReceiver cell) { world with heap := heap }

/-- Run a member on the receiver that a thunk's first argument names. -/
def runOnReceiver (enter : Entry κ) (dispatch : Dispatch) (member : Member κ) :
    List (Value κ) → World κ → Outcome (Value κ) × World κ
  | [], world =>
      (.returned (.error (MarshalError.arityMismatch (member.parameters.length + 1) 0)), world)
  | .object object :: args, world =>
      match dispatch with
      | .virtual => runVirtual enter object (member.body args) world
      | .static | .copied => runCopied enter object (member.body args) world
  | other :: _, world =>
      (.returned (.error (MarshalError.typeMismatch member.owner.name other.kind)), world)

/-- Run the host code behind a closure on decoded arguments. -/
def Handler.run (enter : Entry κ) (handler : Handler κ) (args : List (Value κ))
    (world : World κ) : Outcome (Value κ) × World κ :=
  match handler with
  | .function body => (body args).run enter .bare world
  | .member .static target => (target.body args).run enter .bare world
  | .member dispatch target => runOnReceiver enter dispatch target args world

/-! ### Native code calls host code -/

/-- Encode a result.  An object gets a fresh handle; a text is copied to memory that outlives the
call. -/
def Closure.give (closure : Closure κ) (address : UInt64) (value : Value κ) (world : World κ) :
    Except Error RawValue × World κ :=
  let retain (text : String) : Except Error RawValue × World κ :=
    match cBytes text with
    | .error error => (.error error, world)
    | .ok bytes =>
        let (place, world) := world.allocateCString bytes
        (.ok (.pointer place), world.noteReturned address place)
  match closure.plan.result.type, value with
  | .void, _ => (.ok .void, world)
  | .object type, .object object =>
      match object.expectType type with
      | .error error => (.error error, world)
      | .ok () =>
          match closure.registry with
          | none =>
              (.error (CallableError.opaqueSignature "return" closure.plan.result.type.name), world)
          | some registry =>
              let (handle, world) := world.allocateHandle registry object
              (.ok (.pointer handle), world)
  | .string, .string text => retain text
  | .stringBuffer, .stringBuffer buffer => retain (world.heap.text buffer)
  | type, value => (giveDirect type value, world)

/-- Write the native buffers of a call back, in order. -/
def applyWriteBacks (writeBacks : List WriteBack) (world : World κ) : World κ :=
  { world with
    memory := writeBacks.foldl (fun memory one => one.apply world.heap memory) world.memory }

/-- Decode the arguments, run the host code, write buffers back, and encode the result.  Buffers are
written back unless the host code panics. -/
def Closure.dispatch (enter : Entry κ) (closure : Closure κ) (address : UInt64)
    (raws : List RawValue) (world : World κ) : Outcome RawValue × World κ :=
  match acceptAll (closure.registry.map world.registry) world.memory closure.plan.parameters raws
      world.heap with
  | .error error => (.returned (.error error), world)
  | .ok (args, writeBacks, heap) =>
      match closure.handler.run enter args { world with heap := heap } with
      | (.panicked message, world) => (.panicked message, world)
      | (.returned result, world) =>
          let world := applyWriteBacks writeBacks world
          match result with
          | .error error => (.returned (.error error), world)
          | .ok value =>
              let (raw, world) := closure.give address value world
              (.returned raw, world)

/-- Enter a closure: a failure of any kind becomes a fault and a zero result. -/
def Closure.enter (enter : Entry κ) (closure : Closure κ) (address : UInt64)
    (raws : List RawValue) (world : World κ) : RawValue × World κ :=
  let result := closure.type.signature.result.abi
  let parameters := closure.type.signature.parameters.map HostType.abi
  match closure.dispatch enter address (deliver parameters raws) world with
  | (.returned (.ok raw), world) =>
      if raw.abi = result then (raw, world)
      else (.zero result,
        world.raise (MarshalError.typeMismatch result.title raw.abi.title))
  | (.returned (.error error), world) => (.zero result, world.raise error)
  | (.panicked message, world) => (.zero result, world.raise (.panicked (panicText message)))

/-- The entry under which calls may nest a number of levels deep. -/
def enterAt : Nat → Entry κ
  | 0, _, result, _, world => (.zero result, world.raise (.panicked "call depth exceeded"))
  | depth + 1, address, result, raws, world =>
      match world.codeAt? address with
      | none => (.zero result, world)
      | some (.foreign parameters run) =>
          let (raw, memory) := run (deliver parameters raws) world.memory
          (raw.readResult result, { world with memory := memory })
      | some (.closure closure) =>
          let (raw, world) := closure.enter (enterAt depth) address raws world
          (raw.readResult result, world)

end NativeBridge
