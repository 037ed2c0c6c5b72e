/-
Module: NativeBridge.Proofs.Journal
Purpose: What happens while native code and host code call each other, as a list of events.
Main exports: ClosureCall, Event, Code.journal, Handler.journal, ClosureCall.journal,
  enterJournal, ForeignFunction.rawJournal, ForeignFunction.journal, Event.faults
-/
import NativeBridge.Proofs.HostSteps

namespace NativeBridge

variable {κ : Type} [HostProgram κ]

/-!
A journal lists what a run did that others can notice later: which host code native code entered and
what came of it, which faults it raised, and what it did to handle registries.  A journal is read
off the run alone.  It knows nothing of the slot for the pending fault, and nothing of what the
tables of handles hold afterwards, so that both can be compared with it.

A call with host values collects the faults raised inside it.  Its events stand in the journal of
its caller one level deeper, so that level zero has the faults that nobody has collected.
-/

/-- A call of the host code behind a closure: how deep calls may nest inside it, where and with what
raw values it was entered, and the process at that moment. -/
structure ClosureCall (κ : Type) [HostProgram κ] where
  depth : Nat
  address : UInt64
  closure : Closure κ
  sent : List RawValue
  world : World κ

/-- One thing that happened. -/
inductive Event (κ : Type) [HostProgram κ] where
  /-- Native code entered the host code behind a closure. -/
  | entered (call : ClosureCall κ)
  /-- The host code behind a closure has ended, or was not run at all. -/
  | ended (call : ClosureCall κ)
  /-- A call of a closure came back to native code. -/
  | answered (call : ClosureCall κ)
  /-- A fault was raised, a number of collecting calls below. -/
  | raised (level : Nat) (fault : Error)
  /-- A registry gave a handle out for an object. -/
  | issued (registry : Nat) (handle : UInt64) (object : HostObject κ)
  /-- A registry took a live handle back. -/
  | released (registry : Nat) (handle : UInt64)
  /-- Host code asked a registry about a handle, or tried to give back one that was not live. -/
  | lookedUp (registry : Nat) (handle : UInt64)

namespace Event

/-- An event inside a collecting call, as its caller sees it. -/
def deeper : Event κ → Event κ
  | raised level fault => raised (level + 1) fault
  | other => other

/-- The fault that an event raised at the level of the journal. -/
def fault? : Event κ → Option Error
  | raised 0 fault => some fault
  | _ => none

/-- The faults raised at the level of a journal, in order. -/
def faults (events : List (Event κ)) : List Error :=
  events.filterMap fault?

end Event

/-- The journal of a way of calling native addresses. -/
abbrev EntryJournal (κ : Type) [HostProgram κ] : Type :=
  UInt64 → List RawValue → World κ → List (Event κ)

/-! ### Host code -/

namespace ForeignFunction

/-- The journal of a call with raw values. -/
def rawJournal (inner : EntryJournal κ) (function : ForeignFunction κ) (args : List RawValue)
    (world : World κ) : List (Event κ) :=
  let parameters := function.type.signature.parameters
  if args.length = parameters.length ∧ rawFault parameters args = none then
    inner function.address args world
  else []

/-- The raw arguments of a call with host values, what is lent in them, and the memory with both. -/
def encoded (function : ForeignFunction κ) (args : List (Value κ)) (world : World κ) :
    Outcome (List RawValue × List LentBuffer × Memory) :=
  let parameters := function.type.signature.parameters
  if args.length = parameters.length then encodeAll world.heap parameters args world.memory
  else .returned (.error (MarshalError.arityMismatch parameters.length args.length))

/-- A call with host values encodes its arguments, and goes on with these if it can. -/
theorem call_eq_encoded (enter : Entry κ) (function : ForeignFunction κ) (args : List (Value κ))
    (world : World κ) :
    function.call enter args world =
      match function.encoded args world with
      | .panicked message => (.panicked message, world)
      | .returned (.error error) => (.returned (.error error), world)
      | .returned (.ok (raws, lent, memory)) =>
          let called := function.callEncoded enter raws lent { world with memory := memory }
          (.returned called.1, called.2) := by
  by_cases arity : args.length = function.type.signature.parameters.length
  · have encoded : function.encoded args world =
        encodeAll world.heap function.type.signature.parameters args world.memory := if_pos arity
    rw [encoded]
    exact if_pos arity
  · have encoded : function.encoded args world = .returned (.error (MarshalError.arityMismatch
        function.type.signature.parameters.length args.length)) := if_neg arity
    rw [encoded]
    exact if_neg arity

/-- The process in which the native part of a call with host values starts. -/
def nativeStart (world : World κ) (memory : Memory) : World κ :=
  { world with memory := memory, pending := none }

/-- The journal of a call with host values, which starts with no fault pending. -/
def journal (inner : EntryJournal κ) (function : ForeignFunction κ) (args : List (Value κ))
    (world : World κ) : List (Event κ) :=
  match function.encoded args world with
  | .returned (.ok (raws, _, memory)) =>
      (function.rawJournal inner raws (nativeStart world memory)).map Event.deeper
  | .returned (.error _) | .panicked _ => []

end ForeignFunction

namespace Code

/-- The journal of the first request of host code. -/
def stepJournal (inner : EntryJournal κ) : Code κ → World κ → List (Event κ)
  | .call function args _, world => function.journal inner args world
  | .callRaw function args _, world => function.rawJournal inner args world
  | .allocateHandle registry object _, world =>
      [.issued registry (world.registry registry).next object]
  | .resolveHandle registry handle _, _ => [.lookedUp registry handle]
  | .releaseHandle registry handle _, world =>
      if (world.registry registry).isLive handle then [.released registry handle]
      else [.lookedUp registry handle]
  | _, _ => []

/-- The journal of a run of host code. -/
def journal (enter : Entry κ) (inner : EntryJournal κ) (code : Code κ) (frame : Frame)
    (world : World κ) : List (Event κ) :=
  code.stepJournal inner world ++
    match _ : code.step enter frame world with
    | .ended _ _ => []
    | .rest rest frame world => rest.journal enter inner frame world
termination_by code
decreasing_by exact ⟨_, _, _, _, _, ‹_›⟩

theorem journal_ended {enter : Entry κ} {inner : EntryJournal κ} {code : Code κ} {frame : Frame}
    {world left : World κ} {outcome : Outcome (Value κ)}
    (stepped : code.step enter frame world = .ended outcome left) :
    code.journal enter inner frame world = code.stepJournal inner world := by
  rw [journal]
  split
  · exact List.append_nil _
  · next same =>
    rw [stepped] at same
    cases same

theorem journal_rest {enter : Entry κ} {inner : EntryJournal κ} {code rest : Code κ}
    {frame frame' : Frame} {world world' : World κ}
    (stepped : code.step enter frame world = .rest rest frame' world') :
    code.journal enter inner frame world =
      code.stepJournal inner world ++ rest.journal enter inner frame' world' := by
  rw [journal]
  split
  · next same =>
    rw [stepped] at same
    cases same
  · next same =>
    rw [stepped] at same
    cases same
    rfl

end Code

/-- The host code that a handler runs on decoded arguments, what it holds and where it starts; none
if the handler fails before that. -/
def Handler.start (handler : Handler κ) (args : List (Value κ)) (world : World κ) :
    Option (Code κ × Frame × World κ) :=
  match handler, args with
  | .function body, args => some (body args, .bare, world)
  | .member .static target, args => some (target.body args, .bare, world)
  | .member .virtual target, .object object :: args =>
      (world.heap.borrowExclusive? object.cell).map fun heap =>
        (target.body args, .onReceiver object.cell, { world with heap := heap })
  | .member .copied target, .object object :: args =>
      match world.heap.copyOut object with
      | .ok (cell, heap) => some (target.body args, .onReceiver cell, { world with heap := heap })
      | .error _ => none
  | .member _ _, _ => none

/-- The journal of the host code behind a closure. -/
def Handler.journal (enter : Entry κ) (inner : EntryJournal κ) (handler : Handler κ)
    (args : List (Value κ)) (world : World κ) : List (Event κ) :=
  match handler.start args world with
  | some (code, frame, world) => code.journal enter inner frame world
  | none => []

/-! ### Native code calls host code -/

namespace ClosureCall

/-- The raw arguments as the closure gets them. -/
def args (call : ClosureCall κ) : List RawValue :=
  deliver (call.closure.type.signature.parameters.map HostType.abi) call.sent

/-- The decoded arguments of a call, with the buffers to be written back. -/
def accepted (call : ClosureCall κ) : Except Error (List (Value κ) × List WriteBack × Heap κ) :=
  acceptAll (call.closure.registry.map call.world.registry) call.world.memory
    call.closure.plan.parameters call.args call.world.heap

/-- How the host code behind the closure ended, and the process it left; none if it was not run. -/
def inside (call : ClosureCall κ) : Option (Outcome (Value κ) × World κ) :=
  match call.accepted with
  | .ok (args, _, heap) =>
      some (call.closure.handler.run (enterAt call.depth) args { call.world with heap := heap })
  | .error _ => none

/-- The process that the host code behind the closure left. -/
def left (call : ClosureCall κ) : World κ :=
  (call.inside.map Prod.snd).getD call.world

/-- What came of a call, and the process before a fault of it is raised. -/
def dispatched (call : ClosureCall κ) : Outcome RawValue × World κ :=
  call.closure.dispatch (enterAt call.depth) call.address call.args call.world

/-- What is left of a call when its host code has ended: unless it panicked buffers are written
back, and a value is encoded. -/
def finish (call : ClosureCall κ) (writeBacks : List WriteBack) :
    Outcome (Value κ) × World κ → Outcome RawValue × World κ
  | (.panicked message, world) => (.panicked message, world)
  | (.returned (.error error), world) =>
      (.returned (.error error), applyWriteBacks writeBacks world)
  | (.returned (.ok value), world) =>
      let given := call.closure.give call.address value (applyWriteBacks writeBacks world)
      (.returned given.1, given.2)

theorem dispatched_eq (call : ClosureCall κ) :
    call.dispatched =
      match call.accepted with
      | .error error => (.returned (.error error), call.world)
      | .ok (args, writeBacks, heap) =>
          call.finish writeBacks
            (call.closure.handler.run (enterAt call.depth) args
              { call.world with heap := heap }) := by
  simp only [dispatched, Closure.dispatch, accepted]
  cases acceptAll (call.closure.registry.map call.world.registry) call.world.memory
    call.closure.plan.parameters call.args call.world.heap with
  | error error => rfl
  | ok decoded =>
    rcases decoded with ⟨args, writeBacks, heap⟩
    dsimp only
    generalize call.closure.handler.run (enterAt call.depth) args
      { call.world with heap := heap } = ran
    rcases ran with ⟨outcome, left⟩
    cases outcome with
    | panicked message => rfl
    | returned result => cases result <;> rfl

/-- What came of a call. -/
def outcome (call : ClosureCall κ) : Outcome RawValue := call.dispatched.1

/-- The fault that a call raises at its end. -/
def fault? (call : ClosureCall κ) : Option Error :=
  let result := call.closure.type.signature.result.abi
  match call.outcome with
  | .returned (.ok raw) =>
      if raw.abi = result then none
      else some (MarshalError.typeMismatch result.title raw.abi.title)
  | .returned (.error error) => some error
  | .panicked message => some (.panicked (panicText message))

/-- The process after a call. -/
def after (call : ClosureCall κ) : World κ :=
  match call.fault? with
  | some fault => call.dispatched.2.raise fault
  | none => call.dispatched.2

/-- The handle that a call gives out for its result. -/
def handle? (call : ClosureCall κ) : Option (Nat × UInt64 × HostObject κ) :=
  match call.inside, call.closure.plan.result.type, call.closure.registry with
  | some (.returned (.ok (.object object)), left), .object type, some registry =>
      if object.type = type then some (registry, (left.registry registry).next, object) else none
  | _, _, _ => none

/-- The events at the end of a call, after the host code behind the closure. -/
def closing (call : ClosureCall κ) : List (Event κ) :=
  .ended call ::
    (call.handle?.map fun (registry, handle, object) => .issued registry handle object).toList ++
      (call.fault?.map (.raised 0)).toList ++ [.answered call]

/-- The journal of the host code behind the closure. -/
def insideJournal (inner : EntryJournal κ) (call : ClosureCall κ) : List (Event κ) :=
  match call.accepted with
  | .ok (args, _, heap) =>
      call.closure.handler.journal (enterAt call.depth) inner args { call.world with heap := heap }
  | .error _ => []

/-- The journal of a call of a closure. -/
def journal (inner : EntryJournal κ) (call : ClosureCall κ) : List (Event κ) :=
  .entered call :: call.insideJournal inner ++ call.closing

end ClosureCall

/-- The fault of a call that would nest too deep. -/
def depthFault : Error := .panicked "call depth exceeded"

/-- The journal of the entry under which calls may nest a number of levels deep. -/
def enterJournal : Nat → EntryJournal κ
  | 0, _, _, _ => [.raised 0 depthFault]
  | depth + 1, address, raws, world =>
      match world.codeAt? address with
      | some (.closure closure) =>
          ClosureCall.journal (enterJournal depth) ⟨depth, address, closure, raws, world⟩
      | some (.foreign _ _) | none => []

theorem enterJournal_closure {world : World κ} {address : UInt64} {closure : Closure κ}
    (found : world.codeAt? address = some (.closure closure)) (depth : Nat) (raws : List RawValue) :
    enterJournal (depth + 1) address raws world =
      ClosureCall.journal (enterJournal depth) ⟨depth, address, closure, raws, world⟩ := by
  rw [enterJournal, found]

end NativeBridge
