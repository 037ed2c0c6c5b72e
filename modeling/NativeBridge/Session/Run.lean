/-
Module: NativeBridge.Session.Run
Purpose: Linking, running and writing out what a session has compiled, and calling into it.
Main exports: Session.relocate, Session.run, Session.outputFile, Session.symbolAddress,
  Session.getSymbol, Session.function
-/
import NativeBridge.Session.Basic
import NativeBridge.Call

namespace NativeBridge

variable {σ κ : Type} [HostProgram κ] [CompilationService σ κ]

namespace Session

/-- Fail unless the output mode is memory. -/
def requireMemory : SessionM σ κ Unit := do
  let mode ← requireOutput
  require (mode == .memory) (LinkError.wrongOutputMode OutputMode.memory.word mode.word)

/-- Fail unless something is compiled and nothing is linked. -/
def requireCompiled : SessionM σ κ Unit := do
  match (← current).stage with
  | .empty => throw (.link .notCompiled)
  | .relocated => throw (.link .alreadyRelocated)
  | .compiled => return

/-- Link compiled code into this process. -/
def relocate : SessionM σ κ Unit := do
  requireMemory
  requireCompiled
  request .relocate
  update fun session => { session with stage := .relocated }

/-- Let the compiler run the program with no fault pending.  The fault that host code raised on the
way is the second result. -/
def runIsolated (args : List String) :
    SessionM σ κ (Except Error Int32 × Option Error) := do
  let (session, world) ← get
  let ((result, service), fault, world) := world.isolate fun world =>
    let (result, service, world) := CompilationService.run args session.service world
    ((result, service), world)
  set ({ session with service := service }, world)
  return (result, fault)

/-- Run the compiled program with arguments and tell its exit code.  The session counts as linked
afterwards, whatever came of it.  A fault that host code raised goes before the compiler's own
answer. -/
def run (args : List String) : SessionM σ κ Int32 := do
  requireMemory
  requireCompiled
  let (result, fault) ← runIsolated args
  update fun session => { session with stage := .relocated }
  match fault with
  | some error => throw error
  | none => ofExcept result

/-- Write what was compiled to a file. -/
def outputFile (path : String) : SessionM σ κ Unit := do
  let mode ← requireOutput
  require mode.emitsFile (LinkError.wrongOutputMode "exe, dll, obj or preprocess" mode.word)
  require ((← current).stage != .empty) LinkError.notCompiled
  request (.outputFile path)

/-- The address of a name in linked code. -/
def symbolAddress (name : String) : SessionM σ κ UInt64 := do
  match (← current).stage with
  | .empty => throw (.link .notCompiled)
  | .compiled => throw (.link .notRelocated)
  | .relocated =>
      let (session, world) ← get
      let (address, service, world) :=
        CompilationService.symbolAddress name session.service world
      set ({ session with service := service }, world)
      match address with
      | some address => return address
      | none => throw (.link (.symbolNotFound name))

/-- The function of a callable type under a name in linked code. -/
def getSymbol (name : String) (type : CallableType κ) : SessionM σ κ (ForeignFunction κ) := do
  let address ← symbolAddress name
  ofExcept ((ForeignFunction.atAddress address type).mapError Error.callable)

/-- The function of a static signature under a name in linked code; its callable type is made even
if there is no such name. -/
def function (name : String) (parameters : List (MarshalType κ)) (result : MarshalType κ) :
    SessionM σ κ (ForeignFunction κ) := do
  let type ← inWorld fun world =>
    match world.internType (.ofMarshal parameters result) with
    | .ok (type, world) => (.ok type, world)
    | .error error => (.error error, world)
  getSymbol name type

end Session

end NativeBridge
