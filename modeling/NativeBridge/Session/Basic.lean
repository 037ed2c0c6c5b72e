/-
Module: NativeBridge.Session.Basic
Purpose: A compilation session: a native compiler, the handles and closures its code can reach, and
  the steps from configuration to compilation.
Main exports: Stage, Session, SessionM, Session.create, Session.setOutputMode, Session.addLibrary,
  Session.compileString, Session.addFile, Session.inspect
-/
import NativeBridge.Compiler.Service
import NativeBridge.Naming.Rules

namespace NativeBridge

variable {σ κ : Type} [HostProgram κ] [CompilationService σ κ]

/-!
A session goes through three stages: nothing compiled, something compiled, linked.  The output mode
has to be chosen while nothing is compiled.  Libraries named before that wait until it is chosen.
The session checks the order of operations; all else is up to its compilation service.
-/

/-- How far a session has come. -/
inductive Stage where
  | empty
  | compiled
  | relocated
deriving Repr, Inhabited, DecidableEq

/-- The name of a stage in inspection output. -/
def Stage.title : Stage → String
  | empty => "Empty"
  | compiled => "Compiled"
  | relocated => "Relocated"

/-- A compiler with everything its code can reach. -/
structure Session (σ : Type) where
  service : σ
  /-- The registry of the handles that bound members take and give. -/
  registry : Nat
  naming : Naming.NamingRules
  output : Option OutputMode
  stage : Stage
  /-- Libraries named while no output mode was chosen, in order. -/
  pendingLibraries : List String
  /-- The registered names, latest first. -/
  symbols : List String
  /-- The registered names that release handles. -/
  releaseSymbols : List String
  /-- The addresses of the closures that registered names stand for, in order. -/
  retained : List UInt64

/-- An operation on a session in a world.  What it has changed before it fails stays changed. -/
abbrev SessionM (σ κ : Type) [HostProgram κ] (α : Type) : Type :=
  ExceptT Error (StateM (Session σ × World κ)) α

namespace Session

/-! ### Steps that operations are made of -/

/-- The session as it is. -/
def current : SessionM σ κ (Session σ) := do
  let (session, _) ← get
  return session

/-- Change the session. -/
def update (change : Session σ → Session σ) : SessionM σ κ Unit :=
  modify fun (session, world) => (change session, world)

/-- Do something in the world alone. -/
def inWorld {α : Type} (step : World κ → Except Error α × World κ) : SessionM σ κ α := do
  let (session, world) ← get
  let (result, world) := step world
  set (session, world)
  ofExcept result

/-- Let the compiler answer a call. -/
def request (call : ServiceCall) : SessionM σ κ Unit := do
  let (session, world) ← get
  let (result, service, world) := CompilationService.perform call session.service world
  set ({ session with service := service }, world)
  ofExcept result

/-- Fail unless a condition holds. -/
def require (condition : Bool) (error : Error) : SessionM σ κ Unit :=
  if condition then return else throw error

/-! ### Creation and configuration -/

/-- A session on a compiler, with a registry of its own. -/
def create (service : σ) (world : World κ) : Session σ × World κ :=
  let (registry, world) := world.addRegistry
  (⟨service, registry, .builtin, none, .empty, [], [], [], []⟩, world)

/-- The same session with other naming rules. -/
def withNaming (session : Session σ) (naming : Naming.NamingRules) : Session σ :=
  { session with naming := naming }

/-- Choose what compilation produces.  The libraries that waited for it are handed over; if the
compiler refuses one, those after it are not. -/
def setOutputMode (mode : OutputMode) : SessionM σ κ Unit := do
  let session ← current
  require (session.stage == .empty) CompileError.outputModeLocked
  request (.setOutputMode mode)
  let waiting := (← current).pendingLibraries
  update fun session => { session with output := some mode, pendingLibraries := [] }
  waiting.forM fun library => request (.addLibrary library)

/-- Set the directory of the compiler's own files. -/
def setLibPath (path : String) : SessionM σ κ Unit := request (.setLibPath path)

/-- Set options as on a command line. -/
def setOptions (options : String) : SessionM σ κ Unit := request (.setOptions options)

/-- Look for headers in another directory. -/
def addIncludePath (path : String) : SessionM σ κ Unit := request (.addIncludePath path)

/-- Look for system headers in another directory. -/
def addSysincludePath (path : String) : SessionM σ κ Unit := request (.addSysincludePath path)

/-- Define a preprocessor symbol. -/
def defineSymbol (name : String) (value : Option String) : SessionM σ κ Unit :=
  request (.defineSymbol name value)

/-- Undefine a preprocessor symbol. -/
def undefineSymbol (name : String) : SessionM σ κ Unit := request (.undefineSymbol name)

/-- Look for libraries in another directory. -/
def addLibraryPath (path : String) : SessionM σ κ Unit := request (.addLibraryPath path)

/-- Link against a library, as soon as the output mode is chosen. -/
def addLibrary (name : String) : SessionM σ κ Unit := do
  if (← current).output.isNone then
    update fun session =>
      { session with pendingLibraries := session.pendingLibraries ++ [name] }
  else request (.addLibrary name)

/-- Show diagnostics to a handler from now on. -/
def setDiagnosticHandler (handler : DiagnosticHandler κ) : SessionM σ κ Unit := do
  let (session, world) ← get
  let (service, world) :=
    CompilationService.setDiagnosticHandler handler session.service world
  set ({ session with service := service }, world)

/-! ### Compilation -/

/-- The output mode, which has to be chosen. -/
def requireOutput : SessionM σ κ OutputMode := do
  match (← current).output with
  | some mode => return mode
  | none => throw (.compile .outputModeNotSet)

/-- Compile with a call: the output mode has to be chosen and nothing may be linked yet. -/
def compileWith (call : ServiceCall) : SessionM σ κ Unit := do
  let _ ← requireOutput
  require ((← current).stage != .relocated) LinkError.alreadyRelocated
  request call
  update fun session => { session with stage := .compiled }

/-- Compile a text. -/
def compileString (source : String) : SessionM σ κ Unit := compileWith (.compileString source)

/-- Compile or link a file. -/
def addFile (path : String) : SessionM σ κ Unit := compileWith (.addFile path)

/-! ### End and inspection -/

/-- Give a session up. -/
def close (session : Session σ) (world : World κ) : World κ :=
  CompilationService.close session.service world

/-- The inspection text of a session, given its registry. -/
def inspect (session : Session σ) (registry : Registry κ) : String :=
  let output :=
    match session.output with
    | some mode => s!"Some({mode.title})"
    | none => "None"
  s!"Session \x7b output: {output}, stage: {session.stage.title}, " ++
    s!"registry: {registry.inspect}, retained: {session.retained.length} \x7d"

end Session

end NativeBridge
