/-
Module: NativeBridge.Workbench.Scenario.Sessions
Purpose: Steps on sessions: making and ending them, and every operation on the one there is.
Main exports: openSession, openConfigured, closeSession, inSession, bindDescription, runProgram
-/
import NativeBridge.Session.Run
import NativeBridge.Session.Setup
import NativeBridge.Session.Symbols
import NativeBridge.Workbench.Scenario.Calls

namespace NativeBridge.Workbench

/-! ### Making and ending sessions -/

/-- Put a new session in the place of the one there is, which is given up then. -/
def replaceSession (session : Session Service) : BenchM Unit :=
  modify fun bench =>
    let world :=
      match bench.session with
      | some old => old.close bench.world
      | none => bench.world
    { bench with session := some session, world := world }

/-- Start the notes of compilers afresh. -/
def clearServiceNotes : BenchM Unit :=
  changeGlobals fun globals => { globals with serviceNotes := [] }

/-- Load a compiler behind a library. -/
def loadLibrary (loader : LibraryLoader) (files : FileSystem) (name : String)
    (world : World Key) : Except Error Service × World Key :=
  match LibraryCompiler.load loader files (stubLoader files) name world with
  | (.ok compiler, world) => (.ok (.library compiler), world)
  | (.error error, world) => (.error error, world)

/-- The loader of a step. -/
def loaderWith (files : FileSystem) (search : Option String) : LibraryLoader :=
  let loader := LibraryLoader.ofWorkingDirectory files.workingDirectory
  search.elim loader loader.addSearchPath

/-- The compiler that a step asks for. -/
def openService (backend : Backend) : BenchM (Except Error Service) := do
  match backend with
  | .recorder => return .ok (.recorder .fresh)
  | .library name search => do
      let files := (← get).files
      inWorld (loadLibrary (loaderWith files search) files name)

/-- Make a session on a compiler, with naming rules if some are asked for. -/
def openSession (backend : Backend) (request : RulesRequest) : BenchM Answer := do
  match request.rules with
  | .error error => return .failed error
  | .ok rules => do
      clearServiceNotes
      match ← openService backend with
      | .error error => return .failed error
      | .ok service => do
          let session ← inWorld (Session.create service)
          replaceSession (session.withNaming rules)
          return .done

/-- Make a session as a configuration says. -/
def openConfigured (source : ConfigSource) : BenchM Answer := do
  match source.load with
  | .error error => return .failed error
  | .ok config => do
      clearServiceNotes
      let files := source.surroundings.files
      let result ← inWorld (Session.ofConfig config (loadLibrary (loaderWith files none) files))
      match result with
      | .error error => return .failed error
      | .ok session => do
          replaceSession session
          return .done

/-- Take what compilers have noted. -/
def takeServiceNotes : BenchM Answer := do
  let notes := (← readGlobals).serviceNotes
  clearServiceNotes
  return .serviceNotes notes

/-- Give the session up and take the notes. -/
def closeSession : BenchM Answer := do
  modify fun bench =>
    match bench.session with
    | some session => { bench with session := none, world := session.close bench.world }
    | none => bench
  takeServiceNotes

/-! ### Operations -/

/-- Go on if there is a session; a step that needs one looks for it before all else. -/
def requireSession (step : BenchM Answer) : BenchM Answer := do
  match (← get).session with
  | none => return .noSession
  | some _ => step

/-- Do something with the session; without one there is nothing to do. -/
def inSession {α : Type} (operation : SessionM Service Key α) (report : α → BenchM Answer) :
    BenchM Answer := do
  let bench ← get
  match bench.session with
  | none => return .noSession
  | some session => do
      let (result, session, world) := operation.run.run (session, bench.world)
      set { bench with session := some session, world := world }
      match result with
      | .error error => return .failed error
      | .ok a => report a

/-- Do something with the session that answers nothing. -/
def tellSession (operation : SessionM Service Key Unit) : BenchM Answer :=
  inSession operation fun _ => return .done

/-- Carry out an operation that answers nothing. -/
def performSessionStep (step : SessionStep) : BenchM Answer :=
  requireSession <|
    match step with
    | .setOutputMode mode => tellSession (Session.setOutputMode mode)
    | .setLibPath path => tellSession (Session.setLibPath path)
    | .setOptions options => tellSession (Session.setOptions options)
    | .addIncludePath path => tellSession (Session.addIncludePath path)
    | .addSysincludePath path => tellSession (Session.addSysincludePath path)
    | .defineSymbol name value => tellSession (Session.defineSymbol name value)
    | .undefineSymbol name => tellSession (Session.undefineSymbol name)
    | .addLibraryPath path => tellSession (Session.addLibraryPath path)
    | .addLibrary name => tellSession (Session.addLibrary name)
    | .compileString source => tellSession (Session.compileString source)
    | .addFile path => tellSession (Session.addFile path)
    | .relocate => tellSession Session.relocate
    | .outputFile path => tellSession (Session.outputFile path)
    | .addSymbol name function =>
        match typedFunction? function with
        | some function => tellSession (Session.addSymbol name function)
        | none => return .noFunction
    | .release operand => do
        let handle ← handleOf operand
        tellSession (Session.releaseHandle handle)

/-- Register a scripted closure. -/
def addScript (name : String) (choice : TypeChoice) (script : Script) : BenchM Answer :=
  requireSession do
    match ← chooseType choice with
    | .error error => return .failed error
    | .ok type => tellSession (Session.addDynamicSymbol name type script.body)

/-- Register a closure made before, which loses its name. -/
def addClosure (name closure : String) : BenchM Answer :=
  requireSession do
    match (← get).closures.find? closure with
    | none => return .noFunction
    | some address => do
        modify fun bench => { bench with closures := bench.closures.erase closure }
        tellSession (Session.register name address)

/-- Look a function up in linked code and name it. -/
def findSymbol (name : String) (choice : TypeChoice) (as : String) : BenchM Answer :=
  requireSession do
    match ← chooseType choice with
    | .error error => return .failed error
    | .ok type =>
        inSession (Session.getSymbol name type) fun function => do
          nameFunction as function
          return .typeName function.type

/-- Look a function of a static signature up in linked code and call it. -/
def callSymbol (name : String) (shape : Function) (args : List Operand) : BenchM Answer :=
  inSession (Session.function name shape.parameters shape.result) fun function =>
    callTyped function shape args

/-- All that can be told of the session. -/
def showSession : BenchM Answer := do
  let bench ← get
  match bench.session with
  | none => return .noSession
  | some session =>
      let registry := bench.world.registry session.registry
      return .session
        { output := session.output
          retained := session.retained.length
          naming := session.naming
          live := registry.live
          inspection := session.inspect registry }

/-- Bind a description: under the rules asked for, if any are, else under the session's. -/
def bindDescription (description : TypeDescription Key) (request : Option RulesRequest) :
    BenchM Answer := do
  match (← get).session with
  | none => return .noSession
  | some session =>
      let chosen := request.elim (.ok session.naming) RulesRequest.rules
      match chosen with
      | .error error => return .failed error
      | .ok rules => do
          let planned := (Session.bindingNames description rules).mapError Error.bind
          let operation : SessionM Service Key (Except Error (List String)) :=
            tryCatch (do return .ok (← Session.bind description rules)) fun error =>
              return .error error
          inSession operation fun bound => return .bound planned bound rules.releaseSymbol

/-- Show diagnostics to a handler that notes them. -/
def installHandler : BenchM Answer :=
  tellSession (Session.setDiagnosticHandler fun diagnostic world =>
    { world with globals := world.globals.noteHost (.diagnostic diagnostic.text) })

/-- Give the session's compiler a program to run, and no reports of an earlier one. -/
def loadProgram (program : Program) : BenchM Unit :=
  modify fun bench =>
    { bench with
      session := bench.session.map fun session =>
        { session with
          service := session.service.mapCompiler fun compiler =>
            { compiler with program := program, inside := [] } } }

/-- Run a program in the session. -/
def runProgram (args : List String) (program : Program) : BenchM Answer := do
  loadProgram program
  let operation : SessionM Service Key (Except Error Int32) :=
    tryCatch (do return .ok (← Session.run args)) fun error => return .error error
  inSession operation fun result => do
    let inside := (← get).session.elim [] fun session => session.service.compiler.inside
    return .ran result inside

end NativeBridge.Workbench
