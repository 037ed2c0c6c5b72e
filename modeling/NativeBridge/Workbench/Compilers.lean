/-
Module: NativeBridge.Workbench.Compilers
Purpose: Compilers that note every call they get, fail on request, and run a program that is given
  to them as a list of calls.
Main exports: CallRequest, CallReport, performCall, Program, ScriptedCompiler, Service,
  stubImage, stubLoader
-/
import NativeBridge.Call
import NativeBridge.Compiler.LibraryCompiler
import NativeBridge.Session.Basic
import NativeBridge.Workbench.Script

namespace NativeBridge.Workbench

/-! ### Calls from the host -/

/-- How deep calls may nest in the workbench. -/
def callDepth : Nat := 10000

/-- The entry that the workbench calls native code through. -/
def enter : Entry Key := enterAt callDepth

/-- How a native function is to be called. -/
structure CallRequest where
  args : List Operand
  /-- Whether the call goes with raw values. -/
  raw : Bool
  /-- Whether a pointer that comes back is to be read as a C string. -/
  reads : Bool
deriving Repr, Inhabited

/-- What came of a call. -/
inductive CallReport where
  | value (shown : Snapshot)
  /-- The C string at the pointer that came back, if it is not null. -/
  | text (content : Option String)
  | failed (error : Error)
  /-- The call panicked before it reached native code. -/
  | panicked (message : String)
deriving Repr, Inhabited

/-- The text at an address. -/
def textAt (memory : Memory) (address : UInt64) : Option String :=
  if address = 0 then none else some (Text.Utf8.decodeLossy (memory.cString address))

/-- Report a value that came back. -/
def reportValue (reads : Bool) (value : Value Key) (world : World Key) : CallReport :=
  match reads, value with
  | true, .pointer address => .text (textAt world.memory address)
  | _, value => .value (.of world.globals world.heap value)

/-- Report a raw value that came back. -/
def reportRaw (reads : Bool) (raw : RawValue) (world : World Key) : CallReport :=
  match reads, raw with
  | true, .pointer address => .text (textAt world.memory address)
  | _, raw => .value (.ofRaw world.globals raw)

/-- What can be kept of a raw value that came back: an address. -/
def keepRaw : RawValue → Option (Value Key)
  | .pointer address => some (.pointer address)
  | _ => none

/-- Call a native function, its operands looked up in a table of saved values.  The second result is
what can be kept of the answer. -/
def performCall (function : ForeignFunction Key) (request : CallRequest)
    (table : Names (Value Key)) (world : World Key) :
    CallReport × Option (Value Key) × World Key :=
  let (values, world) := Operand.evaluateAll table request.args world
  if request.raw then
    let (raws, world) := toRawAll values world
    match function.callRaw enter raws world with
    | (.error error, world) => (.failed error, none, world)
    | (.ok raw, world) => (reportRaw request.reads raw world, keepRaw raw, world)
  else
    match function.call enter values world with
    | (.panicked message, world) => (.panicked (NativeBridge.panicText message), none, world)
    | (.returned (.error error), world) => (.failed error, none, world)
    | (.returned (.ok value), world) => (reportValue request.reads value world, some value, world)

/-! ### Programs -/

/-- One call of a program, to a registered name. -/
structure ProgramCall where
  symbol : String
  signature : Signature Key
  request : CallRequest
  /-- The name to keep the answer under, for the calls after it. -/
  keepAs : Option String
deriving Repr, Inhabited

/-- What came of one call of a program. -/
inductive ProgramReport where
  | unknownSymbol
  | called (report : CallReport)
deriving Repr, Inhabited

/-- A compiled program: the calls it makes and its exit code. -/
structure Program where
  calls : List ProgramCall
  exitCode : Int32
deriving Repr, Inhabited

/-- A program that does nothing. -/
def Program.empty : Program := ⟨[], 0⟩

/-- Keep a value under a name, if there are both. -/
def keep (table : Names (Value Key)) (name : Option String) (value : Option (Value Key)) :
    Names (Value Key) :=
  match name, value with
  | some name, some value => table.set name value
  | _, _ => table

/-- Make one call of a program. -/
def ProgramCall.perform (call : ProgramCall) (symbols : Names UInt64)
    (table : Names (Value Key)) (world : World Key) :
    ProgramReport × Names (Value Key) × World Key :=
  match symbols.find? call.symbol with
  | none => (.unknownSymbol, table, world)
  | some address =>
      match world.internType call.signature with
      | .error error => (.called (.failed error), table, world)
      | .ok (type, world) =>
          let (report, value, world) := performCall ⟨address, type⟩ call.request table world
          (.called report, keep table call.keepAs value, world)

/-- Make the calls of a program in order. -/
def performCalls (symbols : Names UInt64) :
    List ProgramCall → Names (Value Key) → World Key → List ProgramReport × World Key
  | [], _, world => ([], world)
  | call :: rest, table, world =>
      let (report, table, world) := call.perform symbols table world
      let (reports, world) := performCalls symbols rest table world
      (report :: reports, world)

/-! ### A compiler that does as it is told -/

/-- The state of a compiler that does as its texts tell it. -/
structure ScriptedCompiler where
  /-- The addresses it was given, by name. -/
  symbols : Names UInt64
  /-- Whether some text has told it to refuse output modes. -/
  refusesModes : Bool
  /-- Whether some text has told it to refuse linking. -/
  refusesLinking : Bool
  program : Program
  /-- What came of the calls of the program it ran. -/
  inside : List ProgramReport

namespace ScriptedCompiler

/-- A compiler that was told nothing. -/
def fresh : ScriptedCompiler := ⟨.empty, false, false, .empty, []⟩

/-- Whether a text tells the compiler to fail. -/
def failsOn (text : String) : Bool :=
  Text.occursIn "zzfail" text

/-- Take the lasting orders of a text. -/
def heed (compiler : ScriptedCompiler) (text : String) : ScriptedCompiler :=
  { compiler with
    refusesModes := compiler.refusesModes || Text.occursIn "zzbadmode" text
    refusesLinking := compiler.refusesLinking || Text.occursIn "zznoreloc" text }

/-- The start of the lines of a text that are diagnostics to report. -/
def diagnosticMark : List Char := "@diag ".toList

/-- The diagnostics that a text asks for. -/
def diagnosticLines (text : String) : List String :=
  (Text.splitLines text).filterMap fun line =>
    (Text.stripStart? diagnosticMark line.toList).map String.ofList

/-- Note a call in the world. -/
def note (entry : ServiceNote) (world : World Key) : World Key :=
  { world with globals := world.globals.noteService entry }

/-- Note a call with a text. -/
def noteText (call text : String) : World Key → World Key :=
  note ⟨call, [.text text]⟩

/-- Run the program. -/
def execute (compiler : ScriptedCompiler) (world : World Key) : ScriptedCompiler × World Key :=
  let (reports, world) := performCalls compiler.symbols compiler.program.calls .empty world
  ({ compiler with inside := reports }, world)

/-- Add a name. -/
def withSymbol (compiler : ScriptedCompiler) (name : String) (address : UInt64) :
    ScriptedCompiler :=
  { compiler with symbols := compiler.symbols.set name address }

/-! ### As a compilation service -/

/-- What comes of a call to a compilation service. -/
abbrev Reply : Type := Except Error Unit × ScriptedCompiler × World Key

/-- Note a call with a text, and fail with an error if the text says so. -/
def obey (call text : String) (error : Error) (compiler : ScriptedCompiler)
    (world : World Key) : Reply :=
  (if failsOn text then .error error else .ok (), compiler.heed text, noteText call text world)

/-- The failure of a compilation that the text asks for. -/
def compileFailure (text : String) : Error :=
  CompileError.failed ((diagnosticLines text).map Diagnostic.parse)

/-- Answer a call as a compilation service. -/
def perform (call : ServiceCall) (compiler : ScriptedCompiler) (world : World Key) : Reply :=
  match call with
  | .setLibPath path =>
      compiler.obey "set_lib_path" path (CompileError.invalidArgument path) world
  | .setOptions options =>
      compiler.obey "set_options" options (CompileError.invalidOption options) world
  | .addIncludePath path =>
      compiler.obey "add_include_path" path (CompileError.invalidArgument path) world
  | .addSysincludePath path =>
      compiler.obey "add_sysinclude_path" path (CompileError.invalidArgument path) world
  | .defineSymbol name value =>
      (if failsOn name then .error (CompileError.invalidArgument name) else .ok (),
        compiler.heed name,
        note ⟨"define_symbol", [.text name, value.elim .absent .text]⟩ world)
  | .undefineSymbol name =>
      compiler.obey "undefine_symbol" name (CompileError.invalidArgument name) world
  | .addFile path => compiler.obey "add_file" path (compileFailure path) world
  | .compileString source =>
      compiler.obey "compile_string" source (compileFailure source) world
  | .setOutputMode mode =>
      (if compiler.refusesModes then
          .error (CompileError.invalidOption s!"output mode {mode.word}")
        else .ok (),
        compiler, noteText "set_output_mode" mode.word world)
  | .addLibraryPath path =>
      compiler.obey "add_library_path" path (CompileError.invalidArgument path) world
  | .addLibrary name => compiler.obey "add_library" name (LinkError.libraryNotFound name) world
  | .addSymbol name address =>
      let (result, compiler, world) :=
        compiler.obey "add_symbol" name (SymbolError.invalidName name) world
      (result, if result.isOk then compiler.withSymbol name address else compiler, world)
  | .outputFile path => compiler.obey "output_file" path (LinkError.outputFailed path) world
  | .relocate =>
      (if compiler.refusesLinking then .error (LinkError.relocationFailed []) else .ok (),
        compiler, note ⟨"relocate", []⟩ world)

/-- Run the program as a compilation service. -/
def run (args : List String) (compiler : ScriptedCompiler) (world : World Key) :
    Except Error Int32 × ScriptedCompiler × World Key :=
  let (compiler, world) := compiler.execute (note ⟨"run", [.texts args]⟩ world)
  (.ok compiler.program.exitCode, compiler, world)

/-- The address of a name. -/
def symbolAddress (name : String) (compiler : ScriptedCompiler) (world : World Key) :
    Option UInt64 × ScriptedCompiler × World Key :=
  (compiler.symbols.find? name, compiler, noteText "symbol_address" name world)

instance : CompilationService ScriptedCompiler Key where
  perform := perform
  run := run
  symbolAddress := symbolAddress
  setDiagnosticHandler := fun _ compiler world =>
    (compiler, note ⟨"set_diagnostic_handler", []⟩ world)
  close := fun _ world => world

/-! ### As a compiler library -/

/-- Report lines as diagnostics, then go on. -/
def reportAll (lines : List String) (rest : LibraryRun ScriptedCompiler Key Int32) :
    LibraryRun ScriptedCompiler Key Int32 :=
  lines.foldr (fun line rest => .report (Text.Utf8.encode line) rest) rest

/-- Note a call and go on. -/
def noting {α : Type} (entry : ServiceNote) (compiler : ScriptedCompiler)
    (rest : LibraryRun ScriptedCompiler Key α) : LibraryRun ScriptedCompiler Key α :=
  .act (fun world => (compiler, note entry world)) fun _ => rest

/-- A library function of texts, the first of which gives the orders: it reports the diagnostics
asked for, and its number says whether it fails. -/
def obeyAsLibrary (call : String) (text : String) (others : List String)
    (success : ScriptedCompiler → ScriptedCompiler) (compiler : ScriptedCompiler) :
    LibraryRun ScriptedCompiler Key Int32 :=
  let compiler := compiler.heed text
  noting ⟨call, .text text :: others.map .text⟩ compiler
    (reportAll (diagnosticLines text)
      (if failsOn text then .finish (-1) compiler else .finish 0 (success compiler)))

/-- Link as a library function. -/
def linkAsLibrary (compiler : ScriptedCompiler) : LibraryRun ScriptedCompiler Key Int32 :=
  noting ⟨"relocate", [.text "auto"]⟩ compiler
    (if compiler.refusesLinking then
      reportAll ["warning: about to fail", "error: undefined symbol 'noreloc'"]
        (.finish (-1) compiler)
    else .finish 0 compiler)

/-- Run the program as a library function. -/
def runAsLibrary (args : List String) (compiler : ScriptedCompiler) :
    LibraryRun ScriptedCompiler Key Int32 :=
  let compiler := args.foldl heed compiler
  let start : ServiceNote :=
    ⟨"run", .text (toString args.length) :: (args.head?.map NoteItem.text).toList⟩
  let notes : List ServiceNote := (args.drop 1).map fun arg => ⟨"arg", [.text arg]⟩
  (start :: notes).foldr (fun entry rest => noting entry compiler rest)
    (reportAll (args.flatMap diagnosticLines)
      (.act compiler.execute fun compiler => .finish compiler.program.exitCode compiler))

/-- What the library does when one of its functions is called. -/
def callAsLibrary (call : LibraryCall) (compiler : ScriptedCompiler) :
    LibraryRun ScriptedCompiler Key Int32 :=
  match call with
  | .setLibPath path => compiler.obeyAsLibrary "set_lib_path" path [] id
  | .setOptions options => compiler.obeyAsLibrary "set_options" options [] id
  | .addIncludePath path => compiler.obeyAsLibrary "add_include_path" path [] id
  | .addSysincludePath path => compiler.obeyAsLibrary "add_sysinclude_path" path [] id
  | .defineSymbol name value => compiler.obeyAsLibrary "define_symbol" name value.toList id
  | .undefineSymbol name => compiler.obeyAsLibrary "undefine_symbol" name [] id
  | .addFile path => compiler.obeyAsLibrary "add_file" path [] id
  | .compileString source => compiler.obeyAsLibrary "compile_string" source [] id
  | .setOutputType code =>
      noting ⟨"set_output_type", [.text (toString code.toInt)]⟩ compiler
        (.finish (if compiler.refusesModes then -1 else 0) compiler)
  | .addLibraryPath path => compiler.obeyAsLibrary "add_library_path" path [] id
  | .addLibrary name => compiler.obeyAsLibrary "add_library" name [] id
  | .addSymbol name address =>
      compiler.obeyAsLibrary "add_symbol" name [] fun compiler => compiler.withSymbol name address
  | .outputFile path => compiler.obeyAsLibrary "output_file" path [] id
  | .run args => compiler.runAsLibrary args
  | .relocate => compiler.linkAsLibrary

instance : CompilerLibrary ScriptedCompiler Key where
  call := callAsLibrary
  symbol := fun name compiler =>
    noting ⟨"get_symbol", [.text name]⟩ compiler
      (.finish ((compiler.symbols.find? name).getD 0) compiler)
  delete := fun _ world => note ⟨"delete", []⟩ world

end ScriptedCompiler

/-! ### Library files -/

/-- The library that lacks nothing. -/
def stubLibrary : LibraryImage ScriptedCompiler Key where
  exports := fun _ => true
  create := fun world => (some .fresh, ScriptedCompiler.note ⟨"new", []⟩ world)

/-- The library that exports nothing. -/
def emptyLibrary : LibraryImage ScriptedCompiler Key :=
  { stubLibrary with exports := fun _ => false }

/-- The library that cannot run programs. -/
def partialLibrary : LibraryImage ScriptedCompiler Key :=
  { stubLibrary with exports := fun name => name != "tcc_run" }

/-- The library that makes no state. -/
def refusingLibrary : LibraryImage ScriptedCompiler Key :=
  { stubLibrary with create := fun world => (none, world) }

/-- The names of the library files, which all lie in the working directory. -/
def libraryFiles : List (String × LibraryImage ScriptedCompiler Key) :=
  [("libstubtcc.so", stubLibrary), ("libstubempty.so", emptyLibrary),
    ("libstubpartial.so", partialLibrary), ("libstubnull.so", refusingLibrary)]

/-- Load the library file at a path.  A bare name is not looked for where the process is. -/
def stubLoader (files : FileSystem) : SystemLoader (LibraryImage ScriptedCompiler Key) :=
  fun target =>
    let found := libraryFiles.find? fun entry =>
      target.toList.contains '/' &&
        files.samePath target (Path.join files.workingDirectory entry.1)
    match found with
    | some entry => .ok entry.2
    | none => .error "cannot open shared object file"

/-! ### Either sort of compiler -/

/-- A compiler of the workbench: one that notes service calls, or one behind a library. -/
inductive Service where
  | recorder (compiler : ScriptedCompiler)
  | library (compiler : LibraryCompiler ScriptedCompiler Key)

namespace Service

/-- Change the compiler behind a service. -/
def mapCompiler (change : ScriptedCompiler → ScriptedCompiler) : Service → Service
  | recorder compiler => .recorder (change compiler)
  | library compiler => .library { compiler with state := change compiler.state }

/-- The compiler behind a service. -/
def compiler : Service → ScriptedCompiler
  | recorder compiler => compiler
  | library compiler => compiler.state

instance : CompilationService Service Key where
  perform call
    | recorder compiler, world =>
        let (result, compiler, world) := CompilationService.perform call compiler world
        (result, .recorder compiler, world)
    | library compiler, world =>
        let (result, compiler, world) := CompilationService.perform call compiler world
        (result, .library compiler, world)
  run args
    | recorder compiler, world =>
        let (result, compiler, world) := CompilationService.run args compiler world
        (result, .recorder compiler, world)
    | library compiler, world =>
        let (result, compiler, world) := CompilationService.run args compiler world
        (result, .library compiler, world)
  symbolAddress name
    | recorder compiler, world =>
        let (address, compiler, world) := CompilationService.symbolAddress name compiler world
        (address, .recorder compiler, world)
    | library compiler, world =>
        let (address, compiler, world) := CompilationService.symbolAddress name compiler world
        (address, .library compiler, world)
  setDiagnosticHandler handler
    | recorder compiler, world =>
        let (compiler, world) := CompilationService.setDiagnosticHandler handler compiler world
        (.recorder compiler, world)
    | library compiler, world =>
        let (compiler, world) := CompilationService.setDiagnosticHandler handler compiler world
        (.library compiler, world)
  close
    | recorder compiler, world => CompilationService.close compiler world
    | library compiler, world => CompilationService.close compiler world

end Service

end NativeBridge.Workbench
