/-
Module: NativeBridge.Compiler.LibraryCompiler
Purpose: The compilation service over a native compiler's shared library.
Main exports: DiagnosticSink, LibraryCompiler, LibraryCompiler.load, LibraryRun.run,
  LibraryCompiler.perform
-/
import NativeBridge.Compiler.Library
import NativeBridge.Compiler.Service
import NativeBridge.LibraryLoader

namespace NativeBridge

variable {τ κ : Type} [HostProgram κ]

/-!
Diagnostics are collected as they are reported, and shown to a handler if there is one.  Most calls
empty the collection when they return, and a call that fails may put what it found there into its
error.  Setting the library path, defining and undefining symbols, and looking addresses up do not
empty it.

Texts cross as C strings.  One that holds a NUL is refused before the library is called.
-/

/-- Where reported diagnostics go. -/
structure DiagnosticSink (κ : Type) [HostProgram κ] where
  /-- The diagnostics not yet taken out, in the order of their reports. -/
  collected : List Diagnostic
  handler : Option (DiagnosticHandler κ)

namespace DiagnosticSink

/-- Nothing collected and nobody shown anything. -/
def empty : DiagnosticSink κ := ⟨[], none⟩

/-- Take the collected diagnostics out. -/
def drained (sink : DiagnosticSink κ) : DiagnosticSink κ :=
  { sink with collected := [] }

/-- Receive one reported line. -/
def receive (sink : DiagnosticSink κ) (line : List UInt8) (world : World κ) :
    DiagnosticSink κ × World κ :=
  let diagnostic := Diagnostic.parse (Text.Utf8.decodeLossy line)
  let world :=
    match sink.handler with
    | some handler => handler diagnostic world
    | none => world
  ({ sink with collected := sink.collected ++ [diagnostic] }, world)

end DiagnosticSink

/-- Let a library call unfold: its answer, its state, and what was reported and done. -/
def LibraryRun.run {α : Type} : LibraryRun τ κ α → DiagnosticSink κ → World κ →
    α × τ × DiagnosticSink κ × World κ
  | .finish answer state, sink, world => (answer, state, sink, world)
  | .report line rest, sink, world =>
      let (sink, world) := sink.receive line world
      rest.run sink world
  | .act step next, sink, world =>
      let (state, world) := step world
      (next state).run sink world

/-- A state of a compiler library with its diagnostics. -/
structure LibraryCompiler (τ κ : Type) [HostProgram κ] where
  state : τ
  sink : DiagnosticSink κ

namespace LibraryCompiler

/-! ### Loading -/

/-- Make a compiler from a loaded library, which has to export all functions. -/
def ofImage (image : LibraryImage τ κ) (library : String) (world : World κ) :
    Except LoadError (LibraryCompiler τ κ) × World κ :=
  match image.missing? with
  | some name => (.error (.symbolNotFound library name), world)
  | none =>
      match image.create world with
      | (none, world) => (.error (.loadFailed (library ++ ": tcc_new returned null")), world)
      | (some state, world) => (.ok ⟨state, .empty⟩, world)

/-- Find and load a compiler library by short name or path. -/
def load (loader : LibraryLoader) (files : FileSystem)
    (system : SystemLoader (LibraryImage τ κ)) (library : String) (world : World κ) :
    Except LoadError (LibraryCompiler τ κ) × World κ :=
  match loader.load files system library with
  | .error error => (.error error, world)
  | .ok image => ofImage image library world

/-! ### Calls -/

variable [CompilerLibrary τ κ]

/-- What comes of a service call: an answer and a compiler, in a world. -/
abbrev Reply (τ κ : Type) [HostProgram κ] : Type :=
  Except Error Unit × LibraryCompiler τ κ × World κ

/-- Call the library. -/
def invoke (compiler : LibraryCompiler τ κ) (call : LibraryCall) (world : World κ) :
    Int32 × LibraryCompiler τ κ × World κ :=
  let (code, state, sink, world) :=
    (CompilerLibrary.call call compiler.state).run compiler.sink world
  (code, ⟨state, sink⟩, world)

/-- The same compiler with nothing collected. -/
def drained (compiler : LibraryCompiler τ κ) : LibraryCompiler τ κ :=
  { compiler with sink := compiler.sink.drained }

/-- Call the library for its effect alone. -/
def tell (compiler : LibraryCompiler τ κ) (call : LibraryCall) (world : World κ) : Reply τ κ :=
  let (_, compiler, world) := compiler.invoke call world
  (.ok (), compiler, world)

/-- Call the library and check its number; a failure is told with what was collected. -/
def check (compiler : LibraryCompiler τ κ) (call : LibraryCall)
    (failure : List Diagnostic → Error) (world : World κ) : Reply τ κ :=
  let (code, compiler, world) := compiler.invoke call world
  if code < 0 then (.error (failure compiler.sink.collected), compiler.drained, world)
  else (.ok (), compiler.drained, world)

/-- Call the library for options: they are refused if an error is found collected. -/
def checkOptions (compiler : LibraryCompiler τ κ) (options : String) (world : World κ) :
    Reply τ κ :=
  let (_, compiler, world) := compiler.invoke (.setOptions options) world
  if compiler.sink.collected.any Diagnostic.isError then
    (.error (CompileError.invalidOption options), compiler.drained, world)
  else (.ok (), compiler.drained, world)

/-- Whether a text can cross as a C string. -/
def isCText (text : String) : Bool :=
  !text.toList.contains '\x00'

/-- Go on only if texts can cross; the first that cannot is told. -/
def withTexts (texts : List String) (compiler : LibraryCompiler τ κ) (world : World κ)
    (next : Reply τ κ) : Reply τ κ :=
  match texts.find? fun text => !isCText text with
  | some text => (.error (CompileError.invalidArgument text), compiler, world)
  | none => next

/-- Answer a service call. -/
def perform (call : ServiceCall) (compiler : LibraryCompiler τ κ) (world : World κ) :
    Reply τ κ :=
  match call with
  | .setLibPath path =>
      withTexts [path] compiler world (compiler.tell (.setLibPath path) world)
  | .setOptions options =>
      withTexts [options] compiler world (compiler.checkOptions options world)
  | .addIncludePath path =>
      withTexts [path] compiler world
        (compiler.check (.addIncludePath path) (fun _ => CompileError.invalidArgument path) world)
  | .addSysincludePath path =>
      withTexts [path] compiler world
        (compiler.check (.addSysincludePath path)
          (fun _ => CompileError.invalidArgument path) world)
  | .defineSymbol name value =>
      withTexts (name :: value.toList) compiler world
        (compiler.tell (.defineSymbol name value) world)
  | .undefineSymbol name =>
      withTexts [name] compiler world (compiler.tell (.undefineSymbol name) world)
  | .addFile path =>
      withTexts [path] compiler world
        (compiler.check (.addFile path) (fun found => CompileError.failed found) world)
  | .compileString source =>
      withTexts [source] compiler world
        (compiler.check (.compileString source) (fun found => CompileError.failed found) world)
  | .setOutputMode mode =>
      compiler.check (.setOutputType mode.code)
        (fun _ => CompileError.invalidOption s!"output mode {mode.word}") world
  | .addLibraryPath path =>
      withTexts [path] compiler world
        (compiler.check (.addLibraryPath path) (fun _ => CompileError.invalidArgument path) world)
  | .addLibrary name =>
      withTexts [name] compiler world
        (compiler.check (.addLibrary name) (fun _ => LinkError.libraryNotFound name) world)
  | .addSymbol name address =>
      if isCText name then
        compiler.check (.addSymbol name address) (fun _ => SymbolError.invalidName name) world
      else (.error (SymbolError.invalidName name), compiler, world)
  | .outputFile path =>
      withTexts [path] compiler world
        (compiler.check (.outputFile path) (fun _ => LinkError.outputFailed path) world)
  | .relocate =>
      compiler.check .relocate (fun found => LinkError.relocationFailed found) world

/-- Run the compiled program; its exit code is never a failure. -/
def run (args : List String) (compiler : LibraryCompiler τ κ) (world : World κ) :
    Except Error Int32 × LibraryCompiler τ κ × World κ :=
  match args.find? fun text => !isCText text with
  | some text => (.error (CompileError.invalidArgument text), compiler, world)
  | none =>
      let (code, compiler, world) := compiler.invoke (.run args) world
      (.ok code, compiler.drained, world)

/-- The address of a name in linked code. -/
def symbolAddress (name : String) (compiler : LibraryCompiler τ κ) (world : World κ) :
    Option UInt64 × LibraryCompiler τ κ × World κ :=
  if isCText name then
    let (address, state, sink, world) :=
      (CompilerLibrary.symbol name compiler.state).run compiler.sink world
    (if address = 0 then none else some address, ⟨state, sink⟩, world)
  else (none, compiler, world)

/-- Show diagnostics to a handler from now on. -/
def setDiagnosticHandler (handler : DiagnosticHandler κ) (compiler : LibraryCompiler τ κ)
    (world : World κ) : LibraryCompiler τ κ × World κ :=
  ({ compiler with sink := { compiler.sink with handler := some handler } }, world)

/-- Delete the library's state. -/
def close (compiler : LibraryCompiler τ κ) (world : World κ) : World κ :=
  CompilerLibrary.delete compiler.state world

instance : CompilationService (LibraryCompiler τ κ) κ where
  perform := perform
  run := run
  symbolAddress := symbolAddress
  setDiagnosticHandler := setDiagnosticHandler
  close := close

end LibraryCompiler

end NativeBridge
