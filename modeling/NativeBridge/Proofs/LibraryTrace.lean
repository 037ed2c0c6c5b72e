/-
Module: NativeBridge.Proofs.LibraryTrace
Purpose: A compiler library that keeps a trace of its functions as they are entered, and what each
  service call adds to it.
Main exports: LibraryEvent, Traced, dropTrace_serviceMap, ServiceCall.asLibrary,
  LibraryCompiler.perform_carried, LibraryCompiler.run_cases, LibraryCompiler.symbolAddress_trace
-/
import NativeBridge.Compiler.LibraryCompiler
import NativeBridge.Proofs.ServiceMaps

namespace NativeBridge

variable {τ κ : Type} [HostProgram κ]

/-!
Whether a function of the library was entered cannot be told from the answer of a service call: a
text that cannot cross as a C string is refused before the library is called.  A library that keeps
a trace does what the library inside it does, and notes each of its functions when it is entered.
-/

/-- A function of a compiler library is entered. -/
inductive LibraryEvent where
  | called (call : LibraryCall)
  | lookedUp (name : String)
deriving Repr, DecidableEq

/-- A state of a compiler library with a trace, latest first. -/
structure Traced (τ : Type) where
  state : τ
  trace : List LibraryEvent

/-- The same call on a state that carries a trace along. -/
def LibraryRun.carrying {α : Type} (trace : List LibraryEvent) :
    LibraryRun τ κ α → LibraryRun (Traced τ) κ α
  | .finish answer state => .finish answer ⟨state, trace⟩
  | .report line rest => .report line (rest.carrying trace)
  | .act step next =>
      .act (fun world => (⟨(step world).1, trace⟩, (step world).2)) fun traced =>
        (next traced.state).carrying trace

instance [CompilerLibrary τ κ] : CompilerLibrary (Traced τ) κ where
  call call traced :=
    (CompilerLibrary.call call traced.state).carrying (.called call :: traced.trace)
  symbol name traced :=
    (CompilerLibrary.symbol name traced.state).carrying (.lookedUp name :: traced.trace)
  delete traced world := CompilerLibrary.delete traced.state world

/-- A call that carries a trace along unfolds as the call itself. -/
theorem LibraryRun.run_carrying {α : Type} (trace : List LibraryEvent) (call : LibraryRun τ κ α)
    (sink : DiagnosticSink κ) (world : World κ) :
    (call.carrying trace).run sink world =
      let ended := call.run sink world
      (ended.1, ⟨ended.2.1, trace⟩, ended.2.2) := by
  induction call generalizing sink world with
  | finish answer state => rfl
  | report line rest ih => exact ih _ _
  | act step next ih => exact ih _ _ _

/-- The function of the library that a service call is for. -/
def ServiceCall.asLibrary : ServiceCall → LibraryCall
  | .setLibPath path => .setLibPath path
  | .setOptions options => .setOptions options
  | .addIncludePath path => .addIncludePath path
  | .addSysincludePath path => .addSysincludePath path
  | .defineSymbol name value => .defineSymbol name value
  | .undefineSymbol name => .undefineSymbol name
  | .addFile path => .addFile path
  | .compileString source => .compileString source
  | .setOutputMode mode => .setOutputType mode.code
  | .addLibraryPath path => .addLibraryPath path
  | .addLibrary name => .addLibrary name
  | .addSymbol name address => .addSymbol name address
  | .outputFile path => .outputFile path
  | .relocate => .relocate

namespace LibraryCompiler

/-- The trace of a library. -/
def trace (compiler : LibraryCompiler (Traced τ) κ) : List LibraryEvent :=
  compiler.state.trace

/-- The compiler over the library inside a library that keeps a trace. -/
def dropTrace (compiler : LibraryCompiler (Traced τ) κ) : LibraryCompiler τ κ :=
  ⟨compiler.state.state, compiler.sink⟩

variable [CompilerLibrary τ κ]

theorem invoke_traced (compiler : LibraryCompiler (Traced τ) κ) (call : LibraryCall)
    (world : World κ) :
    compiler.invoke call world =
      let answer := compiler.dropTrace.invoke call world
      (answer.1, ⟨⟨answer.2.1.state, .called call :: compiler.trace⟩, answer.2.1.sink⟩,
        answer.2.2) := by
  have carried := LibraryRun.run_carrying (.called call :: compiler.trace)
    (CompilerLibrary.call call compiler.state.state) compiler.sink world
  simp only [invoke]
  exact congrArg (fun ended : Int32 × Traced τ × DiagnosticSink κ × World κ =>
    (ended.1, (⟨ended.2.1, ended.2.2.1⟩ : LibraryCompiler (Traced τ) κ), ended.2.2.2)) carried

theorem symbol_traced (compiler : LibraryCompiler (Traced τ) κ) (name : String) (world : World κ) :
    (CompilerLibrary.symbol name compiler.state).run compiler.sink world =
      let ended := (CompilerLibrary.symbol name compiler.state.state).run compiler.sink world
      (ended.1, ⟨ended.2.1, .lookedUp name :: compiler.trace⟩, ended.2.2) :=
  LibraryRun.run_carrying (.lookedUp name :: compiler.trace)
    (CompilerLibrary.symbol name compiler.state.state) compiler.sink world

/-- An answer of a compiler over a library that keeps a trace, and that over the library inside it:
they are alike, and a function was entered unless the answer is an error. -/
structure Carried (compiler : LibraryCompiler (Traced τ) κ) (call : LibraryCall)
    (reply : Reply (Traced τ) κ) (plain : Reply τ κ) : Prop where
  answer : plain = (reply.1, reply.2.1.dropTrace, reply.2.2)
  trace : reply.2.1.trace = .called call :: compiler.trace ∨
    reply.2.1.trace = compiler.trace ∧ ∃ error, reply.1 = .error error

variable (compiler : LibraryCompiler (Traced τ) κ) (call : LibraryCall) (world : World κ)

theorem tell_carried :
    Carried compiler call (compiler.tell call world) (compiler.dropTrace.tell call world) := by
  rw [tell, tell, invoke_traced]
  exact ⟨rfl, .inl rfl⟩

theorem check_carried (failure : List Diagnostic → Error) :
    Carried compiler call (compiler.check call failure world)
      (compiler.dropTrace.check call failure world) := by
  rw [check, check, invoke_traced]
  dsimp only
  split
  · exact ⟨rfl, .inl rfl⟩
  · exact ⟨rfl, .inl rfl⟩

theorem checkOptions_carried (options : String) :
    Carried compiler (.setOptions options) (compiler.checkOptions options world)
      (compiler.dropTrace.checkOptions options world) := by
  rw [checkOptions, checkOptions, invoke_traced]
  dsimp only
  split
  · exact ⟨rfl, .inl rfl⟩
  · exact ⟨rfl, .inl rfl⟩

variable {compiler call world}

omit [CompilerLibrary τ κ] in
theorem withTexts_carried {texts : List String} {next : Reply (Traced τ) κ} {plain : Reply τ κ}
    (carried : Carried compiler call next plain) :
    Carried compiler call (withTexts texts compiler world next)
      (withTexts texts compiler.dropTrace world plain) := by
  rw [withTexts, withTexts]
  cases texts.find? fun text => !isCText text with
  | some text => exact ⟨rfl, .inr ⟨rfl, _, rfl⟩⟩
  | none => exact carried

variable (compiler world)

theorem perform_carried (call : ServiceCall) :
    Carried compiler call.asLibrary (perform call compiler world)
      (perform call compiler.dropTrace world) := by
  cases call with
  | setLibPath path => exact withTexts_carried (tell_carried ..)
  | setOptions options => exact withTexts_carried (checkOptions_carried ..)
  | addIncludePath path => exact withTexts_carried (check_carried ..)
  | addSysincludePath path => exact withTexts_carried (check_carried ..)
  | defineSymbol name value => exact withTexts_carried (tell_carried ..)
  | undefineSymbol name => exact withTexts_carried (tell_carried ..)
  | addFile path => exact withTexts_carried (check_carried ..)
  | compileString source => exact withTexts_carried (check_carried ..)
  | setOutputMode mode =>
    rw [perform, perform]
    exact check_carried ..
  | addLibraryPath path => exact withTexts_carried (check_carried ..)
  | addLibrary name => exact withTexts_carried (check_carried ..)
  | addSymbol name address =>
    rw [perform, perform]
    split
    · exact check_carried ..
    · exact ⟨rfl, .inr ⟨rfl, _, rfl⟩⟩
  | outputFile path => exact withTexts_carried (check_carried ..)
  | relocate =>
    rw [perform, perform]
    exact check_carried ..

/-- The program is run if all its arguments can cross as C strings, and nothing happens if one
cannot. -/
theorem run_cases (args : List String) :
    (∃ text ∈ args, isCText text = false ∧
      run args compiler world = (.error (CompileError.invalidArgument text), compiler, world)) ∨
    (∀ text ∈ args, isCText text = true) ∧
      (run args compiler world).2.1.trace = .called (.run args) :: compiler.trace := by
  rw [run]
  cases refused : args.find? fun text => !isCText text with
  | some text =>
    refine .inl ⟨text, List.mem_of_find?_eq_some refused, ?_, rfl⟩
    simpa using List.find?_some refused
  | none =>
    refine .inr ⟨?_, ?_⟩
    · simpa using refused
    · rw [invoke_traced]
      rfl

theorem symbolAddress_trace (name : String) :
    (symbolAddress name compiler world).2.1.trace =
      if isCText name then .lookedUp name :: compiler.trace else compiler.trace := by
  rw [symbolAddress]
  split
  · rw [symbol_traced]
    rfl
  · rfl

/-- Keeping a trace changes nothing. -/
theorem dropTrace_serviceMap :
    ServiceMap (dropTrace : LibraryCompiler (Traced τ) κ → LibraryCompiler τ κ) where
  perform call compiler world := (perform_carried compiler world call).answer
  run args compiler world := by
    show run args compiler.dropTrace world = _
    rw [run]
    simp only [CompilationService.run, run]
    cases args.find? fun text => !isCText text with
    | some text => rfl
    | none =>
      dsimp only
      rw [invoke_traced compiler]
      rfl
  symbolAddress name compiler world := by
    show symbolAddress name compiler.dropTrace world = _
    simp only [CompilationService.symbolAddress, symbolAddress]
    split
    · rw [symbol_traced compiler]
      rfl
    · rfl
  setDiagnosticHandler handler compiler world := rfl

end LibraryCompiler

end NativeBridge
