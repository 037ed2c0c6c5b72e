/-
Module: NativeBridge.Compiler.Service
Purpose: What a session asks of a native compiler.
Main exports: ServiceCall, DiagnosticHandler, CompilationService
-/
import NativeBridge.OutputMode
import NativeBridge.World

namespace NativeBridge

/-!
A compilation service answers one call at a time.  It may keep a state of its own, and it may touch
the world: running a program calls host code, and reporting a diagnostic calls a handler.  The order
in which calls make sense is not its concern.
-/

/-- A call to a native compiler that succeeds or fails and answers nothing else. -/
inductive ServiceCall where
  | setLibPath (path : String)
  | setOptions (options : String)
  | addIncludePath (path : String)
  | addSysincludePath (path : String)
  | defineSymbol (name : String) (value : Option String)
  | undefineSymbol (name : String)
  | addFile (path : String)
  | compileString (source : String)
  | setOutputMode (mode : OutputMode)
  | addLibraryPath (path : String)
  | addLibrary (name : String)
  /-- Make an address known to compiled code under a name. -/
  | addSymbol (name : String) (address : UInt64)
  | outputFile (path : String)
  /-- Link compiled code into this process. -/
  | relocate
deriving Repr, Inhabited, DecidableEq

/-- Host code that is shown every diagnostic as it is reported. -/
abbrev DiagnosticHandler (κ : Type) [HostProgram κ] : Type :=
  Diagnostic → World κ → World κ

/-- A native compiler with states of a type. -/
class CompilationService (σ : Type) (κ : outParam Type) [HostProgram κ] where
  /-- Answer a call. -/
  perform : ServiceCall → σ → World κ → Except Error Unit × σ × World κ
  /-- Run the compiled program with arguments and tell its exit code. -/
  run : List String → σ → World κ → Except Error Int32 × σ × World κ
  /-- The address of a name in linked code. -/
  symbolAddress : String → σ → World κ → Option UInt64 × σ × World κ
  /-- Show diagnostics to a handler from now on. -/
  setDiagnosticHandler : DiagnosticHandler κ → σ → World κ → σ × World κ
  /-- Give the compiler's state up. -/
  close : σ → World κ → World κ

end NativeBridge
