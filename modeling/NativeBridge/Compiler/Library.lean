/-
Module: NativeBridge.Compiler.Library
Purpose: The functions a native compiler's shared library offers, and how a call to one of them
  unfolds.
Main exports: LibraryCall, LibraryRun, CompilerLibrary, LibraryImage, requiredFunctions,
  LibraryImage.missing?
-/
import NativeBridge.World

namespace NativeBridge

/-!
While one of its functions runs, a library may report diagnostics any number of times and may call
host code.  A call is therefore given as a program: what the library does next, until it returns an
answer.  Most functions answer with a number, and a negative one means failure.
-/

/-- A call to a library function that returns a number or nothing.  Texts hold no NUL. -/
inductive LibraryCall where
  | setLibPath (path : String)
  | setOptions (options : String)
  | addIncludePath (path : String)
  | addSysincludePath (path : String)
  | defineSymbol (name : String) (value : Option String)
  | undefineSymbol (name : String)
  | addFile (path : String)
  | compileString (source : String)
  | setOutputType (code : Int32)
  | addLibraryPath (path : String)
  | addLibrary (name : String)
  | addSymbol (name : String) (address : UInt64)
  | outputFile (path : String)
  | run (args : List String)
  /-- Link into memory that the library finds itself. -/
  | relocate
deriving Repr, Inhabited, DecidableEq

/-- What a library does during one call, step by step. -/
inductive LibraryRun (τ κ α : Type) [HostProgram κ] : Type where
  /-- Return an answer and leave a state behind. -/
  | finish (answer : α) (state : τ)
  /-- Report a diagnostic, as the bytes of one line. -/
  | report (line : List UInt8) (rest : LibraryRun τ κ α)
  /-- Do something in the world and go on from a new state. -/
  | act (step : World κ → τ × World κ) (next : τ → LibraryRun τ κ α)

/-- A compiler library with states of a type. -/
class CompilerLibrary (τ : Type) (κ : outParam Type) [HostProgram κ] where
  /-- Call a function on a state. -/
  call : LibraryCall → τ → LibraryRun τ κ Int32
  /-- Look for the address of a name in linked code, null if there is none. -/
  symbol : String → τ → LibraryRun τ κ UInt64
  /-- Delete a state. -/
  delete : τ → World κ → World κ

/-- A library file that the system has loaded. -/
structure LibraryImage (τ κ : Type) [HostProgram κ] where
  /-- Whether the file exports a name. -/
  exports : String → Bool
  /-- Make a state, unless the library refuses. -/
  create : World κ → Option τ × World κ

/-- The functions a compiler library has to export, in the order they are looked for. -/
def requiredFunctions : List String :=
  ["tcc_new", "tcc_delete", "tcc_set_lib_path", "tcc_set_error_func", "tcc_set_options",
    "tcc_add_include_path", "tcc_add_sysinclude_path", "tcc_define_symbol", "tcc_undefine_symbol",
    "tcc_add_file", "tcc_compile_string", "tcc_set_output_type", "tcc_add_library_path",
    "tcc_add_library", "tcc_add_symbol", "tcc_output_file", "tcc_run", "tcc_relocate",
    "tcc_get_symbol"]

/-- The first required function that a library lacks. -/
def LibraryImage.missing? {τ κ : Type} [HostProgram κ] (image : LibraryImage τ κ) :
    Option String :=
  requiredFunctions.find? fun name => !image.exports name

end NativeBridge
