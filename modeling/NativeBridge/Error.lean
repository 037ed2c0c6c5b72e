/-
Module: NativeBridge.Error
Purpose: What can go wrong in configuring, binding, compiling, linking and calling, and the wording
  of each failure.
Main exports: MarshalError, HandleError, CallableError, BindError, CompileError, LinkError,
  SymbolError, LoadError, ConfigError, Error, Error.message, Error.kind
-/
import NativeBridge.Diagnostic

namespace NativeBridge

/-- Values that cannot be converted across the native boundary. -/
inductive MarshalError where
  | nullString
  | interiorNul
  | invalidChar (code : UInt32)
  | invalidEnum (name : String) (value : Int64)
  | typeMismatch (expected found : String)
  | arityMismatch (expected got : Nat)
deriving Repr, Inhabited, DecidableEq

/-- Failures of the handle registry and of borrowing an instance. -/
inductive HandleError where
  | invalidHandle (raw : UInt64)
  | receiverBusy (className : String)
deriving Repr, Inhabited, DecidableEq

/-- Failures in describing or creating native-callable functions. -/
inductive CallableError where
  | opaqueSignature (position type : String)
  | voidParameter (position : String)
  | closureAllocation
  | closurePreparation (reason : String)
  | nullAddress
deriving Repr, Inhabited, DecidableEq

/-- Failures in naming and binding the members of a type. -/
inductive BindError where
  | duplicateSymbol (symbol className : String)
  | overloadedMember (className member : String)
  | invalidTemplate (template reason : String)
  | invalidSymbol (symbol : String)
deriving Repr, Inhabited, DecidableEq

/-- Failures of configuring the compiler and of compilation. -/
inductive CompileError where
  | outputModeNotSet
  | outputModeLocked
  | failed (diagnostics : List Diagnostic)
  | invalidArgument (argument : String)
  | invalidOption (option : String)
deriving Repr, Inhabited, DecidableEq

/-- Failures of linking, relocation and lookup. -/
inductive LinkError where
  | notCompiled
  | notRelocated
  | alreadyRelocated
  | wrongOutputMode (expected actual : String)
  | symbolNotFound (name : String)
  | libraryNotFound (name : String)
  | relocationFailed (diagnostics : List Diagnostic)
  | outputFailed (path : String)
deriving Repr, Inhabited, DecidableEq

/-- Failures of registering a symbol. -/
inductive SymbolError where
  | invalidName (name : String)
  | duplicate (name : String)
  | afterRelocation (name : String)
deriving Repr, Inhabited, DecidableEq

/-- Failures of loading the compiler's library. -/
inductive LoadError where
  | libraryNotFound (name : String)
  | symbolNotFound (library symbol : String)
  | loadFailed (reason : String)
deriving Repr, Inhabited, DecidableEq

/-- Failures of loading a configuration. -/
inductive ConfigError where
  | notFound (path : String)
  | unreadable (path : String)
  | malformed (path : String)
  | invalidValue (field reason : String)
  | homeNotFound
deriving Repr, Inhabited, DecidableEq

/-- Any failure of the bridge. -/
inductive Error where
  | marshal (cause : MarshalError)
  | handle (cause : HandleError)
  | callable (cause : CallableError)
  | bind (cause : BindError)
  | compile (cause : CompileError)
  | link (cause : LinkError)
  | symbol (cause : SymbolError)
  | load (cause : LoadError)
  | config (cause : ConfigError)
  | panicked (message : String)
deriving Repr, Inhabited, DecidableEq

instance : Coe MarshalError Error := ⟨Error.marshal⟩
instance : Coe HandleError Error := ⟨Error.handle⟩
instance : Coe CallableError Error := ⟨Error.callable⟩
instance : Coe BindError Error := ⟨Error.bind⟩
instance : Coe CompileError Error := ⟨Error.compile⟩
instance : Coe LinkError Error := ⟨Error.link⟩
instance : Coe SymbolError Error := ⟨Error.symbol⟩
instance : Coe LoadError Error := ⟨Error.load⟩
instance : Coe ConfigError Error := ⟨Error.config⟩

instance : MonadLift (Except MarshalError) (Except Error) := ⟨Except.mapError Error.marshal⟩
instance : MonadLift (Except HandleError) (Except Error) := ⟨Except.mapError Error.handle⟩
instance : MonadLift (Except CallableError) (Except Error) := ⟨Except.mapError Error.callable⟩
instance : MonadLift (Except BindError) (Except Error) := ⟨Except.mapError Error.bind⟩
instance : MonadLift (Except LoadError) (Except Error) := ⟨Except.mapError Error.load⟩
instance : MonadLift (Except ConfigError) (Except Error) := ⟨Except.mapError Error.config⟩

/-- The diagnostic that speaks for a list: the first error, else the first of any kind. -/
def leadingDiagnostic (diagnostics : List Diagnostic) : Option Diagnostic :=
  (diagnostics.find? Diagnostic.isError).or diagnostics.head?

/-- The leading diagnostic as the end of a sentence. -/
def leadingMessage (diagnostics : List Diagnostic) : String :=
  match leadingDiagnostic diagnostics with
  | some diagnostic => ": " ++ diagnostic.text
  | none => ""

/-- The wording of a conversion failure. -/
def MarshalError.message : MarshalError → String
  | nullString => "null string pointer received"
  | interiorNul => "string contains an interior NUL byte"
  | invalidChar code => "invalid char code point " ++ Text.hexMarked code.toNat
  | invalidEnum name value => s!"invalid discriminant {value.toInt} for enum {name}"
  | typeMismatch expected found => s!"type mismatch: expected {expected}, found {found}"
  | arityMismatch expected got => s!"expected {expected} arguments, got {got}"

/-- The wording of a handle failure. -/
def HandleError.message : HandleError → String
  | invalidHandle raw => "invalid handle " ++ Text.hexMarked raw.toNat
  | receiverBusy name => s!"{name} receiver is already borrowed by an active call"

/-- The wording of a callable failure. -/
def CallableError.message : CallableError → String
  | opaqueSignature position type =>
      s!"{type} cannot cross the boundary directly ({position})"
  | voidParameter position => s!"{position} is not valid as a parameter type"
  | closureAllocation => "failed to allocate native closure"
  | closurePreparation reason => s!"failed to prepare native closure: {reason}"
  | nullAddress => "null function address"

/-- The wording of a binding failure. -/
def BindError.message : BindError → String
  | duplicateSymbol symbol name =>
      s!"symbol '{symbol}' is produced by more than one member of {name}"
  | overloadedMember name member =>
      s!"{name}::{member} is overloaded; give each overload an explicit symbol"
  | invalidTemplate template reason => s!"invalid naming template '{template}': {reason}"
  | invalidSymbol symbol => s!"generated symbol '{symbol}' is not a valid C identifier"

/-- The wording of a compilation failure. -/
def CompileError.message : CompileError → String
  | outputModeNotSet => "output mode must be set before compiling"
  | outputModeLocked => "output mode cannot change after compilation started"
  | failed diagnostics => "compilation failed" ++ leadingMessage diagnostics
  | invalidArgument argument => s!"argument contains an interior NUL byte: {argument}"
  | invalidOption option => s!"compiler option rejected: {option}"

/-- The wording of a linking failure. -/
def LinkError.message : LinkError → String
  | notCompiled => "nothing has been compiled yet"
  | notRelocated => "code has not been relocated into memory"
  | alreadyRelocated => "code has already been relocated"
  | wrongOutputMode expected actual =>
      s!"operation requires output mode {expected}, session uses {actual}"
  | symbolNotFound name => s!"symbol not found: {name}"
  | libraryNotFound name => s!"library not found: {name}"
  | relocationFailed diagnostics => "relocation failed" ++ leadingMessage diagnostics
  | outputFailed path => s!"failed to write output file {path}"

/-- The wording of a registration failure. -/
def SymbolError.message : SymbolError → String
  | invalidName name => s!"'{name}' is not a valid symbol name"
  | duplicate name => s!"symbol '{name}' registered twice"
  | afterRelocation name => s!"cannot register '{name}' after relocation"

/-- The wording of a loading failure. -/
def LoadError.message : LoadError → String
  | libraryNotFound name => s!"library not found: {name}"
  | symbolNotFound library symbol => s!"symbol '{symbol}' not found in library '{library}'"
  | loadFailed reason => s!"failed to load library: {reason}"

/-- The wording of a configuration failure. -/
def ConfigError.message : ConfigError → String
  | notFound path => s!"Configuration file not found: {path}"
  | unreadable path => s!"Failed to read configuration file: {path}"
  | malformed path => s!"Invalid TOML syntax in {path}"
  | invalidValue field reason => s!"Invalid value for '{field}': {reason}"
  | homeNotFound => "Home directory not found"

/-- The wording of any failure; the cause speaks for itself. -/
def Error.message : Error → String
  | marshal cause => cause.message
  | handle cause => cause.message
  | callable cause => cause.message
  | bind cause => cause.message
  | compile cause => cause.message
  | link cause => cause.message
  | symbol cause => cause.message
  | load cause => cause.message
  | config cause => cause.message
  | panicked message => s!"host code panicked: {message}"

/-- The name of the kind of a failure: the group it is of, then what it is in that group. -/
def Error.kind : Error → String
  | marshal cause => "Marshal." ++ match cause with
    | .nullString => "NullString"
    | .interiorNul => "InteriorNul"
    | .invalidChar _ => "InvalidChar"
    | .invalidEnum _ _ => "InvalidEnum"
    | .typeMismatch _ _ => "TypeMismatch"
    | .arityMismatch _ _ => "ArityMismatch"
  | handle cause => "Handle." ++ match cause with
    | .invalidHandle _ => "InvalidHandle"
    | .receiverBusy _ => "ReceiverBusy"
  | callable cause => "Callable." ++ match cause with
    | .opaqueSignature _ _ => "OpaqueSignature"
    | .voidParameter _ => "VoidParameter"
    | .closureAllocation => "ClosureAlloc"
    | .closurePreparation _ => "ClosurePrep"
    | .nullAddress => "NullAddress"
  | bind cause => "Bind." ++ match cause with
    | .duplicateSymbol _ _ => "DuplicateSymbol"
    | .overloadedMember _ _ => "OverloadedMember"
    | .invalidTemplate _ _ => "InvalidTemplate"
    | .invalidSymbol _ => "InvalidSymbol"
  | compile cause => "Compile." ++ match cause with
    | .outputModeNotSet => "OutputModeNotSet"
    | .outputModeLocked => "OutputModeLocked"
    | .failed _ => "Failed"
    | .invalidArgument _ => "InvalidArgument"
    | .invalidOption _ => "InvalidOption"
  | link cause => "Link." ++ match cause with
    | .notCompiled => "NotCompiled"
    | .notRelocated => "NotRelocated"
    | .alreadyRelocated => "AlreadyRelocated"
    | .wrongOutputMode _ _ => "WrongOutputMode"
    | .symbolNotFound _ => "SymbolNotFound"
    | .libraryNotFound _ => "LibraryNotFound"
    | .relocationFailed _ => "RelocationFailed"
    | .outputFailed _ => "OutputFailed"
  | symbol cause => "Symbol." ++ match cause with
    | .invalidName _ => "InvalidName"
    | .duplicate _ => "Duplicate"
    | .afterRelocation _ => "AfterRelocation"
  | load cause => "Load." ++ match cause with
    | .libraryNotFound _ => "LibraryNotFound"
    | .symbolNotFound _ _ => "SymbolNotFound"
    | .loadFailed _ => "LoadFailed"
  | config cause => "Config." ++ match cause with
    | .notFound _ => "NotFound"
    | .unreadable _ => "IoError"
    | .malformed _ => "TomlParseError"
    | .invalidValue _ _ => "InvalidValue"
    | .homeNotFound => "HomeNotFound"
  | panicked _ => "Panicked"

end NativeBridge
