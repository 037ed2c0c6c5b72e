/-
Module: NativeBridge.Workbench.Scenario.Step
Purpose: The steps a scenario is made of, and the answers they give.
Main exports: RulesRequest, TypeChoice, Step, Answer
-/
import NativeBridge.Config.Load
import NativeBridge.Thunk
import NativeBridge.Workbench.Compilers
import NativeBridge.Workbench.Members

namespace NativeBridge.Workbench

/-! ### Parts of steps -/

/-- Naming rules as a scenario asks for them: the built-in ones, then a configuration, then single
changes in order. -/
structure RulesRequest where
  config : Option Config.NamingSection
  changes : List (String × String)
deriving Repr, Inhabited, DecidableEq

/-- Make one change; a change of no template is one of the release symbol. -/
def RulesRequest.change (rules : Naming.NamingRules) (what text : String) :
    Except BindError Naming.NamingRules :=
  match what with
  | "method" => rules.withMethod text
  | "property" => rules.withProperty text
  | "field" => rules.withField text
  | "constructor" => rules.withConstructor text
  | _ => rules.withReleaseSymbol text

/-- The rules asked for. -/
def RulesRequest.rules (request : RulesRequest) : Except BindError Naming.NamingRules := do
  let base ← Naming.NamingRules.fromConfig (request.config.getD .empty)
  request.changes.foldlM (fun rules (what, text) => RulesRequest.change rules what text) base

/-- A callable type as a step names it. -/
inductive TypeChoice where
  | named (name : String)
  | ofSignature (signature : Signature Key)
deriving Repr, Inhabited

/-- Where a function made from an address gets it. -/
inductive FunctionSource where
  /-- A closure made before. -/
  | closure (name : String)
  /-- Code that is native from the start. -/
  | code (code : ForeignCode)
  /-- The null address. -/
  | null
deriving Repr, Inhabited, DecidableEq

/-- What a step wants the inspection text of. -/
inductive Subject where
  | closure (name : String)
  | function (name : String)
  | object (name : String)
  | ref (name : String) (key : Key)
  | member (description : String) (index : Nat)
deriving Repr, Inhabited, DecidableEq

/-- How a configuration is loaded. -/
structure ConfigSource where
  surroundings : Config.Surroundings
  path : String
  /-- Whether the path is a file and not a directory to start from. -/
  isFile : Bool
  /-- The file of the user's defaults, if it is not the usual one. -/
  globalPath : Option String

/-- Load a configuration. -/
def ConfigSource.load (source : ConfigSource) : Except ConfigError Config :=
  if source.isFile then Config.loadFromFile source.surroundings source.globalPath source.path
  else Config.loadFromDirectory source.surroundings source.globalPath source.path

/-- A compiler as a step asks for it. -/
inductive Backend where
  | recorder
  /-- A library by its name, looked for in one more directory before all others if one is given. -/
  | library (name : String) (search : Option String)
deriving Repr, Inhabited, DecidableEq

/-- Operations on a session that are made of one call and answer nothing. -/
inductive SessionStep where
  | setOutputMode (mode : OutputMode)
  | setLibPath (path : String)
  | setOptions (options : String)
  | addIncludePath (path : String)
  | addSysincludePath (path : String)
  | defineSymbol (name : String) (value : Option String)
  | undefineSymbol (name : String)
  | addLibraryPath (path : String)
  | addLibrary (name : String)
  | compileString (source : String)
  | addFile (path : String)
  | relocate
  | outputFile (path : String)
  | addSymbol (name function : String)
  | release (handle : Operand)
deriving Repr, Inhabited

/-! ### Steps -/

/-- One step of a scenario. -/
inductive Step where
  -- Instances and handles
  | object (type : ObjectType Key) (number : Option Int32) (text : Option String) (as : String)
  | clone (name as : String)
  | forget (name : String)
  | owners (name : String)
  | state (name : String)
  | same (a b : String)
  | expectClass (name : String) (type : ObjectType Key)
  | copyOut (name : String)
  | borrowed (name : String) (exclusive : Bool) (steps : List Step)
  | ref (name : String) (key : Key) (number : Option Int32)
  | fromValue (type : MarshalType Key) (operand : Operand)
  | kind (operand : Operand)
  | equal (a b : Operand)
  | allocate (name : String) (as : Option String)
  | resolve (handle : Operand) (as : Option String)
  | release (handle : Operand)
  | isLive (handle : Operand)
  | registry
  -- Buffers
  | buffer (name : String) (text : Option String) (capacity : Nat)
  | bufferAlias (name as : String)
  | bufferSet (name text : String)
  | bufferPush (name text : String)
  | bufferShow (name : String)
  | bufferInspect (name : String)
  | nativeBuffer (name : String) (bytes : List UInt8)
  | nativeBufferShow (name : String)
  -- Callables
  | callableType (signature : Signature Key) (as : String)
  | typeOf (function as : String)
  | sameType (a b : String)
  | cachedTypes
  | wrap (function as : String)
  | wrapDynamic (type : TypeChoice) (script : Script) (as : String)
  | function (source : FunctionSource) (type : Option TypeChoice) (as : String)
  | call (function : String) (request : CallRequest) (as : Option String)
  | typed (name function : String) (args : List Operand)
  | fault
  | hostNotes
  | inspect (subject : Subject)
  -- Descriptions
  | describe (key : Key) (semantics : Semantics) (requests : List MemberRequest) (as : String)
  | describeSample (as : String)
  | plan (name : String) (rules : RulesRequest)
  | invoke (name : String) (index : Nat) (receiver : Option String) (args : List Operand)
  | synthesize (name : String) (index : Nat) (symbol as : String)
  -- Sessions
  | session (backend : Backend) (rules : RulesRequest)
  | sessionOfConfig (source : ConfigSource)
  | endSession
  | serviceNotes
  | info
  | inSession (step : SessionStep)
  | addDynamicSymbol (name : String) (type : TypeChoice) (script : Script)
  | addNative (name native : String)
  | symbolAddress (name : String)
  | getSymbol (name : String) (type : TypeChoice) (as : String)
  | typedSymbol (name function : String) (args : List Operand)
  | bind (name : String) (rules : Option RulesRequest)
  | bindSample
  | diagnosticHandler
  | run (args : List String) (program : Program)
  /-- A step that nobody knows. -/
  | unknown (name : String)

/-! ### Answers -/

/-- What a buffer is found to be. -/
structure BufferReport where
  text : String
  length : Nat
  capacity : Nat
  isEmpty : Bool
  truncated : String
deriving Repr, Inhabited, DecidableEq

/-- What comes of looking at an instance through a shared reference. -/
structure RefReport where
  /-- What came of changing it, if that was asked for. -/
  changed : Option (Except HandleError Unit)
  read : Except HandleError StateView
  /-- Whether a copy of the reference is to the same instance. -/
  same : Bool
  owners : Nat

/-- What a session is found to be. -/
structure SessionReport where
  output : Option OutputMode
  retained : Nat
  naming : Naming.NamingRules
  live : Nat
  inspection : String

/-- The answer to a step. -/
inductive Answer where
  | done
  | flag (value : Bool)
  | flags (values : List Bool)
  | count (n : Nat)
  | text (content : String)
  | texts (contents : List String)
  | failed (error : Error)
  /-- Host code panicked outside all native calls. -/
  | panicked (message : String)
  | noFunction
  | noSession
  | unknownStep (name : String)
  | value (shown : Snapshot)
  | state (view : StateView)
  | nested (answers : List Answer)
  | ref (report : RefReport)
  | conversion (type : HostType Key) (result : Except MarshalError Snapshot)
  | handle (handle : UInt64) (shown : String)
  | registry (live : Nat) (inspection : String)
  | buffer (report : BufferReport)
  | bytes (content : List UInt8)
  | callableType (type : CallableType Key)
  | typeName (type : CallableType Key)
  | wrapped (label : String) (type : CallableType Key)
  | function (sameAddress : Bool) (type : CallableType Key)
  | called (report : CallReport)
  | typedCall (shown : Snapshot) (signature : Signature Key)
  | fault (pending : Bool) (taken : Option Error)
  | hostNotes (notes : List HostNote)
  | description (found : TypeDescription Key)
  | plan (symbols : List (String × MemberKind))
  | thunk (found : Thunk Key)
  | serviceNotes (notes : List ServiceNote)
  | session (report : SessionReport)
  | bound (planned bound : Except Error (List String)) (release : String)
  | ran (result : Except Error Int32) (inside : List ProgramReport)

end NativeBridge.Workbench
