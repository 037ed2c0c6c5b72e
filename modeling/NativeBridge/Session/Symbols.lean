/-
Module: NativeBridge.Session.Symbols
Purpose: Registering closures under names that compiled code can call, and binding the members of a
  type.
Main exports: Session.register, Session.addSymbol, Session.addDynamicSymbol,
  Session.ensureReleaseSymbol, Session.releaseHandle, Session.bind
-/
import NativeBridge.Session.Basic
import NativeBridge.Thunk

namespace NativeBridge

variable {σ κ : Type} [HostProgram κ] [CompilationService σ κ]

namespace Session

/-- Whether a name is registered. -/
def isRegistered (session : Session σ) (name : String) : Bool :=
  session.symbols.contains name

/-- Register the closure at an address under a name.  The name has to be an identifier that is not
registered, and nothing may be linked yet. -/
def register (name : String) (address : UInt64) : SessionM σ κ Unit := do
  let session ← current
  require (Text.isIdentifier name) (SymbolError.invalidName name)
  require (session.stage != .relocated) (SymbolError.afterRelocation name)
  require (!session.isRegistered name) (SymbolError.duplicate name)
  request (.addSymbol name address)
  update fun session =>
    { session with
      symbols := name :: session.symbols
      retained := session.retained ++ [address] }

/-- Register a host function under a name. -/
def addSymbol (name : String) (function : HostFunction κ) : SessionM σ κ Unit := do
  let address ← inWorld fun world =>
    let (result, world) := world.wrapFunction function name
    (result.mapError Error.callable, world)
  register name address

/-- Give host code an address under a callable type and a label. -/
def wrapUnder (type : CallableType κ) (label : String) (body : List (Value κ) → Code κ) :
    SessionM σ κ UInt64 :=
  inWorld fun world =>
    match world.wrap type label body with
    | .ok (address, world) => (.ok address, world)
    | .error error => (.error error, world)

/-- Register host code of a callable type under a name. -/
def addDynamicSymbol (name : String) (type : CallableType κ)
    (body : List (Value κ) → Code κ) : SessionM σ κ Unit := do
  let address ← wrapUnder type name body
  register name address

/-! ### Releasing handles -/

/-- The signature of functions that release handles. -/
def releaseSignature : Signature κ := ⟨[.pointer], .void⟩

/-- The code that releases a handle of a registry. -/
def releaseBody (registry : Nat) (args : List (Value κ)) : Code κ :=
  Host.receiving [.pointer] args fun (handle, _) =>
    .releaseHandle registry handle fun
      | .ok () => .done (.ok .void)
      | .error error => .done (.error error)

/-- The callable type of a signature. -/
def callableType (signature : Signature κ) : SessionM σ κ (CallableType κ) :=
  inWorld fun world =>
    match world.internType signature with
    | .ok (type, world) => (.ok type, world)
    | .error error => (.error error, world)

/-- Register the function that releases handles, unless it is registered under this name. -/
def ensureReleaseSymbol (name : String) : SessionM σ κ Unit := do
  let session ← current
  if session.releaseSymbols.contains name then return
  let type ← callableType releaseSignature
  let address ← wrapUnder type name (releaseBody session.registry)
  register name address
  update fun session => { session with releaseSymbols := name :: session.releaseSymbols }

/-- Release a handle from host code. -/
def releaseHandle (handle : UInt64) : SessionM σ κ Unit := do
  let session ← current
  inWorld fun world =>
    let (result, world) := world.releaseHandle session.registry handle
    (result.mapError Error.handle, world)

/-! ### Binding types -/

/-- The names that binding a type registers for its members. -/
def bindingNames (description : TypeDescription κ) (rules : Naming.NamingRules) :
    Except BindError (List String) :=
  (Naming.planSymbols description rules).map fun planned => planned.map fun one => one.symbol

/-- Register thunks in order. -/
def registerThunks (thunks : List (Thunk κ)) : SessionM σ κ Unit :=
  thunks.forM fun thunk => register thunk.symbol thunk.address

/-- Bind a type under naming rules: register a thunk for each of its members, and the function that
releases handles.  Everything that can fail before the compiler is asked is tried first. -/
def bind (description : TypeDescription κ) (rules : Naming.NamingRules) :
    SessionM σ κ (List String) := do
  let session ← current
  let planned ← ofExcept ((Naming.planSymbols description rules).mapError Error.bind)
  match planned.find? fun one => session.isRegistered one.symbol with
  | some taken => throw (.symbol (.duplicate taken.symbol))
  | none =>
      let thunks ← inWorld (World.synthesizeAll session.registry planned)
      ensureReleaseSymbol rules.releaseSymbol
      registerThunks thunks
      return thunks.map fun thunk => thunk.symbol

/-- Bind a type under the session's naming rules. -/
def bindType (description : TypeDescription κ) : SessionM σ κ (List String) := do
  bind description (← current).naming

end Session

end NativeBridge
