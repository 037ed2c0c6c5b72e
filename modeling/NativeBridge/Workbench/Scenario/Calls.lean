/-
Module: NativeBridge.Workbench.Scenario.Calls
Purpose: Steps on callable types, closures, native functions and descriptions.
Main exports: wrapFunction, wrapScript, makeFunction, callFunction, callTyped, invokeMember,
  synthesizeMember
-/
import NativeBridge.Workbench.Scenario.Bench

namespace NativeBridge.Workbench

/-! ### Callable types -/

/-- The callable type of a signature. -/
def internType (signature : Signature Key) : BenchM (Except Error (CallableType Key)) :=
  inWorld fun world =>
    match world.internType signature with
    | .ok (type, world) => (.ok type, world)
    | .error error => (.error error, world)

/-- The callable type that a step names; one that was never made is that of nothing from nothing. -/
def chooseType : TypeChoice → BenchM (Except Error (CallableType Key))
  | .ofSignature signature => internType signature
  | .named name => do
      match (← get).types.find? name with
      | some type => return .ok type
      | none => internType ⟨[], .void⟩

/-- Make a callable type and name it. -/
def makeType (signature : Signature Key) (name : String)
    (report : CallableType Key → Answer) : BenchM Answer := do
  match ← internType signature with
  | .error error => return .failed error
  | .ok type => do
      modify fun bench => { bench with types := bench.types.set name type }
      return report type

/-- Compare two callable types: whether they are one, twice, and whether their signatures are
equal. -/
def compareTypes (a b : String) : BenchM Answer := do
  let types := (← get).types
  match types.find? a, types.find? b with
  | some first, some second =>
      return .flags [first.sameType second, first.sameType second,
        decide (first.signature = second.signature)]
  | _, _ => return .noFunction

/-! ### Closures -/

/-- Name the closure at an address. -/
def nameClosure (name : String) (address : UInt64) : BenchM Unit :=
  modify fun bench => { bench with closures := bench.closures.set name address }

/-- Go on with the closure of a name and its address. -/
def withClosure (name : String) (step : UInt64 → Closure Key → BenchM Answer) : BenchM Answer := do
  let bench ← get
  match bench.closures.find? name with
  | none => return .noFunction
  | some address =>
      match bench.world.closureAt? address with
      | none => return .noFunction
      | some closure => step address closure

/-- Wrap a host function. -/
def wrapFunction (function : Function) (name : String) : BenchM Answer := do
  let result ← inWorld fun world => world.wrapFunction function closureLabel
  match result with
  | .error error => return .failed error
  | .ok address => do
      nameClosure name address
      withClosure name fun _ closure => return .wrapped closure.label closure.type

/-- Wrap a scripted closure. -/
def wrapScript (choice : TypeChoice) (script : Script) (name : String) : BenchM Answer := do
  match ← chooseType choice with
  | .error error => return .failed error
  | .ok type => do
      let bench ← get
      match bench.world.wrap type closureLabel script.body with
      | .error error => return .failed error
      | .ok (address, world) => do
          set { bench with world := world }
          nameClosure name address
          return .wrapped closureLabel type

/-! ### Native functions -/

/-- Name a native function. -/
def nameFunction (name : String) (function : ForeignFunction Key) : BenchM Unit :=
  changeGlobals fun globals => { globals with functions := globals.functions.set name function }

/-- Go on with the native function of a name. -/
def withFunction (name : String) (step : ForeignFunction Key → BenchM Answer) : BenchM Answer := do
  match (← readGlobals).functions.find? name with
  | some function => step function
  | none => return .noFunction

/-- Make a native function of an address. -/
def functionAt (address : UInt64) (type : CallableType Key) (name : String) : BenchM Answer := do
  match ForeignFunction.atAddress address type with
  | .error error => return .failed error
  | .ok function => do
      nameFunction name function
      return .function (function.address == address) type

/-- Make a native function of a source, at a type or at its closure's own. -/
def makeFunction (source : FunctionSource) (choice : Option TypeChoice) (name : String) :
    BenchM Answer := do
  match source, choice with
  | .closure closure, none =>
      withClosure closure fun address closure => functionAt address closure.type name
  | source, choice => do
      match ← chooseType (choice.getD (.ofSignature ⟨[], .void⟩)) with
      | .error error => return .failed error
      | .ok type =>
          match source with
          | .closure closure => withClosure closure fun address _ => functionAt address type name
          | .code code => do
              let address ← inWorld code.place
              functionAt address type name
          | .null => functionAt 0 type name

/-- Call a native function. -/
def callFunction (function : ForeignFunction Key) (request : CallRequest) (as : Option String) :
    BenchM Answer := do
  let (report, value) ← inWorld fun world =>
    let (report, value, world) := performCall function request world.globals.saved world
    ((report, value), world)
  save as value
  return .called report

/-- Call a native function through the static signature of a host function. -/
def callTyped (function : ForeignFunction Key) (shape : Function) (args : List Operand) :
    BenchM Answer := do
  match function.expectSignature shape.signature with
  | .error error => return .failed error
  | .ok () => do
      let values ← evaluateAll args
      match Tuple.fromValues shape.parameters values (← readHeap) with
      | .error error => return .failed error
      | .ok tuple => do
          let result ← inWorld (function.callTyped enter shape.parameters shape.result tuple)
          match result with
          | .panicked message => return .panicked (NativeBridge.panicText message)
          | .returned (.error error) => return .failed error
          | .returned (.ok carried) => do
              let (value, heap) := shape.result.intoValue carried (← readHeap)
              setHeap heap
              return .typedCall (← snapshot value) function.type.signature

/-- Tell whether a fault is pending, and take it. -/
def takeFault : BenchM Answer := do
  let pending := (← get).world.pending.isSome
  let taken ← inWorld World.takeFault
  return .fault pending taken

/-- Take what host code has noted. -/
def takeHostNotes : BenchM Answer := do
  let notes := (← readGlobals).hostNotes
  changeGlobals fun globals => { globals with hostNotes := [] }
  return .hostNotes notes

/-! ### Descriptions -/

/-- Go on with the description of a name. -/
def withDescription (name : String) (step : TypeDescription Key → BenchM Answer) :
    BenchM Answer := do
  match (← get).descriptions.find? name with
  | some description => step description
  | none => return .noFunction

/-- Go on with a member of the description of a name. -/
def withMember (name : String) (index : Nat) (step : Member Key → BenchM Answer) : BenchM Answer :=
  withDescription name fun description =>
    match description.members[index]? with
    | some member => step member
    | none => return .noFunction

/-- Name a description. -/
def nameDescription (name : String) (description : TypeDescription Key) : BenchM Answer := do
  modify fun bench => { bench with descriptions := bench.descriptions.set name description }
  return .description description

/-- Plan the symbols of a description. -/
def planDescription (description : TypeDescription Key) (request : RulesRequest) : Answer :=
  match request.rules with
  | .error error => .failed error
  | .ok rules =>
      match Naming.planSymbols description rules with
      | .error error => .failed error
      | .ok planned => .plan (planned.map fun one => (one.symbol, one.member.kind))

/-- What came of running a member. -/
def answerOutcome : Outcome (Value Key) → BenchM Answer
  | .panicked message => return .panicked (NativeBridge.panicText message)
  | .returned (.error error) => return .failed error
  | .returned (.ok value) => return .value (← snapshot value)

/-- Run a member directly, on an instance if one is given. -/
def invokeMember (member : Member Key) (receiver : Option String) (args : List Operand) :
    BenchM Answer := do
  let values ← evaluateAll args
  match receiver with
  | none => do
      let outcome ← inWorld fun world => (member.body values).run enter .bare world
      answerOutcome outcome
  | some name =>
      withObject name fun target => do
        let outcome ← inWorld (runVirtual enter target (member.body values))
        answerOutcome outcome

/-- Make the thunk of a member. -/
def synthesizeMember (member : Member Key) (symbol name : String) : BenchM Answer := do
  let id := (← get).registryId
  let result ← inWorld fun world => world.synthesize member symbol id
  match result with
  | .error error => return .failed error
  | .ok thunk => do
      nameClosure name thunk.address
      return .thunk thunk

/-! ### Inspection -/

/-- The inspection text of something, without the addresses in it. -/
def inspectSubject (subject : Subject) : BenchM Answer :=
  match subject with
  | .closure name => withClosure name fun address closure =>
      return .text (maskAddresses (closure.inspect address))
  | .function name => withFunction name fun function =>
      return .text (maskAddresses function.inspect)
  | .object name => withObject name fun target => return .text (maskAddresses target.inspect)
  | .ref name key => withObject name fun target =>
      match target.expectType ⟨key, .reference⟩ with
      | .error error => return .failed error
      | .ok () => return .text (maskAddresses ("Ref(" ++ target.inspect ++ ")"))
  | .member name index => withMember name index fun member =>
      return .text (maskAddresses member.inspect)

end NativeBridge.Workbench
