/-
Module: NativeBridge.Workbench.Scenario.Run
Purpose: Running the steps of a scenario in order.
Main exports: Step.perform, runSteps, runScenario
-/
import NativeBridge.Workbench.Scenario.Sessions

namespace NativeBridge.Workbench

/-- Own an instance once more while something is done. -/
def holding {α : Type} (cell : Nat) (step : BenchM α) : BenchM α := do
  modify fun bench => { bench with held := cell :: bench.held }
  let result ← step
  modify fun bench => { bench with held := bench.held.erase cell }
  return result

/-- Borrow an instance while something is done, if nobody is in the way. -/
def whileBorrowed (target : HostObject Key) (exclusive : Bool) (step : BenchM (List Answer)) :
    BenchM Answer := do
  let heap ← readHeap
  let attempt :=
    if exclusive then heap.borrowExclusive? target.cell else heap.borrowShared? target.cell
  match attempt with
  | none => return .failed (Heap.busy target)
  | some heap => do
      setHeap heap
      let answers ← step
      let heap ← readHeap
      setHeap (if exclusive then heap.endExclusive target.cell else heap.endShared target.cell)
      return .nested answers

mutual

/-- Take one step. -/
def Step.perform : Step → BenchM Answer
  | .object type number text name => makeObject type number text name
  | .clone name copy => withObject name fun target => do
      nameObject copy target
      return .done
  | .forget name => forgetObject name
  | .owners name => withObject name fun target =>
      return .count ((← get).ownersOf target.cell)
  | .state name => withObject name fun target => return .state (.of (← readHeap) target)
  | .same a b => withObject a fun first => withObject b fun second =>
      return compareObjects first second
  | .expectClass name type => withObject name fun target =>
      return answerCheck ((target.expectType type).mapError Error.marshal)
  | .copyOut name => withObject name copyOut
  | .borrowed name exclusive steps => withObject name fun target =>
      holding target.cell (whileBorrowed target exclusive (runSteps steps))
  | .ref name key number => withObject name fun target => viewAsRef target key number
  | .fromValue type operand => convert type operand
  | .kind operand => return .text (← evaluate operand).kind
  | .equal a b => do
      let first ← evaluate a
      let second ← evaluate b
      return .flag ((← readHeap).sameValue first second)
  | .allocate name as => withObject name fun target => allocateHandle target as
  | .resolve handle as => resolveHandle handle as
  | .release handle => releaseHandle handle
  | .isLive handle => isLive handle
  | .registry => showRegistry
  | .buffer name text capacity => makeBufferNamed name text capacity
  | .bufferAlias name copy => withBuffer name fun buffer => do
      nameBuffer copy buffer
      return .done
  | .bufferSet name text => withBuffer name fun buffer => changeBuffer buffer fun _ => text
  | .bufferPush name text => withBuffer name fun buffer => changeBuffer buffer fun s => s ++ text
  | .bufferShow name => withBuffer name showBuffer
  | .bufferInspect name => withBuffer name inspectBuffer
  | .nativeBuffer name bytes => makeNativeBuffer name bytes
  | .nativeBufferShow name => showNativeBuffer name
  | .callableType signature name => makeType signature name .callableType
  | .typeOf function name =>
      match typedFunction? function with
      | some function => makeType function.signature name .typeName
      | none => return .noFunction
  | .sameType a b => compareTypes a b
  | .cachedTypes => return .count (← get).world.types.size
  | .wrap function name =>
      match typedFunction? function with
      | some function => wrapFunction function name
      | none => return .noFunction
  | .wrapDynamic type script name => wrapScript type script name
  | .function source type name => makeFunction source type name
  | .call name request as => withFunction name fun function => callFunction function request as
  | .typed name shape args => withFunction name fun function =>
      match typedFunction? shape with
      | some shape => callTyped function shape args
      | none => return .noFunction
  | .fault => takeFault
  | .hostNotes => takeHostNotes
  | .inspect subject => inspectSubject subject
  | .describe key semantics requests name =>
      nameDescription name (describe key semantics requests)
  | .describeSample name => nameDescription name sampleDescription
  | .plan name rules => withDescription name fun description =>
      return planDescription description rules
  | .invoke name index receiver args => withMember name index fun member =>
      invokeMember member receiver args
  | .synthesize name index symbol closure => withMember name index fun member =>
      synthesizeMember member symbol closure
  | .session backend rules => openSession backend rules
  | .sessionOfConfig source => openConfigured source
  | .endSession => closeSession
  | .serviceNotes => takeServiceNotes
  | .info => showSession
  | .inSession step => performSessionStep step
  | .addDynamicSymbol name type script => addScript name type script
  | .addNative name closure => addClosure name closure
  | .symbolAddress name => inSession (Session.symbolAddress name) fun _ => return .flag true
  | .getSymbol name type function => findSymbol name type function
  | .typedSymbol name shape args =>
      requireSession <|
        match typedFunction? shape with
        | some shape => callSymbol name shape args
        | none => return .noFunction
  | .bind name rules =>
      requireSession <| withDescription name fun description => bindDescription description rules
  | .bindSample => inSession (Session.bindType sampleDescription) fun names =>
      return .texts names
  | .diagnosticHandler => installHandler
  | .run args program => runProgram args program
  | .unknown name => return .unknownStep name

/-- Take steps in order. -/
def runSteps : List Step → BenchM (List Answer)
  | [] => return []
  | step :: rest => do
      let answer ← step.perform
      let answers ← runSteps rest
      return answer :: answers

end

/-- Run a scenario from a fresh bench, in a file system. -/
def runScenario (files : FileSystem) (steps : List Step) : List Answer :=
  ((runSteps steps).run (.initial files)).1

end NativeBridge.Workbench
