/-
Module: NativeBridge.Proofs.ServiceLog
Purpose: A compilation service that keeps a log, and the order in which a log may grow.
Main exports: Exchange, Logged, modeIn, CompiledIn, LinkedIn, StageFits, Timely, InOrder,
  InOrder.timely
-/
import NativeBridge.Session.Basic

namespace NativeBridge

variable {σ κ : Type} [HostProgram κ]

/-!
A service that keeps a log answers like the service inside it.  The log says what the session asked
for, latest first, and what it got; the mode and the stage of a session can be read off it.
-/

/-- Something that a compilation service was asked for, and whether it was granted. -/
inductive Exchange where
  | performed (call : ServiceCall) (accepted : Bool)
  | ran (args : List String)
  | lookedUp (name : String) (found : Option UInt64)
  | diagnosticsTaken
deriving Repr, DecidableEq

/-- A compilation service with its log, latest first. -/
structure Logged (σ : Type) where
  service : σ
  log : List Exchange

instance [CompilationService σ κ] : CompilationService (Logged σ) κ where
  perform call logged world :=
    let answer := CompilationService.perform call logged.service world
    (answer.1, ⟨answer.2.1, .performed call answer.1.isOk :: logged.log⟩, answer.2.2)
  run args logged world :=
    let answer := CompilationService.run args logged.service world
    (answer.1, ⟨answer.2.1, .ran args :: logged.log⟩, answer.2.2)
  symbolAddress name logged world :=
    let answer := CompilationService.symbolAddress name logged.service world
    (answer.1, ⟨answer.2.1, .lookedUp name answer.1 :: logged.log⟩, answer.2.2)
  setDiagnosticHandler handler logged world :=
    let answer := CompilationService.setDiagnosticHandler handler logged.service world
    (⟨answer.1, .diagnosticsTaken :: logged.log⟩, answer.2)
  close logged world := CompilationService.close logged.service world

namespace Exchange

/-- The output mode that a service took. -/
def chosen? : Exchange → Option OutputMode
  | performed (.setOutputMode mode) true => some mode
  | _ => none

/-- A service compiled something. -/
def compiles : Exchange → Bool
  | performed (.compileString _) true | performed (.addFile _) true => true
  | _ => false

/-- A service linked what was compiled, or was let run it. -/
def links : Exchange → Bool
  | performed .relocate true | ran _ => true
  | _ => false

/-- An exchange after which the mode and the stage are as before. -/
def IsNeutral (exchange : Exchange) : Prop :=
  exchange.chosen? = none ∧ exchange.compiles = false ∧ exchange.links = false

/-- An exchange that can be why an operation fails: a call was not granted, a program was run, or no
function is at a name. -/
def CanFail : Exchange → Prop
  | performed _ accepted => accepted = false
  | ran _ => True
  | lookedUp _ found => found = none ∨ found = some 0
  | diagnosticsTaken => False

end Exchange

/-- The output mode that a service took last. -/
def modeIn (log : List Exchange) : Option OutputMode :=
  log.findSome? Exchange.chosen?

/-- Something was compiled. -/
def CompiledIn (log : List Exchange) : Prop :=
  ∃ exchange ∈ log, exchange.compiles = true

/-- Something was linked or run. -/
def LinkedIn (log : List Exchange) : Prop :=
  ∃ exchange ∈ log, exchange.links = true

/-- A log is that of a session at a stage. -/
def StageFits (log : List Exchange) : Stage → Prop
  | .empty => ¬ CompiledIn log ∧ ¬ LinkedIn log
  | .compiled => CompiledIn log ∧ ¬ LinkedIn log
  | .relocated => LinkedIn log

theorem compiledIn_cons {exchange : Exchange} {log : List Exchange} :
    CompiledIn (exchange :: log) ↔ exchange.compiles = true ∨ CompiledIn log := by
  simp [CompiledIn]

theorem linkedIn_cons {exchange : Exchange} {log : List Exchange} :
    LinkedIn (exchange :: log) ↔ exchange.links = true ∨ LinkedIn log := by
  simp [LinkedIn]

theorem StageFits.cons {exchange : Exchange} {log : List Exchange} {stage : Stage}
    (fits : StageFits log stage) (compiles : exchange.compiles = false)
    (links : exchange.links = false) : StageFits (exchange :: log) stage := by
  cases stage <;> simpa [StageFits, compiledIn_cons, linkedIn_cons, compiles, links] using fits

/-- When a service may be asked for something, by what it was asked for earlier. -/
def Timely (earlier : List Exchange) : Exchange → Prop
  | .performed (.setOutputMode _) _ => ¬ CompiledIn earlier ∧ ¬ LinkedIn earlier
  | .performed (.compileString _) _ | .performed (.addFile _) _ =>
      (∃ mode, modeIn earlier = some mode) ∧ ¬ LinkedIn earlier
  | .performed (.addSymbol _ _) _ => ¬ LinkedIn earlier
  | .performed (.outputFile _) _ =>
      (∃ mode, modeIn earlier = some mode ∧ mode.emitsFile = true) ∧ CompiledIn earlier
  | .performed .relocate _ | .ran _ =>
      modeIn earlier = some .memory ∧ CompiledIn earlier ∧ ¬ LinkedIn earlier
  | .lookedUp _ _ => LinkedIn earlier
  | .performed _ _ | .diagnosticsTaken => True

/-- Every exchange of a log came in time. -/
inductive InOrder : List Exchange → Prop
  | nil : InOrder []
  | cons {log : List Exchange} {exchange : Exchange} (timely : Timely log exchange)
      (rest : InOrder log) : InOrder (exchange :: log)

namespace InOrder

variable {log later earlier : List Exchange} {exchange : Exchange}

theorem timely (inOrder : InOrder log) (parted : log = later ++ exchange :: earlier) :
    Timely earlier exchange := by
  induction inOrder generalizing later with
  | nil => cases later <;> cases parted
  | cons here _ ih =>
    cases later with
    | nil =>
      cases parted
      exact here
    | cons first later =>
      rcases List.cons.inj parted with ⟨-, parted⟩
      exact ih parted

/-- Only what was compiled is linked or run. -/
theorem compiled_of_linked (inOrder : InOrder log) (linked : LinkedIn log) : CompiledIn log := by
  rcases linked with ⟨exchange, found, links⟩
  rcases List.append_of_mem found with ⟨later, earlier, parted⟩
  have here := inOrder.timely parted
  have compiled : CompiledIn earlier := by
    cases exchange with
    | performed call accepted =>
      cases call with
      | relocate => exact here.2.1
      | _ => cases links
    | ran args => exact here.2.1
    | lookedUp name found => cases links
    | diagnosticsTaken => cases links
  rcases compiled with ⟨one, among, compiles⟩
  refine ⟨one, ?_, compiles⟩
  rw [parted]
  exact List.mem_append_right _ (List.mem_cons_of_mem _ among)

end InOrder

end NativeBridge
