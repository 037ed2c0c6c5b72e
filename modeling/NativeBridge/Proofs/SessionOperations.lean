/-
Module: NativeBridge.Proofs.SessionOperations
Purpose: Each operation of a session moves the session as it should.
Main exports: Session.setOutputMode_orderly, Session.compileWith_orderly,
  Session.relocate_orderly, Session.run_orderly, Session.outputFile_orderly,
  Session.getSymbol_orderly
-/
import NativeBridge.Proofs.SessionLifecycle

namespace NativeBridge

variable {σ κ : Type} [HostProgram κ]

/-!
The checks of an operation come first; they look at the session and leave it alone.  What they let
through tells that the call which comes next comes in time.
-/

namespace SessionM

open Session

variable {α β : Type} {session : Session (Logged σ)} {world : World κ}

theorem OrderlyAt.current {next : Session (Logged σ) → SessionM (Logged σ) κ α}
    (later : (next session).OrderlyAt session world) :
    (Session.current >>= next).OrderlyAt session world := by
  apply SessionM.OrderlyAt.silent rfl
  intro same looked
  cases looked
  exact later

theorem OrderlyAt.require {condition : Bool} {error : Error}
    {next : Unit → SessionM (Logged σ) κ α}
    (later : condition = true → (next ()).OrderlyAt session world) :
    (Session.require condition error >>= next).OrderlyAt session world := by
  cases condition with
  | true =>
    apply SessionM.OrderlyAt.silent rfl
    intro _ _
    exact later rfl
  | false =>
    apply SessionM.OrderlyAt.silent rfl
    intro _ passed
    cases passed

/-- Something in the process alone comes before the rest of an operation. -/
theorem OrderlyAt.inWorld {step : World κ → Except Error α × World κ}
    {next : α → SessionM (Logged σ) κ β} (later : ∀ a left, (next a).OrderlyAt session left) :
    (Session.inWorld step >>= next).OrderlyAt session world := by
  have stepped := inWorld_apply step session world
  refine .silent ?_ ?_
  · rw [stepped]
  · intro a _
    exact later a _

theorem OrderlyAt.ofExcept {result : Except Error α} {next : α → SessionM (Logged σ) κ β}
    (later : ∀ a, result = .ok a → (next a).OrderlyAt session world) :
    (MonadExcept.ofExcept result >>= next).OrderlyAt session world := by
  have passed := ofExcept_apply result (session, world)
  refine .silent ?_ ?_
  · rw [passed]
  · intro a same
    rw [passed] at same ⊢
    exact later a same

theorem OrderlyAt.throw (error : Error) :
    (MonadExcept.throw error : SessionM (Logged σ) κ α).OrderlyAt session world :=
  .same _ _

/-- Answering something else at the end changes nothing. -/
theorem OrderlyAt.then_pure {operation : SessionM (Logged σ) κ α}
    (orderly : operation.OrderlyAt session world) (b : β) :
    (operation >>= fun _ => Pure.pure b).OrderlyAt session world := by
  rw [OrderlyAt, bind_apply]
  rw [OrderlyAt] at orderly
  revert orderly
  obtain ⟨result, after, left⟩ := operation (session, world)
  intro orderly
  cases result with
  | error error =>
    exact ⟨orderly.lawful, orderly.stage, orderly.log, fun _ _ => orderly.failure _ rfl⟩
  | ok a => exact ⟨orderly.lawful, orderly.stage, orderly.log, fun _ same => by cases same⟩

theorem KeepsAt.forM {step : α → SessionM (Logged σ) κ Unit}
    (each : ∀ a session world, (step a).KeepsAt session world) (items : List α)
    (session : Session (Logged σ)) (world : World κ) : (items.forM step).KeepsAt session world := by
  induction items generalizing session world with
  | nil => exact .of_ok () rfl rfl rfl
  | cons first rest ih =>
    refine .bind (each first session world) ?_
    intro _ _
    exact ih _ _

end SessionM

namespace Session

variable {session : Session (Logged σ)} {world : World κ}

/-! ### Checks -/

variable {α : Type}

theorem requireOutput_then {next : OutputMode → SessionM (Logged σ) κ α}
    (later : ∀ mode, session.output = some mode → (next mode).OrderlyAt session world) :
    (requireOutput >>= next).OrderlyAt session world := by
  have checked := SessionM.requireOutput_apply session world
  refine .silent ?_ ?_
  · rw [checked]
  · intro mode same
    rw [checked] at same ⊢
    cases output : session.output with
    | none =>
      rw [output] at same
      cases same
    | some chosen =>
      rw [output] at same
      cases same
      exact later mode output

theorem requireMemory_then {next : Unit → SessionM (Logged σ) κ α}
    (later : session.output = some .memory → (next ()).OrderlyAt session world) :
    (requireMemory >>= next).OrderlyAt session world := by
  rw [requireMemory, bind_assoc]
  apply requireOutput_then
  intro mode output
  apply SessionM.OrderlyAt.require
  intro same
  rw [eq_of_beq same] at output
  exact later output

theorem requireCompiled_then {next : Unit → SessionM (Logged σ) κ α}
    (later : session.stage = .compiled → (next ()).OrderlyAt session world) :
    (requireCompiled >>= next).OrderlyAt session world := by
  rw [requireCompiled, bind_assoc]
  apply SessionM.OrderlyAt.current
  cases stage : session.stage with
  | empty => exact .silent rfl fun _ passed => by cases passed
  | compiled => exact later stage
  | relocated => exact .silent rfl fun _ passed => by cases passed

/-! ### Configuration -/

variable [CompilationService σ κ]

/-- A call that always comes in time and says nothing about mode and stage. -/
def IsFree (call : ServiceCall) : Prop :=
  ∀ accepted, (Exchange.performed call accepted).IsNeutral ∧
    ∀ log, Timely log (.performed call accepted)

theorem request_free {call : ServiceCall} (free : IsFree call) (session : Session (Logged σ))
    (world : World κ) : (request call : SessionM (Logged σ) κ Unit).KeepsAt session world :=
  .request (fun _ accepted => (free accepted).2 _) fun accepted => (free accepted).1

theorem addLibrary_isFree (name : String) : IsFree (.addLibrary name) :=
  fun _ => ⟨⟨rfl, rfl, rfl⟩, fun _ => trivial⟩

theorem addLibrary_orderly (name : String) (session : Session (Logged σ)) (world : World κ) :
    (addLibrary name : SessionM (Logged σ) κ Unit).OrderlyAt session world := by
  apply SessionM.OrderlyAt.current
  split
  · have keeps : session.Keeps (.ok () : Except Error Unit)
        { session with pendingLibraries := session.pendingLibraries ++ [name] } :=
      .of_ok () rfl rfl rfl
    exact keeps.moves
  · exact (request_free (addLibrary_isFree name) session world).moves

theorem setDiagnosticHandler_orderly (handler : DiagnosticHandler κ) (session : Session (Logged σ))
    (world : World κ) :
    (setDiagnosticHandler handler : SessionM (Logged σ) κ Unit).OrderlyAt session world where
  lawful lawful := lawful.neutral .diagnosticsTaken trivial ⟨rfl, rfl, rfl⟩ rfl rfl rfl
  stage := .stays _
  log := ⟨[.diagnosticsTaken], rfl⟩
  failure _ same := by cases same

/-- The output mode is chosen while nothing is compiled; libraries that waited follow.  A mode that
the compiler took stays chosen even if it refuses one of them. -/
theorem setOutputMode_orderly (mode : OutputMode) (session : Session (Logged σ)) (world : World κ) :
    (setOutputMode mode : SessionM (Logged σ) κ Unit).OrderlyAt session world := by
  apply SessionM.OrderlyAt.current
  apply SessionM.OrderlyAt.require
  intro fresh
  have empty : session.stage = .empty := eq_of_beq fresh
  refine .request_then ?_ ⟨rfl, rfl, rfl⟩ ?_
  · intro lawful _
    have fits := lawful.stage
    rw [empty] at fits
    exact fits
  · intro service left answered
    refine ⟨{ answered with output := some mode, pendingLibraries := [] }, ?_, .stays _, rfl, ?_⟩
    · intro lawful
      have fits := lawful.stage
      refine ⟨.cons ?_ lawful.inOrder, rfl, fits.cons rfl rfl⟩
      rw [empty] at fits
      exact fits
    · exact SessionM.KeepsAt.forM (fun library => request_free (addLibrary_isFree library))
        session.pendingLibraries _ left

/-! ### Compilation -/

/-- A call that compiles when it is granted. -/
structure IsCompile (call : ServiceCall) : Prop where
  compiles : (Exchange.performed call true).compiles = true
  links : (Exchange.performed call true).links = false
  chosen : (Exchange.performed call true).chosen? = none
  refused : (Exchange.performed call false).IsNeutral
  timely : ∀ {log : List Exchange} {mode : OutputMode} (accepted : Bool), modeIn log = some mode →
    ¬ LinkedIn log → Timely log (.performed call accepted)

theorem compileWith_orderly {call : ServiceCall} (compile : IsCompile call)
    (session : Session (Logged σ)) (world : World κ) :
    (compileWith call : SessionM (Logged σ) κ Unit).OrderlyAt session world := by
  apply requireOutput_then
  intro mode output
  apply SessionM.OrderlyAt.current
  apply SessionM.OrderlyAt.require
  intro unlinked
  have unlinked : session.stage ≠ .relocated := by simpa using unlinked
  have timely (lawful : session.Lawful) (accepted : Bool) :
      Timely session.service.log (.performed call accepted) :=
    compile.timely accepted (lawful.output.symm.trans output) (lawful.not_linked unlinked)
  refine .request_update timely compile.refused (fun _ => rfl) ?_ ?_
  · intro lawful service
    refine ⟨.cons (timely lawful true) lawful.inOrder, ?_, ?_, ?_⟩
    · show session.output = modeIn (_ :: _)
      rw [lawful.output, modeIn, modeIn, List.findSome?_cons, compile.chosen]
    · exact compiledIn_cons.mpr (.inl compile.compiles)
    · intro linked
      rcases linkedIn_cons.mp linked with here | earlier
      · rw [compile.links] at here
        cases here
      · exact lawful.not_linked unlinked earlier
  · intro service
    show session.stage.Next .compiled
    cases stage : session.stage with
    | empty => exact .compiled
    | compiled => exact .stays _
    | relocated => exact absurd stage unlinked

theorem compileString_isCompile (source : String) : IsCompile (.compileString source) where
  compiles := rfl
  links := rfl
  chosen := rfl
  refused := ⟨rfl, rfl, rfl⟩
  timely _ chosen unlinked := ⟨⟨_, chosen⟩, unlinked⟩

theorem addFile_isCompile (path : String) : IsCompile (.addFile path) where
  compiles := rfl
  links := rfl
  chosen := rfl
  refused := ⟨rfl, rfl, rfl⟩
  timely _ chosen unlinked := ⟨⟨_, chosen⟩, unlinked⟩

/-! ### Linking and running -/

/-- What linked or ran compiled code in memory has linked it. -/
theorem Lawful.link (lawful : session.Lawful) (output : session.output = some .memory)
    (stage : session.stage = .compiled) (exchange : Exchange) (links : exchange.links = true)
    (chosen : exchange.chosen? = none)
    (timely : modeIn session.service.log = some .memory → CompiledIn session.service.log →
      ¬ LinkedIn session.service.log → Timely session.service.log exchange) (service : σ) :
    Lawful { session with
      service := ⟨service, exchange :: session.service.log⟩, stage := .relocated } := by
  have fits := lawful.stage
  rw [stage] at fits
  refine ⟨.cons ?_ lawful.inOrder, ?_, ?_⟩
  · exact timely (lawful.output.symm.trans output) fits.1 fits.2
  · show session.output = modeIn (_ :: _)
    rw [lawful.output, modeIn, modeIn, List.findSome?_cons, chosen]
  · exact linkedIn_cons.mpr (.inl links)

theorem relocate_orderly (session : Session (Logged σ)) (world : World κ) :
    (relocate : SessionM (Logged σ) κ Unit).OrderlyAt session world := by
  apply requireMemory_then
  intro output
  apply requireCompiled_then
  intro stage
  refine .request_update ?_ ⟨rfl, rfl, rfl⟩ (fun _ => rfl) ?_ ?_
  · intro lawful _
    have fits := lawful.stage
    rw [stage] at fits
    exact ⟨lawful.output.symm.trans output, fits⟩
  · intro lawful service
    exact lawful.link output stage (.performed .relocate true) rfl rfl
      (fun mode compiled linked => ⟨mode, compiled, linked⟩) service
  · intro service
    show session.stage.Next .relocated
    rw [stage]
    exact .linked

/-- Running asks the service once. -/
theorem runIsolated_apply (args : List String) (session : Session (Logged σ)) (world : World κ) :
    ∃ result fault service left,
      (runIsolated args : SessionM (Logged σ) κ _) (session, world) =
        (.ok (result, fault),
          { session with service := ⟨service, .ran args :: session.service.log⟩ }, left) :=
  ⟨_, _, _, _, rfl⟩

theorem run_orderly (args : List String) (session : Session (Logged σ)) (world : World κ) :
    (run args : SessionM (Logged σ) κ Int32).OrderlyAt session world := by
  apply requireMemory_then
  intro output
  apply requireCompiled_then
  intro stage
  rw [SessionM.OrderlyAt, SessionM.bind_apply]
  obtain ⟨result, fault, service, left, ran⟩ := runIsolated_apply args session world
  rw [ran]
  have ends (outcome : Except Error Int32) : session.Moves outcome
      { session with
        service := ⟨service, .ran args :: session.service.log⟩, stage := .relocated } := {
    lawful := fun lawful => lawful.link output stage (.ran args) rfl rfl
      (fun mode compiled linked => ⟨mode, compiled, linked⟩) service
    stage := by
      rw [stage]
      exact .linked
    log := ⟨[.ran args], rfl⟩
    failure := fun _ _ => .inr ⟨.ran args, [], trivial, rfl⟩ }
  cases fault with
  | some error => exact ends (.error error)
  | none =>
    cases result with
    | error error => exact ends (.error error)
    | ok code => exact ends (.ok code)

theorem outputFile_orderly (path : String) (session : Session (Logged σ)) (world : World κ) :
    (outputFile path : SessionM (Logged σ) κ Unit).OrderlyAt session world := by
  apply requireOutput_then
  intro mode output
  apply SessionM.OrderlyAt.require
  intro emits
  apply SessionM.OrderlyAt.current
  apply SessionM.OrderlyAt.require
  intro begun
  have begun : session.stage ≠ .empty := by simpa using begun
  have keeps : (request (.outputFile path) : SessionM (Logged σ) κ Unit).KeepsAt session world := by
    refine .request ?_ fun _ => ⟨rfl, rfl, rfl⟩
    intro lawful _
    exact ⟨⟨mode, lawful.output.symm.trans output, emits⟩, lawful.compiled begun⟩
  exact keeps.moves

/-! ### Looking names up -/

/-- A session that has looked a name up in linked code. -/
theorem Moves.lookedUp {α : Type} (stage : session.stage = .relocated) (name : String)
    (found : Option UInt64) (service : σ) {result : Except Error α}
    (missing : ∀ error, result = .error error → found = none ∨ found = some 0) :
    session.Moves result
      { session with service := ⟨service, .lookedUp name found :: session.service.log⟩ } where
  lawful lawful := by
    have fits := lawful.stage
    rw [stage] at fits
    exact lawful.neutral (.lookedUp name found) fits ⟨rfl, rfl, rfl⟩ rfl rfl rfl
  stage := .stays _
  log := ⟨[.lookedUp name found], rfl⟩
  failure error failed := .inr ⟨.lookedUp name found, [], missing error failed, rfl⟩

/-- A name is looked up in linked code only. -/
theorem symbolAddress_cases (name : String) (session : Session (Logged σ)) (world : World κ) :
    (∃ error, (symbolAddress name : SessionM (Logged σ) κ UInt64) (session, world) =
      (.error error, session, world)) ∨
    session.stage = .relocated ∧ ∃ found service left,
      (symbolAddress name : SessionM (Logged σ) κ UInt64) (session, world) =
        (found.elim (.error (.link (.symbolNotFound name))) .ok,
          { session with service := ⟨service, .lookedUp name found :: session.service.log⟩ },
          left) := by
  by_cases linked : session.stage = .relocated
  · let answer := CompilationService.symbolAddress name session.service.service world
    refine .inr ⟨linked, answer.1, answer.2.1, answer.2.2, ?_⟩
    rw [SessionM.symbolAddress_apply name linked world]
    rfl
  · rw [symbolAddress, SessionM.bind_apply, SessionM.current_apply]
    dsimp only
    cases stage : session.stage with
    | empty => exact .inl ⟨_, rfl⟩
    | compiled => exact .inl ⟨_, rfl⟩
    | relocated => exact absurd stage linked

theorem symbolAddress_orderly (name : String) (session : Session (Logged σ)) (world : World κ) :
    (symbolAddress name : SessionM (Logged σ) κ UInt64).OrderlyAt session world := by
  rw [SessionM.OrderlyAt]
  obtain ⟨error, refused⟩ | ⟨stage, found, service, left, answered⟩ :=
    symbolAddress_cases name session world
  · rw [refused]
    exact .same _ _
  · rw [answered]
    refine .lookedUp stage name found service ?_
    intro error failed
    cases found with
    | none => exact .inl rfl
    | some address => cases failed

theorem getSymbol_orderly (name : String) (type : CallableType κ) (session : Session (Logged σ))
    (world : World κ) :
    (getSymbol name type : SessionM (Logged σ) κ (ForeignFunction κ)).OrderlyAt session world := by
  rw [SessionM.OrderlyAt, getSymbol, SessionM.bind_apply]
  obtain ⟨error, refused⟩ | ⟨stage, found, service, left, answered⟩ :=
    symbolAddress_cases name session world
  · rw [refused]
    exact .same _ _
  · rw [answered]
    cases found with
    | none => exact .lookedUp stage name none service fun _ _ => .inl rfl
    | some address =>
      dsimp only [Option.elim]
      rw [SessionM.ofExcept_apply]
      refine .lookedUp stage name (some address) service ?_
      intro error failed
      by_cases null : address = 0
      · rw [null]
        exact .inr rfl
      · rw [ForeignFunction.atAddress, if_neg null] at failed
        cases failed

theorem function_orderly (name : String) (parameters : List (MarshalType κ))
    (result : MarshalType κ) (session : Session (Logged σ)) (world : World κ) :
    (function name parameters result :
      SessionM (Logged σ) κ (ForeignFunction κ)).OrderlyAt session world := by
  apply SessionM.OrderlyAt.inWorld
  intro type left
  exact getSymbol_orderly name type session left

end Session

end NativeBridge
