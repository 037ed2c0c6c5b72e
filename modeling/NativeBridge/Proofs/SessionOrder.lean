/-
Module: NativeBridge.Proofs.SessionOrder
Purpose: Whatever is done with a session, its compilation service is asked in order, and an
  operation that the session refuses changes nothing.
Main exports: Session.Operation, Session.Operation.perform_orderly, Session.lawful_performAll,
  Session.ofConfig_performed, Session.operations_inOrder
-/
import NativeBridge.Proofs.KeptLog
import NativeBridge.Proofs.SymbolOperations

namespace NativeBridge

variable {σ κ : Type} [HostProgram κ]

namespace Session

/-- An operation on a session with all that it is given; anything may happen in the process between
two operations. -/
inductive Operation (κ : Type) [HostProgram κ] where
  | withNaming (naming : Naming.NamingRules)
  | setOutputMode (mode : OutputMode)
  | setLibPath (path : String)
  | setOptions (options : String)
  | addIncludePath (path : String)
  | addSysincludePath (path : String)
  | addLibraryPath (path : String)
  | defineSymbol (name : String) (value : Option String)
  | undefineSymbol (name : String)
  | addLibrary (name : String)
  | setDiagnosticHandler (handler : DiagnosticHandler κ)
  | compileString (source : String)
  | addFile (path : String)
  | register (name : String) (address : UInt64)
  | addSymbol (name : String) (called : HostFunction κ)
  | addDynamicSymbol (name : String) (type : CallableType κ) (body : List (Value κ) → Code κ)
  | ensureReleaseSymbol (name : String)
  | releaseHandle (handle : UInt64)
  | bind (description : TypeDescription κ) (rules : Naming.NamingRules)
  | bindType (description : TypeDescription κ)
  | relocate
  | run (args : List String)
  | outputFile (path : String)
  | symbolAddress (name : String)
  | getSymbol (name : String) (type : CallableType κ)
  | function (name : String) (parameters : List (MarshalType κ)) (result : MarshalType κ)
  | elsewhere (change : World κ → World κ)

variable [CompilationService σ κ]

/-- Perform an operation for what it does, and drop what it answers. -/
def Operation.perform : Operation κ → SessionM σ κ Unit
  | .withNaming naming => update fun session => session.withNaming naming
  | .setOutputMode mode => Session.setOutputMode mode
  | .setLibPath path => Session.setLibPath path
  | .setOptions options => Session.setOptions options
  | .addIncludePath path => Session.addIncludePath path
  | .addSysincludePath path => Session.addSysincludePath path
  | .addLibraryPath path => Session.addLibraryPath path
  | .defineSymbol name value => Session.defineSymbol name value
  | .undefineSymbol name => Session.undefineSymbol name
  | .addLibrary name => Session.addLibrary name
  | .setDiagnosticHandler handler => Session.setDiagnosticHandler handler
  | .compileString source => Session.compileString source
  | .addFile path => Session.addFile path
  | .register name address => Session.register name address
  | .addSymbol name called => Session.addSymbol name called
  | .addDynamicSymbol name type body => Session.addDynamicSymbol name type body
  | .ensureReleaseSymbol name => Session.ensureReleaseSymbol name
  | .releaseHandle handle => Session.releaseHandle handle
  | .bind description rules => do
      let _ ← Session.bind description rules
      return
  | .bindType description => do
      let _ ← Session.bindType description
      return
  | .relocate => Session.relocate
  | .run args => do
      let _ ← Session.run args
      return
  | .outputFile path => Session.outputFile path
  | .symbolAddress name => do
      let _ ← Session.symbolAddress name
      return
  | .getSymbol name type => do
      let _ ← Session.getSymbol name type
      return
  | .function name parameters result => do
      let _ ← Session.function name parameters result
      return
  | .elsewhere change => inWorld fun world => (.ok (), change world)

/-- Perform operations one after another, whether they fail or not. -/
def performAll (operations : List (Operation κ)) (state : Session σ × World κ) :
    Session σ × World κ :=
  operations.foldl (fun state operation => (operation.perform state).2) state

/-- Every operation moves every session as it should. -/
theorem Operation.perform_orderly (operation : Operation κ) (session : Session (Logged σ))
    (world : World κ) :
    (operation.perform : SessionM (Logged σ) κ Unit).OrderlyAt session world := by
  have free {call : ServiceCall} (free : IsFree call) :
      (request call : SessionM (Logged σ) κ Unit).OrderlyAt session world :=
    (request_free free session world).moves
  cases operation with
  | withNaming naming =>
    have keeps : session.Keeps (.ok () : Except Error Unit) (session.withNaming naming) :=
      .of_ok () rfl rfl rfl
    exact keeps.moves
  | setOutputMode mode => exact setOutputMode_orderly mode session world
  | setLibPath path => exact free fun _ => ⟨⟨rfl, rfl, rfl⟩, fun _ => trivial⟩
  | setOptions options => exact free fun _ => ⟨⟨rfl, rfl, rfl⟩, fun _ => trivial⟩
  | addIncludePath path => exact free fun _ => ⟨⟨rfl, rfl, rfl⟩, fun _ => trivial⟩
  | addSysincludePath path => exact free fun _ => ⟨⟨rfl, rfl, rfl⟩, fun _ => trivial⟩
  | addLibraryPath path => exact free fun _ => ⟨⟨rfl, rfl, rfl⟩, fun _ => trivial⟩
  | defineSymbol name value => exact free fun _ => ⟨⟨rfl, rfl, rfl⟩, fun _ => trivial⟩
  | undefineSymbol name => exact free fun _ => ⟨⟨rfl, rfl, rfl⟩, fun _ => trivial⟩
  | addLibrary name => exact addLibrary_orderly name session world
  | setDiagnosticHandler handler => exact setDiagnosticHandler_orderly handler session world
  | compileString source => exact compileWith_orderly (compileString_isCompile source) session world
  | addFile path => exact compileWith_orderly (addFile_isCompile path) session world
  | register name address => exact register_orderly name address session world
  | addSymbol name called => exact addSymbol_orderly name called session world
  | addDynamicSymbol name type body => exact addDynamicSymbol_orderly name type body session world
  | ensureReleaseSymbol name => exact ensureReleaseSymbol_orderly name session world
  | releaseHandle handle =>
    apply SessionM.OrderlyAt.current
    rw [SessionM.OrderlyAt, SessionM.inWorld_apply]
    exact .same _ _
  | bind description rules => exact (bind_orderly description rules session world).then_pure ()
  | bindType description => exact (bindType_orderly description session world).then_pure ()
  | relocate => exact relocate_orderly session world
  | run args => exact (run_orderly args session world).then_pure ()
  | outputFile path => exact outputFile_orderly path session world
  | symbolAddress name => exact (symbolAddress_orderly name session world).then_pure ()
  | getSymbol name type => exact (getSymbol_orderly name type session world).then_pure ()
  | function name parameters result =>
    exact (function_orderly name parameters result session world).then_pure ()
  | elsewhere change =>
    rw [SessionM.OrderlyAt, perform, SessionM.inWorld_apply]
    exact .same _ _

/-- Every operation does the same on services that answer alike. -/
theorem Operation.perform_along {ρ : Type} [CompilationService ρ κ] {map : σ → ρ}
    (alike : ServiceMap map) (operation : Operation κ) :
    (operation.perform : SessionM σ κ Unit).Along map operation.perform := by
  cases operation with
  | withNaming naming => exact fun _ _ => rfl
  | setOutputMode mode => exact setOutputMode_along alike mode
  | setLibPath path => exact .request alike _
  | setOptions options => exact .request alike _
  | addIncludePath path => exact .request alike _
  | addSysincludePath path => exact .request alike _
  | addLibraryPath path => exact .request alike _
  | defineSymbol name value => exact .request alike _
  | undefineSymbol name => exact .request alike _
  | addLibrary name => exact addLibrary_along alike name
  | setDiagnosticHandler handler => exact setDiagnosticHandler_along alike handler
  | compileString source => exact compileWith_along alike _
  | addFile path => exact compileWith_along alike _
  | register name address => exact register_along alike name address
  | addSymbol name called =>
    exact .bind (.inWorld _) fun address => register_along alike name address
  | addDynamicSymbol name type body =>
    exact .bind (.inWorld _) fun address => register_along alike name address
  | ensureReleaseSymbol name => exact ensureReleaseSymbol_along alike name
  | releaseHandle handle => exact .current fun session => .inWorld _
  | bind description rules => exact .bind (bind_along alike description rules) fun _ => .pure ()
  | bindType description =>
    refine .bind ?_ fun _ => .pure ()
    exact .current fun session => bind_along alike description session.naming
  | relocate => exact relocate_along alike
  | run args => exact .bind (run_along alike args) fun _ => .pure ()
  | outputFile path => exact outputFile_along alike path
  | symbolAddress name => exact .bind (symbolAddress_along alike name) fun _ => .pure ()
  | getSymbol name type => exact .bind (getSymbol_along alike name type) fun _ => .pure ()
  | function name parameters result =>
    refine .bind ?_ fun _ => .pure ()
    exact .bind (.inWorld _) fun type => getSymbol_along alike name type
  | elsewhere change => exact fun _ _ => rfl

/-! ### Runs of operations -/

/-- Operations do the same on services that answer alike. -/
theorem performAll_along {ρ : Type} [CompilationService ρ κ] {map : σ → ρ}
    (alike : ServiceMap map) (operations : List (Operation κ)) (session : Session σ)
    (world : World κ) :
    performAll operations (session.mapService map, world) =
      ((performAll operations (session, world)).1.mapService map,
        (performAll operations (session, world)).2) := by
  induction operations generalizing session world with
  | nil => rfl
  | cons operation rest ih =>
    have first := congrArg Prod.snd (operation.perform_along alike session world)
    rw [performAll, List.foldl_cons, first]
    exact ih _ _

/-- Operations do the same whether a log is kept or not. -/
theorem performAll_agrees (operations : List (Operation κ)) (session : Session (Logged σ))
    (world : World κ) :
    performAll operations (session.dropLog, world) =
      ((performAll operations (session, world)).1.dropLog,
        (performAll operations (session, world)).2) :=
  performAll_along logged_serviceMap operations session world

omit [CompilationService σ κ] in
theorem create_lawful (service : σ) (world : World κ) :
    (create (⟨service, []⟩ : Logged σ) world).1.Lawful where
  inOrder := .nil
  output := rfl
  stage := by
    constructor
    · rintro ⟨exchange, found, -⟩
      cases found
    · rintro ⟨exchange, found, -⟩
      cases found

/-- A session stays lawful whatever is done with it. -/
theorem lawful_performAll (operations : List (Operation κ)) {session : Session (Logged σ)}
    (lawful : session.Lawful) (world : World κ) :
    (performAll operations (session, world)).1.Lawful := by
  induction operations generalizing session world with
  | nil => exact lawful
  | cons operation rest ih => exact ih ((operation.perform_orderly session world).lawful lawful) _

/-! ### Sessions from a configuration -/

/-- Something that was come to by operations. -/
def Performed (before after : Session σ × World κ) : Prop :=
  ∃ operations : List (Operation κ), after = performAll operations before

theorem performed_stepwise : Stepwise (Performed : Session σ × World κ → _ → Prop) where
  refl state := ⟨[], rfl⟩
  trans := by
    rintro first _ _ ⟨some, rfl⟩ ⟨more, rfl⟩
    exact ⟨some ++ more, by rw [performAll, performAll, performAll, List.foldl_append]⟩

theorem perform_performed (operation : Operation κ) :
    (operation.perform : SessionM σ κ Unit).Respects Performed :=
  fun _ => ⟨[operation], rfl⟩

theorem applySettings_performed (settings : Config.CompilerSection) (output : Option OutputMode) :
    (applySettings settings output : SessionM σ κ Unit).Respects Performed := by
  have steps : Stepwise (Performed : Session σ × World κ → _ → Prop) := performed_stepwise
  have ifGiven {α : Type} {step : α → SessionM σ κ Unit} (each : ∀ a, (step a).Respects Performed)
      (given : Option α) : (given.forM step).Respects Performed := by
    cases given with
    | none => exact .pure steps ()
    | some a => exact each a
  have forEach {α : Type} {step : α → SessionM σ κ Unit} (each : ∀ a, (step a).Respects Performed)
      (items : List α) : (items.forM step).Respects Performed := .forM steps each items
  apply SessionM.Respects.bind steps
    (ifGiven (fun path => perform_performed (.setLibPath path)) _)
  intro _
  apply SessionM.Respects.bind steps
    (forEach (fun path => perform_performed (.addIncludePath path)) _)
  intro _
  apply SessionM.Respects.bind steps
    (forEach (fun path => perform_performed (.addSysincludePath path)) _)
  intro _
  apply SessionM.Respects.bind steps
    (forEach (fun path => perform_performed (.addLibraryPath path)) _)
  intro _
  have define (definition : String × String) :
      (defineSymbol definition.1 (some definition.2) : SessionM σ κ Unit).Respects Performed :=
    perform_performed (.defineSymbol definition.1 (some definition.2))
  apply SessionM.Respects.bind steps (forEach define _)
  intro _
  apply SessionM.Respects.bind steps
    (ifGiven (fun options => perform_performed (.setOptions options)) _)
  intro _
  apply SessionM.Respects.bind steps
    (forEach (fun name => perform_performed (.addLibrary name)) _)
  intro _
  exact ifGiven (fun mode => perform_performed (.setOutputMode mode)) _

/-- A session from a configuration is what operations make of a new one. -/
theorem ofConfig_performed {config : Config} {load : String → World κ → Except Error σ × World κ}
    {world left : World κ} {session : Session σ}
    (made : ofConfig config load world = (.ok session, left)) :
    ∃ (service : σ) (loaded : World κ), Performed (create service loaded) (session, left) := by
  rw [ofConfig] at made
  split at made
  · cases made
  · next service loaded _ =>
    refine ⟨service, loaded, ?_⟩
    dsimp only at made
    split at made
    · cases made
    · next naming _ =>
      split at made
      · next ended applied =>
        cases made
        have settled := applySettings_performed config.compiler config.output
          ((create service loaded).1.withNaming naming, (create service loaded).2)
        rw [applied] at settled
        exact performed_stepwise.trans (perform_performed (.withNaming naming) _) settled
      · cases made

/-- Whatever operations are performed on a new session, its service is asked in order, and a log of
what it is asked tells the session's output mode and stage.  Any further operation takes the stage
one step on at most.  If it fails, then either the service was asked nothing and the session is as
it was, or it fails because of the last thing that the service was asked.  This holds however the
service answers; that the service keeps a log makes no difference, and a session from a
configuration is a new one on which operations were performed. -/
theorem operations_inOrder (service : σ) (world : World κ) (operations : List (Operation κ)) :
    let reached := performAll operations (create (⟨service, []⟩ : Logged σ) world)
    let session := reached.1
    (∀ later exchange earlier, session.service.log = later ++ exchange :: earlier →
      Timely earlier exchange) ∧
    session.output = modeIn session.service.log ∧
    StageFits session.service.log session.stage ∧
    (∀ operation : Operation κ,
      let answer := operation.perform reached
      session.stage.Next answer.2.1.stage ∧
      (∃ recent, answer.2.1.service.log = recent ++ session.service.log) ∧
      ∀ error, answer.1 = .error error → answer.2.1 = session ∨ session.FailedLast answer.2.1) ∧
    performAll operations (create service world) = (session.dropLog, reached.2) ∧
    ∀ (config : Config) (load : String → World κ → Except Error σ × World κ) (session : Session σ)
      (left : World κ), ofConfig config load world = (.ok session, left) →
        ∃ (service : σ) (loaded : World κ) (operations : List (Operation κ)),
          (session, left) = performAll operations (create service loaded) := by
  intro reached session
  have lawful : session.Lawful := lawful_performAll operations (create_lawful service world) _
  refine ⟨?_, lawful.output, lawful.stage, ?_, ?_, ?_⟩
  · intro later exchange earlier parted
    exact lawful.inOrder.timely parted
  · intro operation
    have moves := operation.perform_orderly session reached.2
    exact ⟨moves.stage, moves.log, moves.failure⟩
  · exact performAll_agrees operations (create (⟨service, []⟩ : Logged σ) world).1 _
  · intro config load session left made
    exact ofConfig_performed made

end Session

end NativeBridge
