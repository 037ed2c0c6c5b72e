/-
Module: NativeBridge.Proofs.ServiceMaps
Purpose: Sessions on services that answer alike do the same and are answered the same.
Main exports: ServiceMap, Session.mapService, SessionM.Along, SessionM.Along.bind,
  Session.bind_along
-/
import NativeBridge.Proofs.SessionSteps

namespace NativeBridge

variable {σ ρ κ : Type} [HostProgram κ]

/-!
A service may keep more than another one, a log or a trace, and answer just as the other one.  An
operation cannot tell the two apart: what it does and how it is answered goes through any map from
services to services that answer alike.
-/

/-- A map of services under which answers stay the same. -/
structure ServiceMap [CompilationService σ κ] [CompilationService ρ κ] (map : σ → ρ) : Prop where
  perform : ∀ call (service : σ) (world : World κ),
    CompilationService.perform call (map service) world =
      let answer := CompilationService.perform call service world
      (answer.1, map answer.2.1, answer.2.2)
  run : ∀ args (service : σ) (world : World κ),
    CompilationService.run args (map service) world =
      let answer := CompilationService.run args service world
      (answer.1, map answer.2.1, answer.2.2)
  symbolAddress : ∀ name (service : σ) (world : World κ),
    CompilationService.symbolAddress name (map service) world =
      let answer := CompilationService.symbolAddress name service world
      (answer.1, map answer.2.1, answer.2.2)
  setDiagnosticHandler : ∀ (handler : DiagnosticHandler κ) (service : σ) (world : World κ),
    CompilationService.setDiagnosticHandler handler (map service) world =
      let answer := CompilationService.setDiagnosticHandler handler service world
      (map answer.1, answer.2)

/-- The session on the service that a map gives. -/
def Session.mapService (map : σ → ρ) (session : Session σ) : Session ρ where
  service := map session.service
  registry := session.registry
  naming := session.naming
  output := session.output
  stage := session.stage
  pendingLibraries := session.pendingLibraries
  symbols := session.symbols
  releaseSymbols := session.releaseSymbols
  retained := session.retained

namespace SessionM

variable {α β : Type} {map : σ → ρ}

/-- An operation does the same on the services that a map gives. -/
def Along (map : σ → ρ) (operation : SessionM σ κ α) (same : SessionM ρ κ α) : Prop :=
  ∀ session world, same (session.mapService map, world) =
    ((operation (session, world)).1, (operation (session, world)).2.1.mapService map,
      (operation (session, world)).2.2)

namespace Along

theorem pure (a : α) : Along map (Pure.pure a : SessionM σ κ α) (Pure.pure a) :=
  fun _ _ => rfl

theorem throw (error : Error) :
    Along map (MonadExcept.throw error : SessionM σ κ α) (MonadExcept.throw error) :=
  fun _ _ => rfl

theorem bind {operation : SessionM σ κ α} {same : SessionM ρ κ α} {next : α → SessionM σ κ β}
    {follow : α → SessionM ρ κ β} (one : Along map operation same)
    (two : ∀ a, Along map (next a) (follow a)) :
    Along map (operation >>= next) (same >>= follow) := by
  intro session world
  rw [bind_apply, bind_apply, one session world]
  obtain ⟨result, after, left⟩ := operation (session, world)
  cases result with
  | error error => rfl
  | ok a => exact two a after left

/-- The session itself is looked at on either service. -/
theorem current {next : Session σ → SessionM σ κ β} {follow : Session ρ → SessionM ρ κ β}
    (later : ∀ session, Along map (next session) (follow (session.mapService map))) :
    Along map (Session.current >>= next) (Session.current >>= follow) :=
  fun session world => later session session world

theorem update {change : Session σ → Session σ} {same : Session ρ → Session ρ}
    (changes : ∀ session : Session σ,
      same (session.mapService map) = (change session).mapService map) :
    Along map (Session.update change : SessionM σ κ Unit) (Session.update same) := by
  intro session world
  show (Except.ok (), same (session.mapService map), world) = _
  rw [changes session]
  rfl

theorem ofExcept (result : Except Error α) :
    Along map (MonadExcept.ofExcept result : SessionM σ κ α) (MonadExcept.ofExcept result) := by
  cases result with
  | error error => exact throw error
  | ok a => exact pure a

theorem inWorld (step : World κ → Except Error α × World κ) :
    Along map (Session.inWorld step : SessionM σ κ α) (Session.inWorld step) := by
  intro session world
  rw [inWorld_apply, inWorld_apply]

theorem require (condition : Bool) (error : Error) :
    Along map (Session.require condition error : SessionM σ κ Unit)
      (Session.require condition error) := by
  cases condition with
  | true => exact pure ()
  | false => exact throw error

theorem forM {step : α → SessionM σ κ Unit} {same : α → SessionM ρ κ Unit}
    (each : ∀ a, Along map (step a) (same a)) (items : List α) :
    Along map (items.forM step) (items.forM same) := by
  induction items with
  | nil => exact pure ()
  | cons first rest ih => exact bind (each first) fun _ => ih

theorem request [CompilationService σ κ] [CompilationService ρ κ] (alike : ServiceMap map)
    (call : ServiceCall) :
    Along map (Session.request call : SessionM σ κ Unit) (Session.request call) := by
  intro session world
  have answer := alike.perform call session.service world
  rw [request_apply, request_apply, Session.mapService, answer]
  rfl

end Along

end SessionM

namespace Session

variable {map : σ → ρ}

/-! ### Checks -/

theorem requireOutput_along :
    (requireOutput : SessionM σ κ OutputMode).Along map requireOutput := by
  intro session world
  rw [SessionM.requireOutput_apply, SessionM.requireOutput_apply]
  rfl

theorem requireMemory_along : (requireMemory : SessionM σ κ Unit).Along map requireMemory :=
  .bind requireOutput_along fun _ => .require _ _

theorem requireCompiled_along : (requireCompiled : SessionM σ κ Unit).Along map requireCompiled := by
  intro session world
  rcases session with ⟨_, _, _, _, stage, _, _, _, _⟩
  cases stage <;> rfl

/-! ### Configuration and compilation -/

variable [CompilationService σ κ] [CompilationService ρ κ]

section

variable (alike : ServiceMap map)

include alike

theorem setOutputMode_along (mode : OutputMode) :
    (setOutputMode mode : SessionM σ κ Unit).Along map (setOutputMode mode) := by
  apply SessionM.Along.current
  intro session
  apply SessionM.Along.bind (.require _ _)
  intro _
  apply SessionM.Along.bind (.request alike _)
  intro _
  apply SessionM.Along.current
  intro answered
  refine .bind (.update fun _ => ?_) fun _ => ?_
  · rfl
  · exact .forM (fun library => .request alike _) _

theorem addLibrary_along (name : String) :
    (addLibrary name : SessionM σ κ Unit).Along map (addLibrary name) := by
  apply SessionM.Along.current
  intro session
  show (if session.output.isNone then update _ else request _ : SessionM σ κ Unit).Along map
    (if session.output.isNone then update _ else request _)
  split
  · exact .update fun _ => rfl
  · exact .request alike _

theorem setDiagnosticHandler_along (handler : DiagnosticHandler κ) :
    (setDiagnosticHandler handler : SessionM σ κ Unit).Along map
      (setDiagnosticHandler handler) := by
  intro session world
  have answer := alike.setDiagnosticHandler handler session.service world
  show (Except.ok (), { session.mapService map with
    service := (CompilationService.setDiagnosticHandler handler (map session.service) world).1 },
    (CompilationService.setDiagnosticHandler handler (map session.service) world).2) = _
  rw [answer]
  rfl

theorem compileWith_along (call : ServiceCall) :
    (compileWith call : SessionM σ κ Unit).Along map (compileWith call) := by
  apply SessionM.Along.bind requireOutput_along
  intro _
  apply SessionM.Along.current
  intro session
  apply SessionM.Along.bind (.require _ _)
  intro _
  apply SessionM.Along.bind (.request alike _)
  intro _
  exact .update fun _ => rfl

/-! ### Symbols -/

theorem register_along (name : String) (address : UInt64) :
    (register name address : SessionM σ κ Unit).Along map (register name address) := by
  apply SessionM.Along.current
  intro session
  apply SessionM.Along.bind (.require _ _)
  intro _
  apply SessionM.Along.bind (.require _ _)
  intro _
  apply SessionM.Along.bind (.require _ _)
  intro _
  apply SessionM.Along.bind (.request alike _)
  intro _
  exact .update fun _ => rfl

theorem ensureReleaseSymbol_along (name : String) :
    (ensureReleaseSymbol name : SessionM σ κ Unit).Along map (ensureReleaseSymbol name) := by
  apply SessionM.Along.current
  intro session
  show (if session.releaseSymbols.contains name then Pure.pure () else
      callableType releaseSignature >>= _ : SessionM σ κ Unit).Along map
    (if session.releaseSymbols.contains name then Pure.pure () else
      callableType releaseSignature >>= _)
  split
  · exact .pure ()
  · apply SessionM.Along.bind (.inWorld _)
    intro type
    apply SessionM.Along.bind (.inWorld _)
    intro address
    apply SessionM.Along.bind (register_along alike name address)
    intro _
    exact .update fun _ => rfl

theorem bind_along (description : TypeDescription κ) (rules : Naming.NamingRules) :
    (bind description rules : SessionM σ κ (List String)).Along map (bind description rules) := by
  apply SessionM.Along.current
  intro session
  apply SessionM.Along.bind (.ofExcept _)
  intro planned
  have known (one : Naming.PlannedSymbol κ) :
      (session.mapService map).isRegistered one.symbol = session.isRegistered one.symbol := rfl
  simp only [known]
  cases planned.find? fun one => session.isRegistered one.symbol with
  | some taken => exact .throw _
  | none =>
    apply SessionM.Along.bind (.inWorld _)
    intro thunks
    apply SessionM.Along.bind (ensureReleaseSymbol_along alike _)
    intro _
    apply SessionM.Along.bind (.forM (fun thunk => register_along alike _ _) thunks)
    intro _
    exact .pure _

/-! ### Linking and running -/

theorem relocate_along : (relocate : SessionM σ κ Unit).Along map relocate := by
  apply SessionM.Along.bind requireMemory_along
  intro _
  apply SessionM.Along.bind requireCompiled_along
  intro _
  apply SessionM.Along.bind (.request alike _)
  intro _
  exact .update fun _ => rfl

theorem runIsolated_along (args : List String) :
    (runIsolated args : SessionM σ κ _).Along map (runIsolated args) := by
  intro session world
  have answer := alike.run args session.service { world with pending := none }
  rw [SessionM.runIsolated_apply, SessionM.runIsolated_apply, mapService, answer]
  rfl

theorem run_along (args : List String) :
    (run args : SessionM σ κ Int32).Along map (run args) := by
  apply SessionM.Along.bind requireMemory_along
  intro _
  apply SessionM.Along.bind requireCompiled_along
  intro _
  apply SessionM.Along.bind (runIsolated_along alike args)
  rintro ⟨result, fault⟩
  refine .bind (.update fun _ => ?_) fun _ => ?_
  · rfl
  · cases fault with
    | some error => exact .throw error
    | none => exact .ofExcept result

theorem outputFile_along (path : String) :
    (outputFile path : SessionM σ κ Unit).Along map (outputFile path) := by
  apply SessionM.Along.bind requireOutput_along
  intro mode
  apply SessionM.Along.bind (.require _ _)
  intro _
  apply SessionM.Along.current
  intro session
  apply SessionM.Along.bind (.require _ _)
  intro _
  exact .request alike _

theorem symbolAddress_along (name : String) :
    (symbolAddress name : SessionM σ κ UInt64).Along map (symbolAddress name) := by
  intro session world
  by_cases linked : session.stage = .relocated
  · have same : (session.mapService map).stage = .relocated := linked
    have answer := alike.symbolAddress name session.service world
    rw [SessionM.symbolAddress_apply name linked world,
      SessionM.symbolAddress_apply name same world, mapService, answer]
    rfl
  · rcases session with ⟨_, _, _, _, stage, _, _, _, _⟩
    cases stage with
    | empty => rfl
    | compiled => rfl
    | relocated => exact absurd rfl linked

theorem getSymbol_along (name : String) (type : CallableType κ) :
    (getSymbol name type : SessionM σ κ (ForeignFunction κ)).Along map (getSymbol name type) :=
  .bind (symbolAddress_along alike name) fun _ => .ofExcept _

end

end Session

end NativeBridge
