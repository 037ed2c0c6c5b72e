/-
Module: NativeBridge.Proofs.KeptLog
Purpose: Keeping a log changes nothing: a session on a service that keeps one does, and is answered,
  just what a session on the service inside it does and is answered.
Main exports: Session.dropLog, SessionM.Agrees, logged_serviceMap, Session.bind_agrees
-/
import NativeBridge.Proofs.ServiceLog
import NativeBridge.Proofs.ServiceMaps

namespace NativeBridge

variable {σ κ : Type} [HostProgram κ]

/-- The session on the service inside a service that keeps a log. -/
def Session.dropLog (session : Session (Logged σ)) : Session σ where
  service := session.service.service
  registry := session.registry
  naming := session.naming
  output := session.output
  stage := session.stage
  pendingLibraries := session.pendingLibraries
  symbols := session.symbols
  releaseSymbols := session.releaseSymbols
  retained := session.retained

namespace SessionM

variable {α : Type}

/-- An operation does the same whether a log is kept or not. -/
def Agrees (logged : SessionM (Logged σ) κ α) (plain : SessionM σ κ α) : Prop :=
  ∀ session world, plain (session.dropLog, world) =
    ((logged (session, world)).1, (logged (session, world)).2.1.dropLog,
      (logged (session, world)).2.2)

end SessionM

/-- A service that keeps a log answers as the one inside it. -/
theorem logged_serviceMap [CompilationService σ κ] :
    ServiceMap (Logged.service : Logged σ → σ) where
  perform _ _ _ := rfl
  run _ _ _ := rfl
  symbolAddress _ _ _ := rfl
  setDiagnosticHandler _ _ _ := rfl

theorem Session.bind_agrees [CompilationService σ κ] (description : TypeDescription κ)
    (rules : Naming.NamingRules) :
    (bind description rules : SessionM (Logged σ) κ (List String)).Agrees
      (bind description rules) :=
  bind_along logged_serviceMap description rules

end NativeBridge
