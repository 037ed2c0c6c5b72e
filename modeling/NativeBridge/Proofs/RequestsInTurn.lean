/-
Module: NativeBridge.Proofs.RequestsInTurn
Purpose: Session operations that ask the compiler for some calls in turn and stop at the first one
  it refuses.
Main exports: askAll, InTurn, askAll_append, askAll_logged, SessionM.Requests,
  SessionM.Requests.bind, Session.setOutputMode_eq
-/
import NativeBridge.Proofs.ServiceLog
import NativeBridge.Proofs.SessionSteps

namespace NativeBridge

variable {σ κ : Type} [HostProgram κ]

/-!
An operation that only asks is told by the list of what it asks for: the calls are made in the
order of the list, each once, and after a refusal none is made any more.
-/

section

variable [CompilationService σ κ]

/-- Ask a service for calls in turn.  The first refusal is the answer, and nothing is asked for
after it. -/
def askAll : List ServiceCall → σ → World κ → Except Error Unit × σ × World κ
  | [], service, world => (.ok (), service, world)
  | call :: rest, service, world =>
      match CompilationService.perform call service world with
      | (.ok (), service, world) => askAll rest service world
      | (.error error, service, world) => (.error error, service, world)

theorem askAll_append (front back : List ServiceCall) (service : σ) (world : World κ) :
    askAll (front ++ back) service world =
      match askAll front service world with
      | (.ok (), service, world) => askAll back service world
      | (.error error, service, world) => (.error error, service, world) := by
  induction front generalizing service world with
  | nil => rfl
  | cons call rest ih =>
    rw [List.cons_append, askAll, askAll]
    rcases CompilationService.perform call service world with ⟨_ | _, service, world⟩
    · rfl
    · exact ih service world

end

/-- What a service was asked for, latest first, if calls were made in turn: all were granted, or one
was refused and those behind it were not made. -/
inductive InTurn : List ServiceCall → Except Error Unit → List Exchange → Prop
  | granted (calls : List ServiceCall) :
      InTurn calls (.ok ()) (calls.reverse.map fun call => .performed call true)
  | refused (front : List ServiceCall) (call : ServiceCall) (behind : List ServiceCall)
      (error : Error) :
      InTurn (front ++ call :: behind) (.error error)
        (.performed call false :: front.reverse.map fun call => .performed call true)

theorem InTurn.log_of_ok {calls : List ServiceCall} {log : List Exchange}
    (inTurn : InTurn calls (.ok ()) log) :
    log = calls.reverse.map fun call => .performed call true := by
  cases inTurn
  rfl

/-- One more call was granted before. -/
theorem InTurn.cons {calls : List ServiceCall} {result : Except Error Unit} {log : List Exchange}
    (inTurn : InTurn calls result log) (call : ServiceCall) :
    InTurn (call :: calls) result (log ++ [.performed call true]) := by
  cases inTurn with
  | granted =>
    have all := InTurn.granted (call :: calls)
    rwa [List.reverse_cons, List.map_append] at all
  | refused front refused behind error =>
    have cut := InTurn.refused (call :: front) refused behind error
    rwa [List.reverse_cons, List.map_append] at cut

/-- A service that keeps a log is asked in turn as the one inside it. -/
theorem askAll_logged [CompilationService σ κ] (calls : List ServiceCall) (logged : Logged σ)
    (world : World κ) :
    let asked := askAll calls logged.service world
    ∃ recent, InTurn calls asked.1 recent ∧
      askAll calls logged world = (asked.1, ⟨asked.2.1, recent ++ logged.log⟩, asked.2.2) := by
  induction calls generalizing logged world with
  | nil => exact ⟨[], .granted [], rfl⟩
  | cons call rest ih =>
    have answered : CompilationService.perform call logged world =
        let answer := CompilationService.perform call logged.service world
        (answer.1, ⟨answer.2.1, .performed call answer.1.isOk :: logged.log⟩, answer.2.2) := rfl
    simp only [askAll]
    rw [answered]
    rcases CompilationService.perform call logged.service world with ⟨error | _, service, left⟩
    · exact ⟨[.performed call false], .refused [] call rest error, rfl⟩
    · obtain ⟨recent, inTurn, asked⟩ := ih ⟨service, .performed call true :: logged.log⟩ left
      refine ⟨recent ++ [.performed call true], inTurn.cons call, asked.trans ?_⟩
      rw [List.append_assoc]
      rfl

/-! ### Operations that only ask -/

variable [CompilationService σ κ]

namespace SessionM

/-- An operation asks for some calls in turn, whatever the session is like, and does nothing
else. -/
def Requests (operation : SessionM σ κ Unit) (calls : List ServiceCall) : Prop :=
  ∀ session world, operation (session, world) =
    let asked := askAll calls session.service world
    (asked.1, { session with service := asked.2.1 }, asked.2.2)

namespace Requests

theorem pure : (Pure.pure () : SessionM σ κ Unit).Requests [] :=
  fun _ _ => rfl

theorem request (call : ServiceCall) :
    (Session.request call : SessionM σ κ Unit).Requests [call] := by
  intro session world
  rw [request_apply, askAll]
  rcases CompilationService.perform call session.service world with ⟨_ | _, service, left⟩ <;> rfl

theorem bind {operation : SessionM σ κ Unit} {next : Unit → SessionM σ κ Unit}
    {front back : List ServiceCall} (one : operation.Requests front)
    (two : (next ()).Requests back) : (operation >>= next).Requests (front ++ back) := by
  intro session world
  rw [bind_apply, one session world, askAll_append]
  rcases askAll front session.service world with ⟨_ | _, service, left⟩
  · rfl
  · exact two _ _

theorem forM {α : Type} {step : α → SessionM σ κ Unit} {call : α → ServiceCall}
    (each : ∀ a, (step a).Requests [call a]) (items : List α) :
    (items.forM step).Requests (items.map call) := by
  induction items with
  | nil => exact pure
  | cons first rest ih => exact bind (each first) ih

theorem ifGiven {α : Type} {step : α → SessionM σ κ Unit} {call : α → ServiceCall}
    (each : ∀ a, (step a).Requests [call a]) (given : Option α) :
    (given.forM step).Requests (given.toList.map call) := by
  cases given with
  | none => exact pure
  | some a => exact each a

end Requests

end SessionM

namespace Session

/-- An operation answers as the compiler did that was asked, and leaves behind what it left; if all
was granted, the session is settled. -/
structure ComesOf (asked : Except Error Unit × σ × World κ)
    (answer : Except Error Unit × Session σ × World κ) (settled : Session σ) : Prop where
  result : answer.1 = asked.1
  service : answer.2.1.service = asked.2.1
  world : answer.2.2 = asked.2.2
  session : asked.1 = .ok () → answer.2.1 = settled

/-! ### Choosing the output mode -/

/-- While nothing is compiled the compiler is asked for the mode.  If it takes it, the mode is chosen
and the libraries that wait are asked for in turn. -/
theorem setOutputMode_eq {session : Session σ} (empty : session.stage = .empty)
    (mode : OutputMode) (world : World κ) :
    (setOutputMode mode : SessionM σ κ Unit) (session, world) =
      match CompilationService.perform (.setOutputMode mode) session.service world with
      | (.error error, service, left) => (.error error, { session with service := service }, left)
      | (.ok (), service, left) =>
          let asked := askAll (session.pendingLibraries.map .addLibrary) service left
          (asked.1,
            { session with service := asked.2.1, output := some mode, pendingLibraries := [] },
            asked.2.2) := by
  rw [setOutputMode_open empty mode world, SessionM.bind_apply, SessionM.request_apply]
  rcases CompilationService.perform (.setOutputMode mode) session.service world with
    ⟨error | _, service, left⟩
  · rfl
  · have each (name : String) : (request (.addLibrary name) : SessionM σ κ Unit).Requests
        [.addLibrary name] := .request _
    dsimp only
    rw [SessionM.bind_apply, SessionM.current_apply]
    dsimp only
    rw [SessionM.bind_apply]
    exact SessionM.Requests.forM each session.pendingLibraries
      { session with service := service, output := some mode, pendingLibraries := [] } left

/-- Choosing the output mode comes of the call for it and of those for the libraries that wait. -/
theorem setOutputMode_requests {session : Session σ} (empty : session.stage = .empty)
    (mode : OutputMode) (world : World κ) :
    let asked := askAll (.setOutputMode mode :: session.pendingLibraries.map .addLibrary)
      session.service world
    ComesOf asked ((setOutputMode mode : SessionM σ κ Unit) (session, world))
      { session with service := asked.2.1, output := some mode, pendingLibraries := [] } := by
  intro asked
  rw [setOutputMode_eq empty]
  simp only [asked, askAll]
  rcases CompilationService.perform (.setOutputMode mode) session.service world with
    ⟨error | _, service, left⟩
  · exact ⟨rfl, rfl, rfl, fun granted => by cases granted⟩
  · exact ⟨rfl, rfl, rfl, fun _ => rfl⟩

end Session

end NativeBridge
