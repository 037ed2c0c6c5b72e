/-
Module: NativeBridge.Proofs.SessionLifecycle
Purpose: Session operations ask their compilation service in the right order, and refuse before they
  ask.
Main exports: Session.Lawful, Stage.Next, Session.Moves, SessionM.OrderlyAt
-/
import NativeBridge.Proofs.ServiceLog
import NativeBridge.Proofs.SessionSteps

namespace NativeBridge

variable {σ κ : Type} [HostProgram κ]

/-!
What an operation does to a session is said without the process and the compiler's own state, which
may answer in any way.  An operation looks at the session, works in the process, and then asks the
compiler; it fails before it has asked for anything, or because of the last thing it asked for.
-/

/-- The mode and the stage of a session are those of its log, which is in order. -/
structure Session.Lawful (session : Session (Logged σ)) : Prop where
  inOrder : InOrder session.service.log
  output : session.output = modeIn session.service.log
  stage : StageFits session.service.log session.stage

/-- The steps of a session's stage. -/
inductive Stage.Next : Stage → Stage → Prop
  | stays (stage : Stage) : Next stage stage
  | compiled : Next .empty .compiled
  | linked : Next .compiled .relocated

namespace Session

variable {α β : Type} {first before after last : Session (Logged σ)}

/-- The last exchange of an operation can be why it failed. -/
def FailedLast (before after : Session (Logged σ)) : Prop :=
  ∃ exchange recent, exchange.CanFail ∧
    after.service.log = exchange :: recent ++ before.service.log

/-- What an operation does to a session. -/
structure Moves (before : Session (Logged σ)) (result : Except Error α)
    (after : Session (Logged σ)) : Prop where
  lawful : before.Lawful → after.Lawful
  stage : before.stage.Next after.stage
  log : ∃ recent, after.service.log = recent ++ before.service.log
  failure : ∀ error, result = .error error → after = before ∨ FailedLast before after

theorem Moves.same (session : Session (Logged σ)) (result : Except Error α) :
    Moves session result session where
  lawful lawful := lawful
  stage := .stays session.stage
  log := ⟨[], rfl⟩
  failure _ _ := .inl rfl

namespace Lawful

/-- A session stays lawful if nothing is asked for and its mode and stage stay. -/
theorem congr (lawful : before.Lawful) (log : after.service.log = before.service.log)
    (output : after.output = before.output) (stage : after.stage = before.stage) :
    after.Lawful := by
  refine ⟨?_, ?_, ?_⟩
  · rw [log]
    exact lawful.inOrder
  · rw [log, output]
    exact lawful.output
  · rw [log, stage]
    exact lawful.stage

/-- A session stays lawful with an exchange in time that says nothing about mode and stage. -/
theorem neutral (lawful : before.Lawful) (exchange : Exchange)
    (timely : Timely before.service.log exchange) (neutral : exchange.IsNeutral)
    (log : after.service.log = exchange :: before.service.log)
    (output : after.output = before.output) (stage : after.stage = before.stage) :
    after.Lawful := by
  rcases neutral with ⟨chosen, compiles, links⟩
  refine ⟨?_, ?_, ?_⟩
  · rw [log]
    exact .cons timely lawful.inOrder
  · rw [log, output, lawful.output, modeIn, modeIn, List.findSome?_cons, chosen]
  · rw [log, stage]
    exact lawful.stage.cons compiles links

theorem not_linked (lawful : before.Lawful) (stage : before.stage ≠ .relocated) :
    ¬ LinkedIn before.service.log := by
  have fits := lawful.stage
  cases same : before.stage with
  | empty =>
    rw [same] at fits
    exact fits.2
  | compiled =>
    rw [same] at fits
    exact fits.2
  | relocated => exact absurd same stage

theorem compiled (lawful : before.Lawful) (stage : before.stage ≠ .empty) :
    CompiledIn before.service.log := by
  have fits := lawful.stage
  cases same : before.stage with
  | empty => exact absurd same stage
  | compiled =>
    rw [same] at fits
    exact fits.1
  | relocated =>
    rw [same] at fits
    exact lawful.inOrder.compiled_of_linked fits

end Lawful

/-- What steps do to a session that stay within its stage and fail only because of what they asked
for. -/
structure Keeps (before : Session (Logged σ)) (result : Except Error α)
    (after : Session (Logged σ)) : Prop where
  lawful : before.Lawful → after.Lawful
  stage : after.stage = before.stage
  log : ∃ recent, after.service.log = recent ++ before.service.log
  failure : ∀ error, result = .error error → FailedLast before after

namespace Keeps

theorem of_ok (a : α) (log : after.service.log = before.service.log)
    (output : after.output = before.output) (stage : after.stage = before.stage) :
    Keeps before (.ok a : Except Error α) after where
  lawful lawful := lawful.congr log output stage
  stage := stage
  log := ⟨[], log⟩
  failure _ same := by cases same

theorem trans {one : Except Error α} {two : Except Error β} (keeps : Keeps first one after)
    (others : Keeps after two last) : Keeps first two last where
  lawful lawful := others.lawful (keeps.lawful lawful)
  stage := others.stage.trans keeps.stage
  log := by
    rcases keeps.log with ⟨recent, log⟩
    rcases others.log with ⟨later, same⟩
    exact ⟨later ++ recent, by rw [same, log, List.append_assoc]⟩
  failure error failed := by
    rcases keeps.log with ⟨recent, log⟩
    obtain ⟨exchange, later, can, same⟩ := others.failure error failed
    exact ⟨exchange, later ++ recent, can, by rw [same, log, List.cons_append, List.cons_append,
      List.append_assoc]⟩

end Keeps

/-- A session moves on, and then keeps what it has come to. -/
theorem Moves.then_keeps {result : Except Error α} (lawful : before.Lawful → after.Lawful)
    (stage : before.stage.Next after.stage)
    (log : ∃ recent, after.service.log = recent ++ before.service.log)
    (keeps : Keeps after result last) : Moves before result last where
  lawful start := keeps.lawful (lawful start)
  stage := by
    rw [keeps.stage]
    exact stage
  log := by
    rcases log with ⟨recent, log⟩
    rcases keeps.log with ⟨later, same⟩
    exact ⟨later ++ recent, by rw [same, log, List.append_assoc]⟩
  failure error failed := by
    rcases log with ⟨recent, log⟩
    obtain ⟨exchange, later, can, same⟩ := keeps.failure error failed
    exact .inr ⟨exchange, later ++ recent, can, by rw [same, log, List.cons_append,
      List.cons_append, List.append_assoc]⟩

theorem Keeps.moves {result : Except Error α} (keeps : Keeps before result after) :
    Moves before result after :=
  .then_keeps id (.stays _) ⟨[], rfl⟩ keeps

end Session

/-! ### Steps of operations -/

namespace SessionM

open Session

variable {α β : Type} {session : Session (Logged σ)} {world : World κ}

/-- An operation moves a session as it should. -/
def OrderlyAt (operation : SessionM (Logged σ) κ α) (session : Session (Logged σ))
    (world : World κ) : Prop :=
  session.Moves (operation (session, world)).1 (operation (session, world)).2.1

/-- Steps keep a session as they should. -/
def KeepsAt (operation : SessionM (Logged σ) κ α) (session : Session (Logged σ))
    (world : World κ) : Prop :=
  session.Keeps (operation (session, world)).1 (operation (session, world)).2.1

/-- Before an operation asks for anything it may look at the session and work in the process. -/
theorem OrderlyAt.silent {operation : SessionM (Logged σ) κ α} {next : α → SessionM (Logged σ) κ β}
    (kept : (operation (session, world)).2.1 = session)
    (later : ∀ a, (operation (session, world)).1 = .ok a →
      (next a).OrderlyAt session (operation (session, world)).2.2) :
    (operation >>= next).OrderlyAt session world := by
  rw [OrderlyAt, bind_apply]
  revert kept later
  obtain ⟨result, after, left⟩ := operation (session, world)
  rintro rfl later
  cases result with
  | error error => exact .same _ _
  | ok a => exact later a rfl

theorem KeepsAt.bind {operation : SessionM (Logged σ) κ α} {next : α → SessionM (Logged σ) κ β}
    (keeps : operation.KeepsAt session world)
    (later : ∀ a, (operation (session, world)).1 = .ok a →
      (next a).KeepsAt (operation (session, world)).2.1 (operation (session, world)).2.2) :
    (operation >>= next).KeepsAt session world := by
  rw [KeepsAt, bind_apply]
  rw [KeepsAt] at keeps
  revert keeps later
  obtain ⟨result, after, left⟩ := operation (session, world)
  intro keeps later
  cases result with
  | error error => exact ⟨keeps.lawful, keeps.stage, keeps.log, fun _ _ => keeps.failure _ rfl⟩
  | ok a => exact keeps.trans (later a rfl)

variable [CompilationService σ κ]

/-- After a call that was not granted a session is as before but for its log. -/
theorem refused_keeps {call : ServiceCall} {error : Error} {service : σ}
    (timely : session.Lawful → Timely session.service.log (.performed call false))
    (neutral : (Exchange.performed call false).IsNeutral) :
    session.Keeps (.error error : Except Error α)
      { session with service := ⟨service, .performed call false :: session.service.log⟩ } where
  lawful lawful := lawful.neutral _ (timely lawful) neutral rfl rfl rfl
  stage := rfl
  log := ⟨[.performed call false], rfl⟩
  failure _ _ := ⟨.performed call false, [], rfl, rfl⟩

/-- A call is granted or not, and the log says so. -/
theorem request_cases (call : ServiceCall) (session : Session (Logged σ)) (world : World κ) :
    (∃ error service left, (request call : SessionM (Logged σ) κ Unit) (session, world) =
      (.error error,
        { session with service := ⟨service, .performed call false :: session.service.log⟩ },
        left)) ∨
    (∃ service left, (request call : SessionM (Logged σ) κ Unit) (session, world) =
      (.ok (),
        { session with service := ⟨service, .performed call true :: session.service.log⟩ },
        left)) := by
  let answer := CompilationService.perform call session.service.service world
  rw [request_apply]
  cases answered : answer.1 with
  | error error =>
    have logged : (CompilationService.perform call session.service world) =
        (.error error, ⟨answer.2.1, .performed call false :: session.service.log⟩, answer.2.2) := by
      show (answer.1, Logged.mk answer.2.1 (.performed call answer.1.isOk :: _), _) = _
      rw [answered]
      rfl
    exact .inl ⟨error, answer.2.1, answer.2.2, by rw [logged]⟩
  | ok granted =>
    have logged : (CompilationService.perform call session.service world) =
        (.ok (), ⟨answer.2.1, .performed call true :: session.service.log⟩, answer.2.2) := by
      show (answer.1, Logged.mk answer.2.1 (.performed call answer.1.isOk :: _), _) = _
      rw [answered]
      rfl
    exact .inr ⟨answer.2.1, answer.2.2, by rw [logged]⟩

/-- A call keeps a session if it comes in time and says nothing about mode and stage. -/
theorem KeepsAt.request {call : ServiceCall}
    (timely : session.Lawful → ∀ accepted, Timely session.service.log (.performed call accepted))
    (neutral : ∀ accepted, (Exchange.performed call accepted).IsNeutral) :
    (Session.request call : SessionM (Logged σ) κ Unit).KeepsAt session world := by
  rw [KeepsAt]
  obtain ⟨error, service, left, answer⟩ | ⟨service, left, answer⟩ :=
    request_cases call session world
  · rw [answer]
    exact refused_keeps (fun lawful => timely lawful false) (neutral false)
  · rw [answer]
    exact {
      lawful := fun lawful => lawful.neutral _ (timely lawful true) (neutral true) rfl rfl rfl
      stage := rfl
      log := ⟨[_], rfl⟩
      failure := fun _ same => by cases same }

/-- A call moves a session on if it comes in time, and what is done once it is granted brings the
session to a lawful one and keeps that. -/
theorem OrderlyAt.request_then {call : ServiceCall} {next : Unit → SessionM (Logged σ) κ α}
    (timely : session.Lawful → ∀ accepted, Timely session.service.log (.performed call accepted))
    (refused : (Exchange.performed call false).IsNeutral)
    (granted : ∀ service left,
      let answered : Session (Logged σ) :=
        { session with service := ⟨service, .performed call true :: session.service.log⟩ }
      ∃ moved : Session (Logged σ), (session.Lawful → moved.Lawful) ∧
        session.stage.Next moved.stage ∧ moved.service = answered.service ∧
        moved.Keeps (next () (answered, left)).1 (next () (answered, left)).2.1) :
    (Session.request call >>= next).OrderlyAt session world := by
  rw [OrderlyAt, bind_apply]
  obtain ⟨error, service, left, answer⟩ | ⟨service, left, answer⟩ :=
    request_cases call session world
  · rw [answer]
    have keeps : session.Keeps (.error error : Except Error α)
        { session with service := ⟨service, .performed call false :: session.service.log⟩ } :=
      refused_keeps (fun lawful => timely lawful false) refused
    exact keeps.moves
  · rw [answer]
    obtain ⟨moved, lawful, stage, same, keeps⟩ := granted service left
    exact .then_keeps lawful stage ⟨[_], congrArg Logged.log same⟩ keeps

/-- A call after which the session is changed. -/
theorem OrderlyAt.request_update {call : ServiceCall}
    {change : Session (Logged σ) → Session (Logged σ)}
    (timely : session.Lawful → ∀ accepted, Timely session.service.log (.performed call accepted))
    (refused : (Exchange.performed call false).IsNeutral)
    (kept : ∀ session, (change session).service = session.service)
    (lawful : session.Lawful → ∀ service,
      (change { session with
        service := ⟨service, .performed call true :: session.service.log⟩ }).Lawful)
    (stage : ∀ service, session.stage.Next (change { session with service := service }).stage) :
    (Session.request call >>= fun _ => Session.update change : SessionM (Logged σ) κ Unit).OrderlyAt
      session world := by
  refine .request_then timely refused ?_
  intro service left answered
  exact ⟨change answered, fun start => lawful start service, stage _, kept answered,
    .of_ok () rfl rfl rfl⟩

end SessionM

end NativeBridge
