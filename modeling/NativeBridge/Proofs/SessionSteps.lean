/-
Module: NativeBridge.Proofs.SessionSteps
Purpose: What every step of a session operation has in common with the whole operation.
Main exports: SessionM.bind_apply, Session.setOutputMode_open, Stepwise, SessionM.Respects,
  SessionM.Respects.bind
-/
import NativeBridge.Session.Run
import NativeBridge.Session.Setup
import NativeBridge.Session.Symbols

namespace NativeBridge

variable {σ κ : Type} [HostProgram κ]

/-!
A session operation is a sequence of small steps, any of which can end it.  A relation between the
states before and after that holds of a state with itself, and of two steps together, holds of an
operation when it holds of its steps.
-/

namespace SessionM

variable {α β : Type}

/-- The second step starts where the first one ended, if that did not fail. -/
theorem bind_apply (operation : SessionM σ κ α) (next : α → SessionM σ κ β)
    (state : Session σ × World κ) :
    (operation >>= next) state =
      match operation state with
      | (.ok a, state) => next a state
      | (.error error, state) => (.error error, state) := by
  simp only [bind, ExceptT.bind, ExceptT.mk, StateT.bind, ExceptT.bindCont]
  generalize operation state = ran
  rcases ran with ⟨result, state⟩
  cases result <;> rfl

/-- What an operation does stays the same when another answer is given. -/
theorem then_pure_state (operation : SessionM σ κ α) (b : β) (state : Session σ × World κ) :
    ((operation >>= fun _ => pure b : SessionM σ κ β) state).2 = (operation state).2 := by
  rw [bind_apply]
  obtain ⟨result, after⟩ := operation state
  cases result <;> rfl

theorem ofExcept_apply (result : Except Error α) (state : Session σ × World κ) :
    (MonadExcept.ofExcept result : SessionM σ κ α) state = (result, state) := by
  cases result <;> rfl

theorem inWorld_apply (step : World κ → Except Error α × World κ) (session : Session σ)
    (world : World κ) :
    (Session.inWorld step : SessionM σ κ α) (session, world) =
      ((step world).1, session, (step world).2) :=
  ofExcept_apply (step world).1 (session, (step world).2)

theorem request_apply [CompilationService σ κ] (call : ServiceCall) (session : Session σ)
    (world : World κ) :
    (Session.request call : SessionM σ κ Unit) (session, world) =
      let answer := CompilationService.perform call session.service world
      (answer.1, { session with service := answer.2.1 }, answer.2.2) :=
  ofExcept_apply _ _

theorem current_apply (session : Session σ) (world : World κ) :
    (Session.current : SessionM σ κ (Session σ)) (session, world) = (.ok session, session, world) :=
  rfl

theorem requireOutput_apply (session : Session σ) (world : World κ) :
    (Session.requireOutput : SessionM σ κ OutputMode) (session, world) =
      (session.output.elim (.error (.compile .outputModeNotSet)) .ok, session, world) := by
  rw [Session.requireOutput, bind_apply, current_apply]
  dsimp only
  cases session.output with
  | none => rfl
  | some mode => rfl

/-- A name is looked up in linked code by the compiler. -/
theorem symbolAddress_apply [CompilationService σ κ] (name : String) {session : Session σ}
    (linked : session.stage = .relocated) (world : World κ) :
    (Session.symbolAddress name : SessionM σ κ UInt64) (session, world) =
      let answer := CompilationService.symbolAddress name session.service world
      (answer.1.elim (.error (.link (.symbolNotFound name))) .ok,
        { session with service := answer.2.1 }, answer.2.2) := by
  have read : (get : SessionM σ κ (Session σ × World κ)) (session, world) =
      (.ok (session, world), session, world) := rfl
  have written (state : Session σ × World κ) : (set state : SessionM σ κ Unit) (session, world) =
      (.ok (), state) := rfl
  rw [Session.symbolAddress, bind_apply, current_apply]
  dsimp only
  rw [linked]
  dsimp only
  rw [bind_apply, read]
  dsimp only
  rw [bind_apply, written]
  dsimp only
  rw [← linked]
  cases (CompilationService.symbolAddress name session.service world).1 with
  | none => rfl
  | some address => rfl

/-- The compiler is let run the program with no fault pending. -/
theorem runIsolated_apply [CompilationService σ κ] (args : List String) (session : Session σ)
    (world : World κ) :
    (Session.runIsolated args : SessionM σ κ (Except Error Int32 × Option Error))
        (session, world) =
      let answer := CompilationService.run args session.service { world with pending := none }
      (.ok (answer.1, answer.2.2.pending), { session with service := answer.2.1 },
        { answer.2.2 with pending := world.pending }) :=
  rfl

end SessionM

namespace Session

/-- A run passes the session: something is compiled for memory and nothing is linked. -/
def Ready (session : Session σ) : Prop :=
  session.output = some .memory ∧ session.stage = .compiled

variable [CompilationService σ κ]

/-- A run that does not pass the session leaves everything as it is. -/
theorem run_unready {session : Session σ} (unready : ¬ session.Ready) (args : List String)
    (world : World κ) :
    ∃ error, (run args : SessionM σ κ Int32) (session, world) = (.error error, session, world) := by
  rcases session with ⟨service, registry, naming, output, stage, pending, symbols, release, kept⟩
  cases output with
  | none => exact ⟨_, rfl⟩
  | some mode =>
    cases mode with
    | memory =>
      cases stage with
      | empty => exact ⟨_, rfl⟩
      | compiled => exact absurd ⟨rfl, rfl⟩ unready
      | relocated => exact ⟨_, rfl⟩
    | _ => exact ⟨_, rfl⟩

/-- After a run that passes the session, the session counts as linked. -/
theorem run_ready {session : Session σ} (ready : session.Ready) (args : List String)
    (world : World κ) :
    (run args : SessionM σ κ Int32) (session, world) =
      let answer := CompilationService.run args session.service { world with pending := none }
      (answer.2.2.pending.elim answer.1 .error,
        { session with service := answer.2.1, stage := .relocated },
        { answer.2.2 with pending := world.pending }) := by
  rcases session with ⟨service, registry, naming, output, stage, pending, symbols, release, kept⟩
  obtain ⟨rfl, rfl⟩ : output = some .memory ∧ stage = .compiled := ready
  let before : Session σ :=
    ⟨service, registry, naming, some .memory, .compiled, pending, symbols, release, kept⟩
  have memory : (requireMemory : SessionM σ κ Unit) (before, world) = (.ok (), before, world) := rfl
  have compiled : (requireCompiled : SessionM σ κ Unit) (before, world) =
    (.ok (), before, world) := rfl
  rw [run, SessionM.bind_apply, memory]
  dsimp only
  rw [SessionM.bind_apply, compiled]
  dsimp only
  rw [SessionM.bind_apply, SessionM.runIsolated_apply]
  dsimp only
  cases (CompilationService.run args service { world with pending := none }).2.2.pending with
  | some error => rfl
  | none => exact SessionM.ofExcept_apply _ _

/-- Once something is compiled no output mode can be chosen, and nothing changes. -/
theorem setOutputMode_locked {session : Session σ} (begun : session.stage ≠ .empty)
    (mode : OutputMode) (world : World κ) :
    (setOutputMode mode : SessionM σ κ Unit) (session, world) =
      (.error CompileError.outputModeLocked, session, world) := by
  have refused : (session.stage == .empty) = false := by simpa using begun
  simp only [setOutputMode, SessionM.bind_apply, SessionM.current_apply, refused]
  rfl

/-- While nothing is compiled the compiler is asked for the mode, and is handed the libraries that
waited if it takes it. -/
theorem setOutputMode_open {session : Session σ} (empty : session.stage = .empty)
    (mode : OutputMode) (world : World κ) :
    (setOutputMode mode : SessionM σ κ Unit) (session, world) =
      (request (.setOutputMode mode) >>= fun _ => current >>= fun answered =>
        update (fun session => { session with output := some mode, pendingLibraries := [] }) >>=
          fun _ => answered.pendingLibraries.forM fun library => request (.addLibrary library) :
        SessionM σ κ Unit) (session, world) := by
  have passed : (session.stage == .empty) = true := by simpa using empty
  simp only [setOutputMode, SessionM.bind_apply, SessionM.current_apply, passed]
  rfl

end Session

/-- A relation between states that can be followed step by step. -/
structure Stepwise (R : Session σ × World κ → Session σ × World κ → Prop) : Prop where
  refl : ∀ state, R state state
  trans : ∀ {first middle last}, R first middle → R middle last → R first last

/-- An operation relates the states before and after it, whether it fails or not. -/
def SessionM.Respects {α : Type} (R : Session σ × World κ → Session σ × World κ → Prop)
    (operation : SessionM σ κ α) : Prop :=
  ∀ state, R state (operation state).2

namespace SessionM.Respects

variable {α β : Type} {R : Session σ × World κ → Session σ × World κ → Prop}

theorem pure (steps : Stepwise R) (a : α) : Respects R (Pure.pure a : SessionM σ κ α) :=
  fun state => steps.refl state

theorem bind (steps : Stepwise R) {operation : SessionM σ κ α} {next : α → SessionM σ κ β}
    (one : Respects R operation) (two : ∀ a, Respects R (next a)) :
    Respects R (operation >>= next) := by
  intro state
  have moved := one state
  rw [bind_apply]
  cases ran : operation state with
  | mk result after =>
    rw [ran] at moved
    cases result with
    | error error => exact moved
    | ok a => exact steps.trans moved (two a after)

theorem forM (steps : Stepwise R) {step : α → SessionM σ κ Unit} (each : ∀ a, Respects R (step a))
    (items : List α) : Respects R (items.forM step) := by
  induction items with
  | nil => exact pure steps ()
  | cons first rest ih => exact bind steps (each first) fun _ => ih

end SessionM.Respects

end NativeBridge
