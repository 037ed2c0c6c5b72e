/-
Module: NativeBridge.Proofs.HostSteps
Purpose: Runs of host code taken apart into single requests.
Main exports: Progress, Code.step, Code.run_eq_step, Code.follows_wellFounded
-/
import NativeBridge.Call

namespace NativeBridge

variable {κ : Type} [HostProgram κ]

/-!
A run of host code answers one request after the other.  `Code.step` answers the first one, and
`Code.run_eq_step` says that a run is its first step and the run of what is left.  What is left is
always a later part of the same program, so that statements about runs go by induction on steps.
-/

/-- Where host code is after one request: at its end, or before the code that is left. -/
inductive Progress (κ : Type) [HostProgram κ] where
  | ended (outcome : Outcome (Value κ)) (world : World κ)
  | rest (code : Code κ) (frame : Frame) (world : World κ)

/-- The process after one request. -/
def Progress.world : Progress κ → World κ
  | ended _ world => world
  | rest _ _ world => world

namespace Code

/-- Answer the first request of host code. -/
def step (enter : Entry κ) : Code κ → Frame → World κ → Progress κ
  | .done result, frame, world =>
      .ended (.returned result) { world with heap := frame.dropGuards world.heap }
  | .panic message, frame, world =>
      .ended (.panicked message) { world with heap := frame.dropGuards world.heap }
  | .readGlobals next, frame, world => .rest (next world.globals) frame world
  | .writeGlobals globals next, frame, world => .rest next frame { world with globals := globals }
  | .newBuffer text capacity next, frame, world =>
      let (buffer, heap) := world.heap.newBuffer text capacity
      .rest (next buffer) frame { world with heap := heap }
  | .readBuffer buffer next, frame, world => .rest (next (world.heap.text buffer)) frame world
  | .writeBuffer buffer text next, frame, world =>
      .rest next frame { world with heap := world.heap.setText buffer text }
  | .newObject type state next, frame, world =>
      let (object, heap) := world.heap.newObject type state
      .rest (next object) frame { world with heap := heap }
  | .borrow object exclusive next, frame, world =>
      match frame.borrow object.cell exclusive world.heap with
      | some (frame, heap) => .rest (next true) frame { world with heap := heap }
      | none => .rest (next false) frame world
  | .endBorrow object next, frame, world =>
      let (frame, heap) := frame.endBorrow object.cell world.heap
      .rest next frame { world with heap := heap }
  | .readObject object key next, frame, world =>
      let state := if frame.mayRead object.cell then world.heap.stateAt? key object.cell else none
      .rest (next state) frame world
  | .writeObject object key state next, frame, world =>
      if frame.mayWrite object.cell then
        .rest next frame { world with heap := world.heap.setState object.cell key state }
      else .rest next frame world
  | .readReceiver key next, frame, world =>
      .rest (next (frame.receiver.bind (world.heap.stateAt? key))) frame world
  | .writeReceiver key state next, frame, world =>
      match frame.receiver with
      | some cell => .rest next frame { world with heap := world.heap.setState cell key state }
      | none => .rest next frame world
  | .unmarshal types values next, frame, world =>
      .rest (next (Tuple.fromValues types values world.heap)) frame world
  | .marshal type carried next, frame, world =>
      let (value, heap) := type.intoValue carried world.heap
      .rest (next value) frame { world with heap := heap }
  | .call function args next, frame, world =>
      match function.call enter args world with
      | (.panicked message, world) =>
          .ended (.panicked message) { world with heap := frame.dropGuards world.heap }
      | (.returned result, world) => .rest (next result) frame world
  | .callRaw function args next, frame, world =>
      let (result, world) := function.callRaw enter args world
      .rest (next result) frame world
  | .nativeText text next, frame, world =>
      let (address, world) := world.allocateCString (Text.Utf8.encode text)
      .rest (next address) frame world
  | .allocateHandle registry object next, frame, world =>
      let (handle, world) := world.allocateHandle registry object
      .rest (next handle) frame world
  | .resolveHandle registry handle next, frame, world =>
      .rest (next ((world.registry registry).resolve handle)) frame world
  | .releaseHandle registry handle next, frame, world =>
      let (result, world) := world.releaseHandle registry handle
      .rest (next result) frame world

/-- A run is its first step and the run of what is left. -/
theorem run_eq_step (enter : Entry κ) (code : Code κ) (frame : Frame) (world : World κ) :
    code.run enter frame world =
      match code.step enter frame world with
      | .ended outcome world => (outcome, world)
      | .rest code frame world => code.run enter frame world := by
  cases code with
  | borrow object exclusive next =>
    simp only [run, step]
    cases frame.borrow object.cell exclusive world.heap <;> rfl
  | writeObject object key state next =>
    simp only [run, step]
    cases frame.mayWrite object.cell <;> rfl
  | writeReceiver key state next =>
    simp only [run, step]
    cases frame.receiver <;> rfl
  | call function args next =>
    simp only [run, step]
    split <;> simp_all
  | _ => rfl

/-! ### Induction on steps -/

/-- A program is what another one comes to after a request. -/
def Follows (later earlier : Code κ) : Prop :=
  ∃ enter frame world frame' world', earlier.step enter frame world = .rest later frame' world'

/-- A program comes to an end, whatever its requests are answered. -/
theorem follows_wellFounded : WellFounded (Follows : Code κ → Code κ → Prop) := by
  refine ⟨fun code => ?_⟩
  induction code with
  | done result => exact ⟨_, fun later ⟨_, _, _, _, _, stepped⟩ => by cases stepped⟩
  | panic message => exact ⟨_, fun later ⟨_, _, _, _, _, stepped⟩ => by cases stepped⟩
  | borrow object exclusive next ih =>
    refine ⟨_, fun later ⟨_, _, _, _, _, stepped⟩ => ?_⟩
    simp only [step] at stepped
    split at stepped <;> (cases stepped; exact ih _)
  | writeObject object key state next ih =>
    refine ⟨_, fun later ⟨_, _, _, _, _, stepped⟩ => ?_⟩
    simp only [step] at stepped
    split at stepped <;> (cases stepped; exact ih)
  | writeReceiver key state next ih =>
    refine ⟨_, fun later ⟨_, _, _, _, _, stepped⟩ => ?_⟩
    simp only [step] at stepped
    split at stepped <;> (cases stepped; exact ih)
  | call function args next ih =>
    refine ⟨_, fun later ⟨_, _, _, _, _, stepped⟩ => ?_⟩
    simp only [step] at stepped
    split at stepped
    · cases stepped
    · cases stepped
      exact ih _
  | writeGlobals globals next ih =>
    exact ⟨_, fun later ⟨_, _, _, _, _, stepped⟩ => by cases stepped; exact ih⟩
  | writeBuffer buffer text next ih =>
    exact ⟨_, fun later ⟨_, _, _, _, _, stepped⟩ => by cases stepped; exact ih⟩
  | endBorrow object next ih =>
    exact ⟨_, fun later ⟨_, _, _, _, _, stepped⟩ => by cases stepped; exact ih⟩
  | readGlobals next ih | newBuffer text capacity next ih | readBuffer buffer next ih
  | newObject type state next ih | readObject object key next ih | readReceiver key next ih
  | unmarshal types values next ih | marshal type carried next ih
  | callRaw function args next ih | nativeText text next ih
  | allocateHandle registry object next ih | resolveHandle registry handle next ih
  | releaseHandle registry handle next ih =>
    exact ⟨_, fun later ⟨_, _, _, _, _, stepped⟩ => by cases stepped; exact ih _⟩

instance : WellFoundedRelation (Code κ) := ⟨Follows, follows_wellFounded⟩

end Code

end NativeBridge
