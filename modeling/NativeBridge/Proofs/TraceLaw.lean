/-
Module: NativeBridge.Proofs.TraceLaw
Purpose: Properties that the traces of all runs have.
Main exports: TraceLaw, TraceLaw.code, TraceLaw.entered, TraceLaw.deeds
-/
import NativeBridge.Proofs.ValueClasses

namespace NativeBridge

variable {σ κ : Type} [HostProgram κ]

/-!
What a journal law is for the events of a run, a trace law is for its moments.  Here nothing is said
about the process before the run and after it, so two traces are joined without a look at what
stands between them.
-/

/-- A property that the trace of every run has. -/
structure TraceLaw (holds : List (Moment κ) → Prop) : Prop where
  nil : holds []
  join : ∀ {trace more : List (Moment κ)}, holds trace → holds more → holds (trace ++ more)
  outside : ∀ given world, holds [.outside given world]
  ended : ∀ {enter : Entry κ} {code : Code κ} {frame : Frame} {world left : World κ}
    {outcome : Outcome (Value κ)}, code.step enter frame world = .ended outcome left →
      holds [.working code frame world]
  request : ∀ {enter : Entry κ} {code rest : Code κ} {frame frame' : Frame} {world world' : World κ}
    (inner : EntryTrace κ), code.step enter frame world = .rest rest frame' world' →
      holds (code.nested inner world) → holds (rest.trace enter inner frame' world') →
        holds (code.trace enter inner frame world)
  call : ∀ call : ClosureCall κ, holds (call.insideTrace (enterTrace call.depth)) →
    holds (call.trace (enterTrace call.depth))

namespace TraceLaw

variable {holds : List (Moment κ) → Prop} {inner : EntryTrace κ}

/-- All traces of a way of calling native addresses have a property. -/
def Entered (holds : List (Moment κ) → Prop) (inner : EntryTrace κ) : Prop :=
  ∀ address raws world, holds (inner address raws world)

theorem raw (law : TraceLaw holds) (entry : Entered holds inner) (function : ForeignFunction κ)
    (args : List RawValue) (world : World κ) : holds (function.rawTrace inner args world) := by
  simp only [ForeignFunction.rawTrace]
  split
  · exact entry function.address args world
  · exact law.nil

theorem nested (law : TraceLaw holds) (entry : Entered holds inner) (code : Code κ)
    (world : World κ) : holds (code.nested inner world) := by
  cases code with
  | call function args next =>
    simp only [Code.nested, ForeignFunction.trace]
    split
    · exact law.raw entry function _ _
    · exact law.nil
    · exact law.nil
  | callRaw function args next => exact law.raw entry function args world
  | _ => exact law.nil

theorem code (law : TraceLaw holds) (entry : Entered holds inner) (enter : Entry κ)
    (code : Code κ) (frame : Frame) (world : World κ) :
    holds (code.trace enter inner frame world) := by
  induction code using Code.follows_wellFounded.induction generalizing frame world with
  | _ code ih =>
    have nested := law.nested entry code world
    cases stepped : code.step enter frame world with
    | ended outcome left =>
      rw [Code.trace_ended stepped]
      exact law.join (law.ended stepped) nested
    | rest rest frame' world' =>
      exact law.request inner stepped nested (ih rest ⟨_, _, _, _, _, stepped⟩ frame' world')

theorem inside (law : TraceLaw holds) (entry : Entered holds inner) (call : ClosureCall κ) :
    holds (call.insideTrace inner) := by
  rw [ClosureCall.insideTrace]
  split
  · rw [Handler.trace]
    split
    · exact law.code entry _ _ _ _
    · exact law.nil
  · exact law.nil

theorem entered (law : TraceLaw holds) (depth : Nat) : Entered holds (enterTrace depth) := by
  -- A closure entered at one depth enters others at the depth below only.
  induction depth with
  | zero =>
    intro address raws world
    exact law.nil
  | succ depth ih =>
    intro address raws world
    rw [enterTrace]
    split
    · exact law.call _ (law.inside ih _)
    · exact law.nil
    · exact law.nil

theorem deed (law : TraceLaw holds) (deed : Deed κ) (state : Session σ × World κ) :
    holds (deed.trace state) := by
  refine law.join (law.outside (deed.given state.1) state.2) ?_
  cases deed with
  | host depth code => exact law.code (law.entered depth) _ code _ _
  | native depth address result args => exact law.entered depth _ _ _
  | _ => exact law.nil

theorem deeds (law : TraceLaw holds) [CompilationService σ κ] (deeds : List (Deed κ))
    (state : Session σ × World κ) : holds (Deed.traces deeds state) := by
  induction deeds generalizing state with
  | nil => exact law.nil
  | cons deed rest ih => exact law.join (law.deed deed state) (ih (deed.run state))

end TraceLaw

end NativeBridge
