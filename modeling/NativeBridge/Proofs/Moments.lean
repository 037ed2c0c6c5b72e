/-
Module: NativeBridge.Proofs.Moments
Purpose: All moments of a run, in order, each with the process as it was then.
Main exports: Moment, Throughout, Code.trace, Handler.trace, ClosureCall.trace, enterTrace
-/
import NativeBridge.Proofs.Journal

namespace NativeBridge

variable {κ : Type} [HostProgram κ]

/-!
A journal lists what others can notice of a run.  The trace of a run lists more: every request that
host code makes, with the process in which it makes it, also while other host code is waiting for it.
What holds at every moment of the trace holds at all times.
-/

/-- A moment of a run. -/
inductive Moment (κ : Type) [HostProgram κ] where
  /-- Host code is about to make its next request. -/
  | working (code : Code κ) (frame : Frame) (world : World κ)
  /-- Native code enters the host code behind a closure. -/
  | entered (call : ClosureCall κ)
  /-- The host code behind a closure has ended, and its result is about to be encoded. -/
  | left (call : ClosureCall κ)
  /-- A call of a closure is back in native code. -/
  | answered (call : ClosureCall κ)
  /-- No code is running, and a handle of a registry may be given back. -/
  | outside (given : Option (Nat × UInt64)) (world : World κ)

/-- The process at a moment. -/
def Moment.world : Moment κ → World κ
  | working _ _ world => world
  | entered call => call.world
  | left call => call.left
  | answered call => call.after
  | outside _ world => world

/-- At every moment of a trace something holds of the moments before it and of the moment. -/
def Throughout (holds : List (Moment κ) → Moment κ → Prop) (trace : List (Moment κ)) : Prop :=
  ∀ before moment after, trace = before ++ moment :: after → holds before moment

namespace Throughout

variable {holds : List (Moment κ) → Moment κ → Prop} {trace more : List (Moment κ)}

theorem nil : Throughout holds [] := by
  intro before moment after parted
  cases before <;> cases parted

/-- What holds throughout a trace holds throughout the front of it. -/
theorem front (all : Throughout holds (trace ++ more)) : Throughout holds trace := by
  rintro before moment after rfl
  exact all before moment (after ++ more) (by simp)

theorem here {moment : Moment κ} (all : Throughout holds (trace ++ moment :: more)) :
    holds trace moment :=
  all trace moment more rfl

theorem snoc {moment : Moment κ} (all : Throughout holds trace) (one : holds trace moment) :
    Throughout holds (trace ++ [moment]) := by
  intro before found after parted
  rcases List.append_eq_append_iff.mp parted with ⟨front, rfl, behind⟩ | ⟨back, rfl, behind⟩
  · cases front with
    | nil =>
      obtain ⟨rfl, -⟩ := List.cons.inj behind
      simpa using one
    | cons first rest =>
      have tail := (List.cons.inj behind).2
      simp at tail
  · cases back with
    | nil =>
      obtain ⟨rfl, -⟩ := List.cons.inj behind
      simpa using one
    | cons first rest =>
      rw [List.cons_append] at behind
      obtain ⟨rfl, -⟩ := List.cons.inj behind
      exact all before found rest rfl

/-- Moments at which something holds whatever came before may be added to a trace. -/
theorem append (all : Throughout holds trace)
    (each : ∀ moment ∈ more, ∀ past, holds past moment) : Throughout holds (trace ++ more) := by
  induction more generalizing trace with
  | nil => simpa using all
  | cons moment more ih =>
    have one := all.snoc (each moment List.mem_cons_self trace)
    have others := ih one fun later among => each later (List.mem_cons_of_mem _ among)
    simpa using others

/-- A trace may be put before another if what holds of a moment does not depend on how far back its
past goes. -/
theorem join (all : Throughout holds trace) (later : Throughout holds more)
    (further : ∀ front past moment, holds past moment → holds (front ++ past) moment) :
    Throughout holds (trace ++ more) := by
  intro before moment after parted
  rcases List.append_eq_append_iff.mp parted with ⟨front, rfl, behind⟩ | ⟨back, rfl, behind⟩
  · exact further trace front moment (later front moment after behind)
  · cases back with
    | nil =>
      have here := further before [] moment (later [] moment after behind.symm)
      rwa [List.append_nil] at here
    | cons first rest =>
      obtain ⟨rfl, -⟩ := List.cons.inj behind
      exact all before moment rest rfl

end Throughout

/-! ### Host code -/

/-- The trace of a way of calling native addresses. -/
abbrev EntryTrace (κ : Type) [HostProgram κ] : Type :=
  UInt64 → List RawValue → World κ → List (Moment κ)

namespace ForeignFunction

/-- The trace of a call with raw values. -/
def rawTrace (inner : EntryTrace κ) (function : ForeignFunction κ) (args : List RawValue)
    (world : World κ) : List (Moment κ) :=
  let parameters := function.type.signature.parameters
  if args.length = parameters.length ∧ rawFault parameters args = none then
    inner function.address args world
  else []

/-- The trace of a call with host values. -/
def trace (inner : EntryTrace κ) (function : ForeignFunction κ) (args : List (Value κ))
    (world : World κ) : List (Moment κ) :=
  match function.encoded args world with
  | .returned (.ok (raws, _, memory)) => function.rawTrace inner raws (nativeStart world memory)
  | .returned (.error _) | .panicked _ => []

end ForeignFunction

namespace Code

/-- The moments within the first request of host code. -/
def nested (inner : EntryTrace κ) : Code κ → World κ → List (Moment κ)
  | .call function args _, world => function.trace inner args world
  | .callRaw function args _, world => function.rawTrace inner args world
  | _, _ => []

/-- The trace of a run of host code. -/
def trace (enter : Entry κ) (inner : EntryTrace κ) (code : Code κ) (frame : Frame)
    (world : World κ) : List (Moment κ) :=
  .working code frame world :: (code.nested inner world ++
    match _ : code.step enter frame world with
    | .ended _ _ => []
    | .rest rest frame world => rest.trace enter inner frame world)
termination_by code
decreasing_by exact ⟨_, _, _, _, _, ‹_›⟩

variable {enter : Entry κ} {inner : EntryTrace κ} {code rest : Code κ} {frame frame' : Frame}
  {world world' : World κ}

theorem trace_ended {outcome : Outcome (Value κ)}
    (stepped : code.step enter frame world = .ended outcome world') :
    code.trace enter inner frame world = .working code frame world :: code.nested inner world := by
  rw [trace]
  split
  next => rw [List.append_nil]
  next same =>
    rw [stepped] at same
    cases same

theorem trace_rest (stepped : code.step enter frame world = .rest rest frame' world') :
    code.trace enter inner frame world = .working code frame world ::
      (code.nested inner world ++ rest.trace enter inner frame' world') := by
  rw [trace]
  split
  next same =>
    rw [stepped] at same
    cases same
  next same =>
    rw [stepped] at same
    cases same
    rfl

/-- A trace is the first request with what happens within it, and the trace of what is left. -/
theorem trace_eq_step (enter : Entry κ) (inner : EntryTrace κ) (code : Code κ) (frame : Frame)
    (world : World κ) :
    code.trace enter inner frame world = .working code frame world :: (code.nested inner world ++
      match code.step enter frame world with
      | .ended _ _ => []
      | .rest rest frame world => rest.trace enter inner frame world) := by
  cases stepped : code.step enter frame world with
  | ended outcome left => rw [Code.trace_ended stepped, List.append_nil]
  | rest rest frame' world' => rw [Code.trace_rest stepped]

/-- What happens within the first request happens in the run. -/
theorem mem_trace_of_nested {moment : Moment κ} (within : moment ∈ code.nested inner world) :
    moment ∈ code.trace enter inner frame world := by
  rw [trace_eq_step]
  exact List.mem_cons_of_mem _ (List.mem_append_left _ within)

/-- What happens after the first request happens in the run. -/
theorem mem_trace_of_rest {moment : Moment κ}
    (stepped : code.step enter frame world = .rest rest frame' world')
    (later : moment ∈ rest.trace enter inner frame' world') :
    moment ∈ code.trace enter inner frame world := by
  rw [trace_rest stepped]
  exact List.mem_cons_of_mem _ (List.mem_append_right _ later)

end Code

/-- The trace of the host code behind a closure. -/
def Handler.trace (enter : Entry κ) (inner : EntryTrace κ) (handler : Handler κ)
    (args : List (Value κ)) (world : World κ) : List (Moment κ) :=
  match handler.start args world with
  | some (code, frame, world) => code.trace enter inner frame world
  | none => []

/-! ### Native code calls host code -/

namespace ClosureCall

/-- The trace of the host code that a call runs. -/
def insideTrace (inner : EntryTrace κ) (call : ClosureCall κ) : List (Moment κ) :=
  match call.accepted with
  | .ok (args, _, heap) =>
      call.closure.handler.trace (enterAt call.depth) inner args { call.world with heap := heap }
  | .error _ => []

/-- The trace of a call of a closure. -/
def trace (inner : EntryTrace κ) (call : ClosureCall κ) : List (Moment κ) :=
  .entered call :: (call.insideTrace inner ++ [.left call, .answered call])

end ClosureCall

/-- The trace of the entry under which calls may nest a number of levels deep. -/
def enterTrace : Nat → EntryTrace κ
  | 0, _, _, _ => []
  | depth + 1, address, raws, world =>
      match world.codeAt? address with
      | some (.closure closure) =>
          ClosureCall.trace (enterTrace depth) ⟨depth, address, closure, raws, world⟩
      | some (.foreign _ _) | none => []

theorem enterTrace_closure {world : World κ} {address : UInt64} {closure : Closure κ}
    (found : world.codeAt? address = some (.closure closure)) (depth : Nat) (raws : List RawValue) :
    enterTrace (depth + 1) address raws world =
      ClosureCall.trace (enterTrace depth) ⟨depth, address, closure, raws, world⟩ := by
  rw [enterTrace, found]

end NativeBridge
