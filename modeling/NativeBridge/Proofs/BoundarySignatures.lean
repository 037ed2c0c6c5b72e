/-
Module: NativeBridge.Proofs.BoundarySignatures
Purpose: The signature at which native code calls a closure and the plan by which its arguments are
  decoded and its result is encoded describe the same calls.
Main exports: Closure.Agrees, World.AddsAgreeing, World.Built, World.Built.agrees,
  ClosureCall.accepted_fault, Closure.dispatch_abi, ForeignFunction.callRaw_encoded
-/
import NativeBridge.Proofs.RefusedArguments
import NativeBridge.Proofs.RunGrowth
import NativeBridge.Proofs.SessionTransitions
import NativeBridge.Proofs.ThunkCalls
import NativeBridge.Proofs.WrapRoundTrip
import NativeBridge.Workbench.Compilers

namespace NativeBridge

variable {κ : Type}

/-!
A closure carries two descriptions of its calls: the callable type, by which native code passes raw
values, and the plan, by which these are decoded.  For a thunk the first is computed from the second,
with handles in the place of objects; for other host code the second is computed from the first.
Nothing that makes closures makes one whose descriptions differ, and nothing changes the descriptions
of a closure that is there.
-/

/-! ### Descriptions that agree -/

/-- A handle and the object it stands for travel in the same way. -/
theorem MarshalSlot.boundaryType_abi (type : HostType κ) :
    (MarshalSlot.ofType type).boundaryType.abi = type.abi := by
  cases type <;> rfl

theorem MarshalPlan.boundaryParameters_abi (parameters : List (HostType κ)) (result : HostType κ) :
    (ofTypes parameters result).boundaryParameters.map HostType.abi =
      (ofTypes parameters result).parameters.map fun slot => slot.type.abi := by
  simp only [boundaryParameters, ofTypes, List.map_map]
  apply List.map_congr_left
  intro type _
  exact MarshalSlot.boundaryType_abi type

/-- An enumeration has an integer representation. -/
def HostType.IsIntegral : HostType κ → Prop
  | .enumeration _ repr => ∃ type, repr = .integer type
  | _ => True

/-- Every raw value of the type that a host type occupies has the form of that host type. -/
theorem HostType.fits_of_abi {type : HostType κ} {raw : RawValue} (integral : type.IsIntegral)
    (abi : raw.abi = type.abi) : type.Fits raw := by
  cases type with
  | void => trivial
  | enumeration name repr =>
    obtain ⟨found, rfl⟩ := integral
    exact ⟨found, rfl, abi⟩
  | _ => exact abi

variable [HostProgram κ]

/-- A plan that needs no registry has no parameter that is passed by handle. -/
theorem MarshalPlan.direct_of_noFault {slots : List (MarshalSlot κ)} {index : Nat}
    (none : parameterHandleFault index slots = none) : ∀ slot ∈ slots, slot.byHandle = false := by
  induction slots generalizing index with
  | nil => exact List.forall_mem_nil _
  | cons slot slots ih =>
    rw [parameterHandleFault] at none
    split at none
    · cases none
    · next direct =>
      intro other among
      rcases List.mem_cons.mp among with rfl | later
      · simpa using direct
      · exact ih none other later

/-- The signature and the plan of a closure have the same types of the calling convention at the same
places, and without a registry there is no handle to decode. -/
structure Closure.Agrees (closure : Closure κ) : Prop where
  parameters : closure.type.signature.parameters.map HostType.abi =
    closure.plan.parameters.map fun slot => slot.type.abi
  result : closure.type.signature.result.abi = closure.plan.result.type.abi
  handles : closure.registry = none →
    ∀ slot ∈ closure.plan.parameters, ∀ type, slot.type ≠ .object type

theorem Closure.Agrees.returned {closure : Closure κ} (agrees : closure.Agrees)
    (returned : List UInt64) : ({ closure with returned := returned } : Closure κ).Agrees :=
  ⟨agrees.parameters, agrees.result, agrees.handles⟩

/-! ### What makes closures -/

/-- Every closure is one that stood there before, with more texts returned perhaps, or its
descriptions agree. -/
def World.AddsAgreeing (before after : World κ) : Prop :=
  ∀ (index : Nat) (closure : Closure κ), after.code[index]? = some (.closure closure) →
    closure.Agrees ∨
      ∃ returned, before.code[index]? = some (.closure { closure with returned := returned })

namespace World

theorem AddsAgreeing.of_same {before after : World κ} (same : after.code = before.code) :
    before.AddsAgreeing after := by
  intro index closure there
  rw [same] at there
  exact .inr ⟨closure.returned, there⟩

theorem AddsAgreeing.refl (world : World κ) : world.AddsAgreeing world := .of_same rfl

theorem AddsAgreeing.trans {first middle last : World κ} (one : first.AddsAgreeing middle)
    (two : middle.AddsAgreeing last) : first.AddsAgreeing last := by
  intro index closure there
  obtain agrees | ⟨returned, moved⟩ := two index closure there
  · exact .inl agrees
  · obtain agrees | ⟨more, stood⟩ := one index _ moved
    · exact .inl (agrees.returned closure.returned)
    · exact .inr ⟨more, stood⟩

theorem AddsAgreeing.push (world : World κ) {closure : Closure κ} (agrees : closure.Agrees) :
    world.AddsAgreeing { world with code := world.code.push (.closure closure) } := by
  intro index other there
  rw [Array.getElem?_push] at there
  split at there
  · cases there
    exact .inl agrees
  · exact .inr ⟨other.returned, there⟩

theorem AddsAgreeing.noteReturned (world : World κ) (closure text : UInt64) :
    world.AddsAgreeing (world.noteReturned closure text) := by
  unfold World.noteReturned
  cases codeIndex? closure with
  | none => exact .refl world
  | some noted =>
    intro index other there
    simp only [Array.getElem?_modify] at there
    split at there
    · obtain ⟨code, stood, same⟩ := Option.map_eq_some_iff.mp there
      cases code with
      | closure entry =>
        cases same
        exact .inr ⟨entry.returned, stood⟩
      | foreign parameters run => cases same
    · exact .inr ⟨other.returned, there⟩

/-- A function of values is decoded by the plan of its own signature. -/
theorem wrap_adds {world after : World κ} {type : CallableType κ} {label : String}
    {body : List (Value κ) → Code κ} {address : UInt64}
    (wrapped : world.wrap type label body = .ok (address, after)) : world.AddsAgreeing after := by
  rw [wrap] at wrapped
  obtain ⟨-, rfl⟩ := addClosure_ok wrapped
  refine .push world ⟨?_, rfl, ?_⟩
  · simp [MarshalPlan.ofTypes, MarshalSlot.ofType]
  · intro _ slot among object isObject
    have direct : slot.byHandle = false := by
      simp only [addClosure] at wrapped
      split at wrapped
      · cases wrapped
      · next none => exact MarshalPlan.direct_of_noFault (Option.or_eq_none_iff.mp none).1 slot among
    obtain ⟨one, -, rfl⟩ := List.mem_map.mp among
    obtain rfl : one = .object object := isObject
    cases direct

theorem wrapFunction_adds (world : World κ) (function : HostFunction κ) (label : String) :
    world.AddsAgreeing (world.wrapFunction function label).2 := by
  rw [wrapFunction]
  split
  · exact .refl world
  · next type middle interned =>
    obtain ⟨-, types, rfl⟩ := internType_ok interned
    split
    · exact .of_same rfl
    · next address after wrapped =>
      have typed : world.AddsAgreeing { world with types := types } := .of_same rfl
      exact typed.trans (wrap_adds wrapped)

/-- A thunk has the signature of its own plan. -/
theorem synthesize_adds (world : World κ) (member : Member κ) (symbol : String) (registry : Nat) :
    world.AddsAgreeing (world.synthesize member symbol registry).2 := by
  rw [synthesize]
  split
  · exact .refl world
  · next type middle interned =>
    obtain ⟨signature, types, rfl⟩ := internType_ok interned
    split
    · exact .of_same rfl
    · next address after added =>
      obtain ⟨-, rfl⟩ := addClosure_ok added
      have typed : world.AddsAgreeing { world with types := types } := .of_same rfl
      refine typed.trans (.push _ ⟨?_, ?_, ?_⟩)
      · rw [signature]
        exact MarshalPlan.boundaryParameters_abi _ _
      · rw [signature]
        exact MarshalSlot.boundaryType_abi _
      · intro none
        cases none

theorem synthesizeAll_adds (registry : Nat) (planned : List (Naming.PlannedSymbol κ))
    (world : World κ) : world.AddsAgreeing (synthesizeAll registry planned world).2 := by
  induction planned generalizing world with
  | nil => exact .refl world
  | cons one rest ih =>
    have first := world.synthesize_adds one.member one.symbol registry
    rw [synthesizeAll]
    cases made : world.synthesize one.member one.symbol registry with
    | mk result middle =>
      rw [made] at first
      cases result with
      | error error => exact first
      | ok thunk =>
        have others := first.trans (ih middle)
        dsimp only
        cases synthesized : synthesizeAll registry rest middle with
        | mk result after =>
          rw [synthesized] at others
          cases result <;> exact others

end World

namespace Session

variable {σ : Type}

/-- The process after an operation has the closures of the process before, and others that agree. -/
abbrev Adds (before after : Session σ × World κ) : Prop :=
  before.2.AddsAgreeing after.2

theorem adds_stepwise : Stepwise (Adds : Session σ × World κ → Session σ × World κ → Prop) where
  refl state := .refl state.2
  trans one two := one.trans two

variable {α : Type}

theorem inWorld_adds {step : World κ → Except Error α × World κ}
    (adds : ∀ world : World κ, world.AddsAgreeing (step world).2) :
    (inWorld step : SessionM σ κ α).Respects Adds := by
  rintro ⟨session, world⟩
  rw [SessionM.inWorld_apply]
  exact adds world

theorem ofExcept_adds (result : Except Error α) :
    (MonadExcept.ofExcept result : SessionM σ κ α).Respects Adds := by
  intro state
  rw [SessionM.ofExcept_apply]
  exact .refl state.2

theorem wrapUnder_adds (type : CallableType κ) (label : String) (body : List (Value κ) → Code κ) :
    (wrapUnder type label body : SessionM σ κ UInt64).Respects Adds := by
  apply inWorld_adds
  intro world
  split
  · next wrapped => exact World.wrap_adds wrapped
  · exact .refl world

variable [CompilationService σ κ]

/-- A compilation service that makes no closures when it is given a symbol. -/
def AddsNoClosures (σ κ : Type) [HostProgram κ] [CompilationService σ κ] : Prop :=
  ∀ (name : String) (address : UInt64) (service : σ) (world : World κ),
    (CompilationService.perform (.addSymbol name address) service world).2.2.code = world.code

variable (quiet : AddsNoClosures σ κ)

include quiet

theorem register_adds (name : String) (address : UInt64) :
    (register name address : SessionM σ κ Unit).Respects Adds := by
  have require (condition : Bool) (error : Error) :
      (Session.require condition error : SessionM σ κ Unit).Respects Adds := by
    intro state
    cases condition <;> exact .refl state.2
  refine .bind adds_stepwise (fun state => .refl state.2) fun session => ?_
  refine .bind adds_stepwise (require _ _) fun _ => ?_
  refine .bind adds_stepwise (require _ _) fun _ => ?_
  refine .bind adds_stepwise (require _ _) fun _ => ?_
  refine .bind adds_stepwise ?_ fun _ state => .refl state.2
  rintro ⟨session, world⟩
  rw [SessionM.request_apply]
  exact .of_same (quiet name address session.service world)

theorem addSymbol_adds (name : String) (function : HostFunction κ) :
    (addSymbol name function : SessionM σ κ Unit).Respects Adds :=
  .bind adds_stepwise (inWorld_adds fun world => world.wrapFunction_adds function name) fun address =>
    register_adds quiet name address

theorem addDynamicSymbol_adds (name : String) (type : CallableType κ)
    (body : List (Value κ) → Code κ) :
    (addDynamicSymbol name type body : SessionM σ κ Unit).Respects Adds :=
  .bind adds_stepwise (wrapUnder_adds type name body) fun address =>
    register_adds quiet name address

theorem ensureReleaseSymbol_adds (name : String) :
    (ensureReleaseSymbol name : SessionM σ κ Unit).Respects Adds := by
  refine .bind adds_stepwise (fun state => .refl state.2) fun session => ?_
  split
  · exact fun state => .refl state.2
  · refine .bind adds_stepwise (inWorld_adds ?_) fun type => ?_
    · intro world
      split
      · next interned =>
        obtain ⟨-, types, rfl⟩ := World.internType_ok interned
        exact .of_same rfl
      · exact .refl world
    · refine .bind adds_stepwise (wrapUnder_adds _ _ _) fun address => ?_
      exact .bind adds_stepwise (register_adds quiet name address) fun _ state => .refl state.2

theorem registerThunks_adds (thunks : List (Thunk κ)) :
    (registerThunks thunks : SessionM σ κ Unit).Respects Adds := by
  rw [registerThunks]
  apply SessionM.Respects.forM adds_stepwise
  intro thunk
  exact register_adds quiet thunk.symbol thunk.address

theorem bind_adds (description : TypeDescription κ) (rules : Naming.NamingRules) :
    (bind description rules : SessionM σ κ (List String)).Respects Adds := by
  refine .bind adds_stepwise (fun state => .refl state.2) fun session => ?_
  refine .bind adds_stepwise (ofExcept_adds _) fun planned => ?_
  split
  · exact fun state => .refl state.2
  · refine .bind adds_stepwise (inWorld_adds fun world => world.synthesizeAll_adds _ planned) ?_
    intro thunks
    refine .bind adds_stepwise (ensureReleaseSymbol_adds quiet _) fun _ => ?_
    exact .bind adds_stepwise (registerThunks_adds quiet thunks) fun _ => .pure adds_stepwise _

theorem bindType_adds (description : TypeDescription κ) :
    (bindType description : SessionM σ κ (List String)).Respects Adds := by
  refine .bind adds_stepwise (fun state => .refl state.2) fun session => ?_
  exact bind_adds quiet description session.naming

/-- Every operation that registers closures adds only closures whose descriptions agree. -/
theorem Operation.perform_adds {operation : Operation κ} (registers : operation.registers = true) :
    (operation.perform : SessionM σ κ Unit).Respects Adds := by
  cases operation with
  | register name address => exact register_adds quiet name address
  | addSymbol name function => exact addSymbol_adds quiet name function
  | addDynamicSymbol name type body => exact addDynamicSymbol_adds quiet name type body
  | ensureReleaseSymbol name => exact ensureReleaseSymbol_adds quiet name
  | bind description rules =>
    exact .bind adds_stepwise (bind_adds quiet description rules) fun _ => .pure adds_stepwise ()
  | bindType description =>
    exact .bind adds_stepwise (bindType_adds quiet description) fun _ => .pure adds_stepwise ()
  | _ => cases registers

end Session

/-! ### Runs -/

/-- A way of calling native addresses that adds only closures whose descriptions agree. -/
def Entry.AddsAgreeing (enter : Entry κ) : Prop :=
  ∀ address result raws (world : World κ), world.AddsAgreeing (enter address result raws world).2

section

variable {enter : Entry κ} (adds : enter.AddsAgreeing)

include adds

theorem ForeignFunction.callRaw_adds (function : ForeignFunction κ) (args : List RawValue)
    (world : World κ) : world.AddsAgreeing (function.callRaw enter args world).2 := by
  simp only [callRaw]
  split
  · split
    · exact .refl world
    · exact adds _ _ _ world
  · exact .refl world

theorem ForeignFunction.call_adds (function : ForeignFunction κ) (args : List (Value κ))
    (world : World κ) : world.AddsAgreeing (function.call enter args world).2 := by
  rw [call_eq_encoded]
  split
  · exact .refl world
  · exact .refl world
  · next raws lent memory encoded =>
    let started : World κ := { world with memory := memory, pending := none }
    have begun : world.AddsAgreeing started := .of_same rfl
    have native := begun.trans (function.callRaw_adds adds raws started)
    refine native.trans ?_
    simp only [callEncoded, World.isolate, World.takeFault]
    split
    · exact .of_same rfl
    · split
      · exact .of_same rfl
      · split <;> exact .of_same rfl

/-- No request of host code makes a closure; calls may. -/
theorem Code.step_adds (code : Code κ) (frame : Frame) (world : World κ) :
    world.AddsAgreeing (code.step enter frame world).world := by
  cases code with
  | borrow object exclusive next =>
    simp only [step]
    split <;> exact .of_same rfl
  | writeObject object key state next =>
    simp only [step]
    split <;> exact .of_same rfl
  | writeReceiver key state next =>
    simp only [step]
    split <;> exact .of_same rfl
  | releaseHandle registry handle next =>
    refine .of_same ?_
    simp only [step, Progress.world, World.releaseHandle]
    cases (world.registry registry).release handle <;> rfl
  | call function args next =>
    have called := function.call_adds adds args world
    simp only [step]
    split
    · next ended =>
      rw [ended] at called
      exact called
    · next ended =>
      rw [ended] at called
      exact called
  | callRaw function args next => exact function.callRaw_adds adds args world
  | _ => exact .of_same rfl

theorem Code.run_adds (code : Code κ) (frame : Frame) (world : World κ) :
    world.AddsAgreeing (code.run enter frame world).2 := by
  induction code using Code.follows_wellFounded.induction generalizing frame world with
  | _ code ih =>
    have first := code.step_adds adds frame world
    rw [Code.run_eq_step]
    cases stepped : code.step enter frame world with
    | ended outcome last =>
      rw [stepped] at first
      exact first
    | rest rest frame' last =>
      rw [stepped] at first
      exact first.trans (ih rest ⟨_, _, _, _, _, stepped⟩ frame' last)

theorem Handler.run_adds (handler : Handler κ) (args : List (Value κ)) (world : World κ) :
    world.AddsAgreeing (handler.run enter args world).2 := by
  unfold Handler.run
  split
  · exact Code.run_adds adds _ .bare world
  · exact Code.run_adds adds _ .bare world
  · unfold runOnReceiver
    split
    · exact .refl world
    · have onReceiver (code : Code κ) (cell : Nat) (heap : Heap κ) : world.AddsAgreeing
          (code.run enter (.onReceiver cell) { world with heap := heap }).2 := by
        have begun : world.AddsAgreeing { world with heap := heap } := .of_same rfl
        exact begun.trans (code.run_adds adds _ _)
      split
      · rw [runVirtual]
        split
        · exact .refl world
        · exact (onReceiver _ _ _).trans (.of_same rfl)
      · rw [runCopied]
        split
        · exact .refl world
        · exact onReceiver _ _ _
      · rw [runCopied]
        split
        · exact .refl world
        · exact onReceiver _ _ _
    · exact .refl world

end

namespace ClosureCall

theorem finish_adds (call : ClosureCall κ) (writeBacks : List WriteBack)
    (ended : Outcome (Value κ) × World κ) :
    ended.2.AddsAgreeing (call.finish writeBacks ended).2 := by
  rcases ended with ⟨outcome, left⟩
  cases outcome with
  | panicked message => exact .refl left
  | returned result =>
    cases result with
    | error error => exact .of_same rfl
    | ok value =>
      rw [finish]
      obtain same | ⟨bytes, same⟩ | ⟨registry, object, same⟩ := call.closure.give_cases
        call.address value (applyWriteBacks writeBacks left)
      · rw [same]
        exact .of_same rfl
      · rw [same]
        have written : left.AddsAgreeing
            ((applyWriteBacks writeBacks left).allocateCString bytes).2 := .of_same rfl
        exact written.trans (.noteReturned _ _ _)
      · rw [same]
        exact .of_same rfl

theorem after_adds (call : ClosureCall κ) (adds : (enterAt (κ := κ) call.depth).AddsAgreeing) :
    call.world.AddsAgreeing call.after := by
  have dispatched : call.world.AddsAgreeing call.dispatched.2 := by
    rw [dispatched_eq]
    cases accepted : call.accepted with
    | error error => exact .refl _
    | ok decoded =>
      rcases decoded with ⟨args, writeBacks, heap⟩
      have begun : call.world.AddsAgreeing { call.world with heap := heap } := .of_same rfl
      exact (begun.trans (call.closure.handler.run_adds adds args _)).trans
        (call.finish_adds writeBacks _)
  exact dispatched.trans (.of_same call.after_same.2.2)

end ClosureCall

/-- Native code adds no closures but those that host code makes. -/
theorem enterAt_adds (depth : Nat) : (enterAt (κ := κ) depth).AddsAgreeing := by
  -- As for borrows, what is entered at one depth enters at the depth below only.
  induction depth with
  | zero =>
    intro address result raws world
    exact .of_same rfl
  | succ depth ih =>
    intro address result raws world
    simp only [enterAt]
    cases world.codeAt? address with
    | none => exact .refl world
    | some code =>
      cases code with
      | foreign parameters run => exact .of_same rfl
      | closure closure =>
        let call : ClosureCall κ := ⟨depth, address, closure, raws, world⟩
        have after : (closure.enter (enterAt depth) address raws world).2 = call.after :=
          JournalLaw.enter_after closure depth address raws world
        simp only [after]
        exact call.after_adds ih

/-- A process that has come to its closures by giving host code addresses, by making thunks, and by
the operations of sessions, while host code and native code ran. -/
inductive World.Built (σ : Type) [CompilationService σ κ] : World κ → Prop
  | bare {world : World κ}
      (none : ∀ (index : Nat) (closure : Closure κ), world.code[index]? ≠ some (.closure closure)) :
      Built σ world
  | wrapped {world after : World κ} (built : Built σ world) {type : CallableType κ}
      {label : String} {body : List (Value κ) → Code κ} {address : UInt64}
      (wrapped : world.wrap type label body = .ok (address, after)) : Built σ after
  | wrappedFunction {world : World κ} (built : Built σ world) (function : HostFunction κ)
      (label : String) : Built σ (world.wrapFunction function label).2
  | synthesized {world : World κ} (built : Built σ world) (member : Member κ) (symbol : String)
      (registry : Nat) : Built σ (world.synthesize member symbol registry).2
  | registered {world : World κ} (built : Built σ world) (session : Session σ)
      (operation : Session.Operation κ) (registers : operation.registers = true) :
      Built σ (operation.perform (session, world)).2.2
  | entered {world : World κ} (built : Built σ world) (depth : Nat) (address : UInt64)
      (result : AbiType) (raws : List RawValue) :
      Built σ (enterAt depth address result raws world).2
  | ran {world : World κ} (built : Built σ world) (depth : Nat) (code : Code κ) (frame : Frame) :
      Built σ (code.run (enterAt depth) frame world).2
  | elsewhere {world after : World κ} (built : Built σ world) (same : after.code = world.code) :
      Built σ after

/-- The descriptions of every closure agree. -/
theorem World.Built.agrees {σ : Type} [CompilationService σ κ]
    (quiet : Session.AddsNoClosures σ κ) {world : World κ} (built : world.Built σ) {index : Nat}
    {closure : Closure κ} (there : world.code[index]? = some (.closure closure)) :
    closure.Agrees := by
  have grown {before after : World κ} (adds : before.AddsAgreeing after)
      (all : ∀ {index : Nat} {closure : Closure κ},
        before.code[index]? = some (.closure closure) → closure.Agrees)
      {index : Nat} {closure : Closure κ} (there : after.code[index]? = some (.closure closure)) :
      closure.Agrees := by
    obtain agrees | ⟨returned, stood⟩ := adds index closure there
    · exact agrees
    · exact (all stood).returned closure.returned
  induction built generalizing index closure with
  | bare none => exact absurd there (none index closure)
  | wrapped _ wrapped ih => exact grown (wrap_adds wrapped) ih there
  | wrappedFunction _ function label ih => exact grown (wrapFunction_adds _ function label) ih there
  | synthesized _ member symbol registry ih =>
    exact grown (synthesize_adds _ member symbol registry) ih there
  | registered _ session operation registers ih =>
    exact grown (Session.Operation.perform_adds quiet registers (session, _)) ih there
  | entered _ depth address result raws ih =>
    exact grown (enterAt_adds depth address result raws _) ih there
  | ran _ depth code frame ih => exact grown (code.run_adds (enterAt_adds depth) frame _) ih there
  | elsewhere _ same ih => exact grown (.of_same same) ih there

/-! ### Arguments -/

theorem RawValue.ofWord_abi (type : AbiType) (word : UInt64) : (ofWord type word).abi = type := by
  cases type <;> rfl

theorem receive_abi (parameters : List (Lane × AbiType)) (words : List (Lane × UInt64)) :
    (receive parameters words).map RawValue.abi = parameters.map Prod.snd := by
  induction parameters generalizing words with
  | nil => rfl
  | cons first rest ih =>
    rcases first with ⟨lane, type⟩
    simp only [receive, List.map_cons, ih, RawValue.ofWord_abi]

/-- A callee gets arguments of the types of its parameters, whatever was sent. -/
theorem deliver_abi (types : List AbiType) (args : List RawValue) :
    (deliver types args).map RawValue.abi = types := by
  have same : types.length ≤ (lanes types).length :=
    Nat.le_of_eq (length_lanesWithin _ _ _).symm
  rw [deliver, receive_abi, List.map_snd_zip same]

/-- Of a raw value that has the form of its type the value may be refused. -/
theorem HostType.Refuses.of_fits {registry : Option (Registry κ)} {type : HostType κ}
    {raw : RawValue} {error : Error} (refused : type.Refuses registry raw error)
    (fits : type.Fits raw) (handles : registry = none → ∀ object, type ≠ .object object) :
    error = MarshalError.nullString ∨
    (∃ code, ¬ code.isValidChar ∧ error = MarshalError.invalidChar code) ∨
    (∃ handle, error = HandleError.invalidHandle handle) ∨
    ∃ expected found : ObjectType κ, expected ≠ found ∧
      error = MarshalError.typeMismatch expected.name found.name := by
  cases refused with
  | misfit unfit => exact absurd fits unfit
  | nullString => exact .inl rfl
  | nullBuffer => exact .inl rfl
  | noCharacter invalid => exact .inr (.inl ⟨_, invalid, rfl⟩)
  | unregistered none => exact absurd rfl (handles none _)
  | dead some dead => exact .inr (.inr (.inl ⟨_, rfl⟩))
  | otherType some found other => exact .inr (.inr (.inr ⟨_, _, other.symm, rfl⟩))

namespace ClosureCall

variable {call : ClosureCall κ}

theorem args_abi (agrees : call.closure.Agrees) :
    call.args.map RawValue.abi = call.closure.plan.parameters.map fun slot => slot.type.abi := by
  rw [args, deliver_abi, agrees.parameters]

/-- A closure is never called with arguments of the wrong number or of the wrong form. -/
theorem accepted_fault (agrees : call.closure.Agrees)
    (integral : ∀ slot ∈ call.closure.plan.parameters, slot.type.IsIntegral) {error : Error}
    (failed : call.accepted = .error error) :
    error = MarshalError.nullString ∨
    (∃ code, ¬ code.isValidChar ∧ error = MarshalError.invalidChar code) ∨
    (∃ handle, error = HandleError.invalidHandle handle) ∨
    ∃ expected found : ObjectType κ, expected ≠ found ∧
      error = MarshalError.typeMismatch expected.name found.name := by
  have abis := args_abi agrees
  obtain ⟨differ, -⟩ | ⟨-, index, slot, raw, atSlot, atRaw, refused, -⟩ :=
    accepted_error_iff.mp failed
  · have same := congrArg List.length abis
    rw [List.length_map, List.length_map] at same
    exact absurd same differ
  · have among : slot ∈ call.closure.plan.parameters := List.mem_of_getElem? atSlot
    have abi : raw.abi = slot.type.abi := by
      have there := congrArg (fun types => types[index]?) abis
      simpa [atSlot, atRaw] using there
    apply refused.of_fits (HostType.fits_of_abi (integral slot among) abi)
    intro none
    exact agrees.handles (Option.map_eq_none_iff.mp none) slot among

end ClosureCall

/-! ### Results -/

/-- A value that crosses as it is has the type that it occupies. -/
theorem giveDirect_abi {type : HostType κ} {value : Value κ} {raw : RawValue}
    (given : giveDirect type value = .ok raw) : raw.abi = type.abi := by
  rw [giveDirect] at given
  split at given
  · split at given
    · next same =>
      cases given
      exact same
    · cases given
  · cases given

/-- An encoded result has the type that the declared result occupies. -/
theorem Closure.give_abi {closure : Closure κ} {address : UInt64} {value : Value κ}
    {world : World κ} {raw : RawValue} (given : (closure.give address value world).1 = .ok raw) :
    raw.abi = closure.plan.result.type.abi := by
  -- Texts and objects come out as addresses, everything else in its own representation.
  unfold Closure.give at given
  dsimp only at given
  split at given
  · next declared =>
    cases given
    rw [declared]
    rfl
  · next declared =>
    rw [declared]
    split at given
    · cases given
    · split at given
      · cases given
      · cases given
        rfl
  · next declared =>
    rw [declared]
    split at given
    · cases given
    · cases given
      rfl
  · next declared =>
    rw [declared]
    split at given
    · cases given
    · cases given
      rfl
  · exact giveDirect_abi given

/-- Whatever host code stands behind a closure, a value that a call of it gives has the type of the
signature. -/
theorem Closure.dispatch_abi {closure : Closure κ} (agrees : closure.Agrees) {enter : Entry κ}
    {address : UInt64} {raws : List RawValue} {world after : World κ} {raw : RawValue}
    (dispatched : closure.dispatch enter address raws world = (.returned (.ok raw), after)) :
    raw.abi = closure.type.signature.result.abi := by
  rw [agrees.result]
  simp only [dispatch] at dispatched
  split at dispatched
  · cases dispatched
  · split at dispatched
    · cases dispatched
    · split at dispatched
      · cases dispatched
      · obtain ⟨given, -⟩ := Prod.mk.inj dispatched
        exact give_abi (Outcome.returned.inj given)

/-- The result of a call always has the type of the signature, so that its fault is the error or the
panic of the host code. -/
theorem ClosureCall.fault?_eq {call : ClosureCall κ} (agrees : call.closure.Agrees) :
    call.fault? =
      match call.outcome with
      | .returned (.ok _) => none
      | .returned (.error error) => some error
      | .panicked message => some (.panicked (panicText message)) := by
  rw [fault?]
  cases outcome : call.outcome with
  | panicked message => rfl
  | returned result =>
    cases result with
    | error error => rfl
    | ok raw =>
      have dispatched : call.closure.dispatch (enterAt call.depth) call.address call.args
          call.world = (.returned (.ok raw), call.dispatched.2) := Prod.ext outcome rfl
      exact if_pos (Closure.dispatch_abi agrees dispatched)

/-! ### Encoded arguments -/

/-- An encoded argument has the type that its parameter occupies. -/
theorem encodeOne_abi {heap : Heap κ} {type : HostType κ} {value : Value κ} {raw : RawValue}
    {lent : List LentBuffer} {before after : Memory}
    (encoded : encodeOne heap type value before = .returned (.ok (raw, lent, after))) :
    raw.abi = type.abi := by
  unfold encodeOne at encoded
  split at encoded
  · obtain ⟨bytes, -, done⟩ := Outcome.bind_ok encoded
    cases done
    rfl
  · split at encoded
    · cases encoded
      rfl
    · cases encoded
  · obtain ⟨one, given, done⟩ := Outcome.bind_ok encoded
    cases done
    exact giveDirect_abi (Outcome.returned.inj given)

theorem encodeAll_abi {heap : Heap κ} {types : List (HostType κ)} {values : List (Value κ)}
    {raws : List RawValue} {lent : List LentBuffer} {before after : Memory}
    (same : values.length = types.length)
    (encoded : encodeAll heap types values before = .returned (.ok (raws, lent, after))) :
    raws.map RawValue.abi = types.map HostType.abi := by
  induction types generalizing values raws lent before with
  | nil =>
    cases values with
    | nil =>
      cases encoded
      rfl
    | cons value values => cases same
  | cons type types ih =>
    cases values with
    | nil => cases same
    | cons value values =>
      rw [encodeAll] at encoded
      obtain ⟨⟨raw, first, middle⟩, one, others⟩ := Outcome.bind_ok encoded
      obtain ⟨⟨raws, rest, last⟩, others, done⟩ := Outcome.bind_ok others
      cases done
      rw [List.map_cons, List.map_cons, encodeOne_abi one, ih (Nat.succ.inj same) others]

/-- A call with raw values lets encoded arguments through. -/
theorem ForeignFunction.callRaw_encoded {function : ForeignFunction κ} {args : List (Value κ)}
    {now : World κ} {raws : List RawValue} {lent : List LentBuffer} {memory : Memory}
    (encoded : function.encoded args now = .returned (.ok (raws, lent, memory))) (enter : Entry κ)
    (world : World κ) : ∃ raw, (function.callRaw enter raws world).1 = .ok raw := by
  rw [ForeignFunction.encoded] at encoded
  split at encoded
  · next same =>
    have abis := encodeAll_abi same encoded
    have arity : raws.length = function.type.signature.parameters.length := by
      simpa using congrArg List.length abis
    simp only [callRaw, if_pos arity, rawFault_none abis]
    exact ⟨_, rfl⟩
  · cases encoded

/-! ### Closures of a process -/

/-- In a process that has come to its closures as processes do, the signature and the plan of every
closure describe the same raw values.  So a call through the signature fails to decode only over what
a value is, every value it gives is let through, and host code that calls through the signature gets
past the checks of raw calls with all that it can encode. -/
theorem World.Built.signatures_agree {σ : Type} [CompilationService σ κ]
    (quiet : Session.AddsNoClosures σ κ) {world : World κ} (built : world.Built σ) {index : Nat}
    {closure : Closure κ} (there : world.code[index]? = some (.closure closure))
    (integral : ∀ slot ∈ closure.plan.parameters, slot.type.IsIntegral) :
    (closure.type.signature.parameters.length = closure.plan.parameters.length ∧
      ∀ (place : Nat) (type : HostType κ) (slot : MarshalSlot κ),
        closure.type.signature.parameters[place]? = some type →
          closure.plan.parameters[place]? = some slot → type.abi = slot.type.abi) ∧
    closure.type.signature.result.abi = closure.plan.result.type.abi ∧
    (∀ (call : ClosureCall κ) (error : Error), call.closure = closure →
      call.accepted = .error error →
        error = MarshalError.nullString ∨
        (∃ code, ¬ code.isValidChar ∧ error = MarshalError.invalidChar code) ∨
        (∃ handle, error = HandleError.invalidHandle handle) ∨
        ∃ expected found : ObjectType κ, expected ≠ found ∧
          error = MarshalError.typeMismatch expected.name found.name) ∧
    (∀ (handler : Handler κ) (enter : Entry κ) (address : UInt64) (raws : List RawValue)
      (before after : World κ) (raw : RawValue),
      ({ closure with handler := handler } : Closure κ).dispatch enter address raws before =
        (.returned (.ok raw), after) → raw.abi = closure.type.signature.result.abi) ∧
    (∀ call : ClosureCall κ, call.closure = closure → call.fault? =
      match call.outcome with
      | .returned (.ok _) => none
      | .returned (.error error) => some error
      | .panicked message => some (.panicked (panicText message))) ∧
    ∀ (function : ForeignFunction κ) (args : List (Value κ)) (now : World κ)
      (raws : List RawValue) (lent : List LentBuffer) (memory : Memory),
      function.encoded args now = .returned (.ok (raws, lent, memory)) →
        ∀ (enter : Entry κ) (before : World κ),
          ∃ raw, (function.callRaw enter raws before).1 = .ok raw := by
  have agrees := built.agrees quiet there
  refine ⟨⟨?_, ?_⟩, agrees.result, ?_, ?_, ?_, ?_⟩
  · simpa using congrArg List.length agrees.parameters
  · intro place type slot atType atSlot
    have same := congrArg (fun types => types[place]?) agrees.parameters
    simpa [atType, atSlot] using same
  · rintro call error rfl failed
    exact call.accepted_fault agrees integral failed
  · intro handler enter address raws before after raw dispatched
    have agrees' : ({ closure with handler := handler } : Closure κ).Agrees :=
      ⟨agrees.parameters, agrees.result, agrees.handles⟩
    exact Closure.dispatch_abi agrees' dispatched
  · rintro call rfl
    exact call.fault?_eq agrees
  · intro function args now raws lent memory encoded enter before
    exact function.callRaw_encoded encoded enter before

namespace Workbench

theorem scriptedCompiler_addsNoClosures : Session.AddsNoClosures ScriptedCompiler Key := by
  intro name address service world
  rfl

/-- A method whose parameters are an enumeration, a character, an instance and a text buffer.  It
answers with a number where a text is declared. -/
def paintMember : Member Key where
  kind := .method
  owner := ⟨.widget .testClass, .reference⟩
  name := "paint"
  isStatic := false
  parameters := [.enumeration level.name (.integer level.repr), .char,
    .object ⟨.shape, .value⟩, .stringBuffer]
  result := .string
  visibility := .shown
  symbol := some "paint"
  body _ := .done (.ok (.f64 F64.one))

/-- The thunk of the method, its handles in the first registry. -/
def paintThunk : Closure Key :=
  ⟨⟨1, thunkSignature paintMember⟩, "paint", thunkPlan paintMember, some 0,
    .member (Dispatch.ofMember paintMember) paintMember, []⟩

/-- The process after the method was bound in a new session, and native code has called nothing. -/
def paintWorld : World Key :=
  let start : Session ScriptedCompiler × World Key :=
    Session.create ScriptedCompiler.fresh (World.initial Globals.initial)
  ((Session.Operation.bind ⟨⟨.widget .testClass, .reference⟩, [paintMember]⟩ .builtin).perform
    start).2.2

/-- The thunk of a bound method has five parameters on both sides, and what its signature lets
through is faulted for no other reason than that the method failed. -/
theorem paintThunk_agrees :
    Session.AddsNoClosures ScriptedCompiler Key ∧ paintWorld.Built ScriptedCompiler ∧
    paintWorld.code[0]? = some (.closure paintThunk) ∧
    (∀ slot ∈ paintThunk.plan.parameters, slot.type.IsIntegral) ∧
    (paintThunk.type.signature.parameters.length = 5 ∧
      paintThunk.type.signature.result.abi = paintThunk.plan.result.type.abi) ∧
    ∀ call : ClosureCall Key, call.closure = paintThunk → call.fault? =
      match call.outcome with
      | .returned (.ok _) => none
      | .returned (.error error) => some error
      | .panicked message => some (.panicked (NativeBridge.panicText message)) := by
  have built : paintWorld.Built ScriptedCompiler := by
    apply World.Built.registered (.bare _) _ _ rfl
    intro index closure there
    simp [World.initial] at there
  have there : paintWorld.code[0]? = some (.closure paintThunk) := rfl
  have integral : ∀ slot ∈ paintThunk.plan.parameters, slot.type.IsIntegral := by
    have slots : paintThunk.plan.parameters = (HostType.object ⟨.widget .testClass, .reference⟩ ::
      paintMember.parameters).map MarshalSlot.ofType := rfl
    rw [slots]
    simp [paintMember, MarshalSlot.ofType, HostType.IsIntegral]
  have agree := built.signatures_agree scriptedCompiler_addsNoClosures there integral
  exact ⟨scriptedCompiler_addsNoClosures, built, there, integral,
    ⟨agree.1.1.trans rfl, agree.2.1⟩, agree.2.2.2.2.1⟩

end Workbench

end NativeBridge
