/-
Module: NativeBridge.Proofs.RefusedArguments
Purpose: Which raw arguments cannot be decoded, with what error, and that a call which refuses its
  arguments changes nothing.
Main exports: HostType.Refuses, accept_error_iff, MarshalPlan.Refuses, acceptAll_error_iff,
  ClosureCall.refused, Closure.refusal_unchanged
-/
import NativeBridge.Proofs.HandleLedger
import NativeBridge.Proofs.Moments
import NativeBridge.Proofs.WriteBacks

namespace NativeBridge

variable {κ : Type} [HostProgram κ]

/-!
Whether an argument is refused depends on its slot, on the raw value and on the handles that are
live, and on nothing that the arguments before it have made.  So an argument list is refused with the
error of its first bad argument, unless its length is wrong already.  Decoding makes string buffers
on the way, but these are dropped when it fails, and native memory and handles are only read.
-/

/-! ### One argument -/

/-- A raw value has the form in which values of a host type arrive.  Nothing is asked of void, and an
enumeration arrives as an integer. -/
def HostType.Fits : HostType κ → RawValue → Prop
  | .void, _ => True
  | .enumeration _ repr, raw => ∃ type, repr = .integer type ∧ raw.abi = .integer type
  | type, raw => raw.abi = type.abi

/-- A host type refuses a raw value with an error, given the registry that handles are looked up
in. -/
inductive HostType.Refuses (registry : Option (Registry κ)) :
    HostType κ → RawValue → Error → Prop where
  | misfit {type : HostType κ} {raw : RawValue} (unfit : ¬ type.Fits raw) :
      Refuses registry type raw (MarshalError.typeMismatch type.name raw.abi.title)
  | nullString : Refuses registry .string (.pointer 0) MarshalError.nullString
  | nullBuffer : Refuses registry .stringBuffer (.pointer 0) MarshalError.nullString
  | noCharacter {code : UInt32} (invalid : ¬ code.isValidChar) :
      Refuses registry .char (.integer .u32 code) (MarshalError.invalidChar code)
  | unregistered {type : ObjectType κ} {handle : UInt64} (none : registry = none) :
      Refuses registry (.object type) (.pointer handle)
        (CallableError.opaqueSignature "parameter" type.name)
  | dead {type : ObjectType κ} {handle : UInt64} {handles : Registry κ}
      (some : registry = some handles) (dead : handles.isLive handle = false) :
      Refuses registry (.object type) (.pointer handle) (HandleError.invalidHandle handle)
  | otherType {type : ObjectType κ} {handle : UInt64} {handles : Registry κ}
      {object : HostObject κ} (some : registry = some handles)
      (found : handles.resolve handle = .ok object) (other : object.type ≠ type) :
      Refuses registry (.object type) (.pointer handle)
        (MarshalError.typeMismatch type.name object.type.name)

section OneArgument

theorem HostObject.expectType_self (object : HostObject κ) :
    object.expectType object.type = .ok () := if_pos rfl

theorem HostObject.expectType_other {object : HostObject κ} {type : ObjectType κ}
    (other : object.type ≠ type) :
    object.expectType type = .error (.typeMismatch type.name object.type.name) := if_neg other

variable {registry : Option (Registry κ)} {memory : Memory} {byHandle : Bool} {heap : Heap κ}
  {error : Error}

/-- A handle is refused when it is not live, and when it stands for an object of another type. -/
theorem accept_handle_error {handles : Registry κ} {type : ObjectType κ} {handle : UInt64} :
    accept (some handles) memory ⟨.object type, byHandle⟩ (.pointer handle) heap = .error error ↔
      (handles.isLive handle = false ∧ error = HandleError.invalidHandle handle) ∨
      ∃ object, handles.resolve handle = .ok object ∧ object.type ≠ type ∧
        error = MarshalError.typeMismatch type.name object.type.name := by
  have decoded : accept (some handles) memory ⟨.object type, byHandle⟩ (.pointer handle) heap =
      (liftM (handles.resolve handle) : Except Error (HostObject κ)) >>= fun object =>
        (liftM (object.expectType type) : Except Error Unit) >>= fun _ =>
          .ok (.object object, [], heap) := rfl
  rw [decoded]
  cases live : handles.isLive handle with
  | false =>
    rw [Registry.resolve_of_dead live]
    constructor
    · intro failed
      cases failed
      exact .inl ⟨rfl, rfl⟩
    · rintro (⟨-, rfl⟩ | ⟨object, found, -⟩)
      · rfl
      · cases found
  | true =>
    obtain ⟨object, found⟩ := Registry.isLive_iff_resolve.mp live
    rw [found]
    by_cases same : object.type = type
    · subst same
      constructor
      · intro failed
        have looked : ((liftM (object.expectType object.type) : Except Error Unit) >>= fun _ =>
            .ok (Value.object object, ([] : List WriteBack), heap)) = .error error := failed
        rw [object.expectType_self] at looked
        cases looked
      · rintro (⟨dead, -⟩ | ⟨other, again, differ, -⟩)
        · cases dead
        · cases again
          exact absurd rfl differ
    · have refused : ((liftM (object.expectType type) : Except Error Unit) >>= fun _ =>
          .ok (Value.object object, ([] : List WriteBack), heap)) =
            .error (MarshalError.typeMismatch type.name object.type.name) := by
        rw [HostObject.expectType_other same]
        rfl
      constructor
      · intro failed
        obtain rfl := Except.error.inj (refused.symm.trans failed)
        exact .inr ⟨object, rfl, same, rfl⟩
      · rintro (⟨dead, -⟩ | ⟨other, again, -, rfl⟩)
        · cases dead
        · cases again
          exact refused

/-- An integer is decoded where integers of its type are declared. -/
theorem accept_integer {type found : IntegerType} {n : found.Word} :
    accept registry memory ⟨.integer type, byHandle⟩ (.integer found n) heap =
      if found = type then .ok (.integer found n, [], heap)
      else .error (MarshalError.typeMismatch type.name (RawValue.integer found n).abi.title) := by
  simp only [accept, Value.fromRaw]
  split <;> rfl

/-- An integer is decoded as an enumeration whose underlying type it has. -/
theorem accept_enumeration {name : String} {repr : AbiType} {found : IntegerType}
    {n : found.Word} :
    accept registry memory ⟨.enumeration name repr, byHandle⟩ (.integer found n) heap =
      if repr = .integer found then .ok (.integer found n, [], heap)
      else .error (MarshalError.typeMismatch name (RawValue.integer found n).abi.title) := by
  simp only [accept, Value.fromRaw]
  split <;> rfl

/-- A number is decoded as the character whose code point it is. -/
theorem accept_char {code : UInt32} :
    accept registry memory ⟨.char, byHandle⟩ (.integer .u32 code) heap =
      if valid : code.isValidChar then .ok (.char ⟨code, valid⟩, [], heap)
      else .error (MarshalError.invalidChar code) := by
  simp only [accept, Value.fromRaw, Value.charOfCode]
  split <;> rfl

/-- A raw value of another form than that of its type cannot be decoded. -/
theorem accept_misfit {type : HostType κ} {raw : RawValue} (unfit : ¬ type.Fits raw) :
    accept registry memory ⟨type, byHandle⟩ raw heap =
      .error (MarshalError.typeMismatch type.name raw.abi.title) := by
  cases type with
  | void => exact absurd trivial unfit
  | integer type =>
    cases raw with
    | integer found n =>
      have other : ¬ found = type := fun same => unfit (congrArg AbiType.integer same)
      rw [accept_integer, if_neg other]
      rfl
    | _ => rfl
  | enumeration name repr =>
    cases raw with
    | integer found n =>
      have other : ¬ repr = .integer found := fun same => unfit ⟨found, same, rfl⟩
      rw [accept_enumeration, if_neg other]
      rfl
    | _ => rfl
  | char =>
    cases raw with
    | integer found n =>
      cases found with
      | u32 => exact absurd rfl unfit
      | _ => rfl
    | _ => rfl
  | pointer | string | stringBuffer | object _ =>
    cases raw with
    | pointer address => exact absurd rfl unfit
    | _ => rfl
  | f32 =>
    cases raw with
    | f32 x => exact absurd rfl unfit
    | _ => rfl
  | f64 =>
    cases raw with
    | f64 x => exact absurd rfl unfit
    | _ => rfl

/-- A raw value of the form of its type is decoded unless it is the null address of a text, a number
that is no character, or a handle that does not stand for such an object. -/
theorem refuses_of_fits {type : HostType κ} {raw : RawValue} (fits : type.Fits raw)
    (failed : accept registry memory ⟨type, byHandle⟩ raw heap = .error error) :
    type.Refuses registry raw error := by
  cases type with
  | void => cases failed
  | pointer | f32 | f64 =>
    cases raw <;> cases fits
    cases failed
  | integer type =>
    cases raw <;> cases fits
    rw [accept_integer, if_pos rfl] at failed
    cases failed
  | enumeration name repr =>
    obtain ⟨found, rfl, form⟩ := fits
    cases raw <;> cases form
    rw [accept_enumeration, if_pos rfl] at failed
    cases failed
  | char =>
    cases raw <;> cases fits
    rw [accept_char] at failed
    split at failed
    · cases failed
    · next invalid =>
      cases failed
      exact .noCharacter invalid
  | string =>
    cases raw <;> cases fits
    rw [accept_string, cStringAt] at failed
    split at failed
    · next null =>
      subst null
      cases failed
      exact .nullString
    · cases failed
  | stringBuffer =>
    cases raw <;> cases fits
    rw [accept_stringBuffer, cStringAt] at failed
    split at failed
    · next null =>
      subst null
      cases failed
      exact .nullBuffer
    · cases failed
  | object type =>
    cases raw <;> cases fits
    cases registry with
    | none =>
      cases failed
      exact .unregistered rfl
    | some handles =>
      obtain ⟨dead, rfl⟩ | ⟨object, found, other, rfl⟩ := accept_handle_error.mp failed
      · exact .dead rfl dead
      · exact .otherType rfl found other

/-- An argument cannot be decoded exactly when its type refuses it, and with this error. -/
theorem accept_error_iff {slot : MarshalSlot κ} {raw : RawValue} :
    accept registry memory slot raw heap = .error error ↔ slot.type.Refuses registry raw error := by
  rcases slot with ⟨type, byHandle⟩
  constructor
  · intro failed
    by_cases fits : type.Fits raw
    · exact refuses_of_fits fits failed
    · obtain rfl := Except.error.inj ((accept_misfit fits).symm.trans failed)
      exact .misfit fits
  · intro refused
    cases refused with
    | misfit unfit => exact accept_misfit unfit
    | nullString => rfl
    | nullBuffer => rfl
    | noCharacter invalid => rw [accept_char, dif_neg invalid]
    | unregistered none => subst none; rfl
    | dead some dead => subst some; exact accept_handle_error.mpr (.inl ⟨dead, rfl⟩)
    | otherType some found other =>
      subst some
      exact accept_handle_error.mpr (.inr ⟨_, found, other, rfl⟩)

end OneArgument

/-! ### Argument lists -/

/-- The error of the first argument that its slot refuses. -/
def FirstRefused (registry : Option (Registry κ)) (slots : List (MarshalSlot κ))
    (raws : List RawValue) (error : Error) : Prop :=
  ∃ (index : Nat) (slot : MarshalSlot κ) (raw : RawValue),
    slots[index]? = some slot ∧ raws[index]? = some raw ∧ slot.type.Refuses registry raw error ∧
    ∀ (earlier : Nat) (slot : MarshalSlot κ) (raw : RawValue) (fault : Error), earlier < index →
      slots[earlier]? = some slot → raws[earlier]? = some raw →
      ¬ slot.type.Refuses registry raw fault

/-- A plan refuses an argument list with an error: that of its length when it has another length than
the plan, and else that of the first argument that is refused. -/
def MarshalPlan.Refuses (plan : MarshalPlan κ) (registry : Option (Registry κ))
    (raws : List RawValue) (error : Error) : Prop :=
  (raws.length ≠ plan.parameters.length ∧
    error = MarshalError.arityMismatch plan.parameters.length raws.length) ∨
  (raws.length = plan.parameters.length ∧ FirstRefused registry plan.parameters raws error)

section ArgumentLists

variable {registry : Option (Registry κ)} {memory : Memory} {slots : List (MarshalSlot κ)}
  {raws : List RawValue} {error : Error}

theorem firstRefused_cons {slot : MarshalSlot κ} {raw : RawValue} :
    FirstRefused registry (slot :: slots) (raw :: raws) error ↔
      slot.type.Refuses registry raw error ∨
      ((∀ fault, ¬ slot.type.Refuses registry raw fault) ∧
        FirstRefused registry slots raws error) := by
  constructor
  · rintro ⟨index, one, found, atSlot, atRaw, refused, first⟩
    cases index with
    | zero =>
      cases atSlot
      cases atRaw
      exact .inl refused
    | succ index =>
      refine .inr ⟨fun fault => first 0 slot raw fault (Nat.succ_pos _) rfl rfl, ?_⟩
      refine ⟨index, one, found, atSlot, atRaw, refused, ?_⟩
      intro earlier other sent fault before atOther atSent
      exact first (earlier + 1) other sent fault (Nat.succ_lt_succ before) atOther atSent
  · rintro (refused | ⟨here, index, one, found, atSlot, atRaw, refused, first⟩)
    · exact ⟨0, slot, raw, rfl, rfl, refused, fun _ _ _ _ before => absurd before (Nat.not_lt_zero _)⟩
    · refine ⟨index + 1, one, found, atSlot, atRaw, refused, ?_⟩
      intro earlier other sent fault before atOther atSent
      cases earlier with
      | zero =>
        cases atOther
        cases atSent
        exact here fault
      | succ earlier =>
        exact first earlier other sent fault (Nat.lt_of_succ_lt_succ before) atOther atSent

/-- Decoding goes on past the arguments that are not refused, whatever they have made. -/
theorem acceptEach_error_iff (same : raws.length = slots.length) (heap : Heap κ) :
    acceptEach registry memory slots raws heap = .error error ↔
      FirstRefused registry slots raws error := by
  induction slots generalizing raws heap with
  | nil =>
    constructor
    · intro failed
      cases raws <;> cases failed
    · rintro ⟨index, slot, raw, atSlot, -⟩
      cases atSlot
  | cons slot slots ih =>
    cases raws with
    | nil => cases same
    | cons raw raws =>
      rw [firstRefused_cons]
      cases first : accept registry memory slot raw heap with
      | error fault =>
        have refused : slot.type.Refuses registry raw fault := accept_error_iff.mp first
        have stops : acceptEach registry memory (slot :: slots) (raw :: raws) heap =
            .error fault := by
          rw [acceptEach, first]
          rfl
        rw [stops]
        constructor
        · intro failed
          cases failed
          exact .inl refused
        · rintro (also | ⟨never, -⟩)
          · obtain rfl := Except.error.inj (first.symm.trans (accept_error_iff.mpr also))
            rfl
          · exact absurd refused (never fault)
      | ok decoded =>
        rcases decoded with ⟨value, writeBacks, after⟩
        have taken : ∀ fault, ¬ slot.type.Refuses registry raw fault := by
          intro fault refused
          cases first.symm.trans (accept_error_iff.mpr refused)
        have goes : acceptEach registry memory (slot :: slots) (raw :: raws) heap = .error error ↔
            acceptEach registry memory slots raws after = .error error := by
          rw [acceptEach, first]
          simp only [bind, Except.bind]
          cases acceptEach registry memory slots raws after <;> simp
        rw [goes, ih (Nat.succ.inj same)]
        constructor
        · exact fun later => .inr ⟨taken, later⟩
        · rintro (refused | ⟨-, later⟩)
          · exact absurd refused (taken error)
          · exact later

/-- Decoding fails exactly for the argument lists that the plan refuses. -/
theorem acceptAll_error_iff (plan : MarshalPlan κ) (heap : Heap κ) :
    acceptAll registry memory plan.parameters raws heap = .error error ↔
      plan.Refuses registry raws error := by
  rw [acceptAll, MarshalPlan.Refuses]
  split
  · next same => simp [same, acceptEach_error_iff same]
  · next differ => simp [differ, eq_comm]

end ArgumentLists

/-! ### Calls -/

namespace ClosureCall

variable {call : ClosureCall κ} {error : Error}

/-- A call of a closure decodes its arguments unless the plan of the closure refuses them. -/
theorem accepted_error_iff : call.accepted = .error error ↔
    call.closure.plan.Refuses (call.closure.registry.map call.world.registry) call.args error :=
  acceptAll_error_iff call.closure.plan call.world.heap

/-- A call that refuses its arguments runs no host code, and all it leaves is its fault. -/
theorem refused (failed : call.accepted = .error error) :
    call.inside = none ∧
      (∀ inner, call.trace inner = [.entered call, .left call, .answered call]) ∧
      call.after = call.world.raise error := by
  have dispatched : call.dispatched = (.returned (.error error), call.world) := by
    rw [dispatched_eq, failed]
  have fault : call.fault? = some error := by
    rw [fault?, outcome, dispatched]
  refine ⟨?_, ?_, ?_⟩
  · rw [inside, failed]
  · intro inner
    rw [trace, insideTrace, failed]
    rfl
  · rw [after, fault, dispatched]

end ClosureCall

/-- Arguments cannot be decoded exactly when the plan of the closure refuses them.  Then the error is
that of the refusal, the process is what it was, and no host code is run, whichever there is. -/
theorem Closure.refusal_unchanged (closure : Closure κ) (world : World κ) (raws : List RawValue)
    (error : Error) :
    (acceptAll (closure.registry.map world.registry) world.memory closure.plan.parameters raws
        world.heap = .error error ↔
      closure.plan.Refuses (closure.registry.map world.registry) raws error) ∧
    (closure.plan.Refuses (closure.registry.map world.registry) raws error →
      (∀ (handler : Handler κ) (enter : Entry κ) (address : UInt64),
        ({ closure with handler := handler } : Closure κ).dispatch enter address raws world =
          (.returned (.error error), world)) ∧
      ∀ call : ClosureCall κ, call.closure = closure → call.world = world → call.args = raws →
        call.inside = none ∧
        (∀ inner, call.trace inner = [.entered call, .left call, .answered call]) ∧
        call.after = world.raise error) := by
  refine ⟨acceptAll_error_iff closure.plan world.heap, ?_⟩
  intro refused
  have failed : acceptAll (closure.registry.map world.registry) world.memory
      closure.plan.parameters raws world.heap = .error error :=
    (acceptAll_error_iff closure.plan world.heap).mpr refused
  constructor
  · intro handler enter address
    simp only [dispatch, failed]
  · rintro call rfl rfl rfl
    exact ClosureCall.refused failed

namespace Workbench

/-- The class of the instances that are merged. -/
def mergedType : ObjectType Key := ⟨.widget .testClass, .reference⟩

/-- What is merged: a text buffer and two instances. -/
def mergePlan : MarshalPlan Key :=
  .ofTypes [.stringBuffer, .object mergedType, .object mergedType] .void

/-- A process with a text, and with one instance behind one handle. -/
def mergeWorld : World Key :=
  let started : World Key := World.initial Globals.initial
  { started with
    memory := (Memory.empty.allocateCString (Text.Utf8.encode "tick")).2
    heap := (Heap.empty.newObject mergedType Widget.default).2
    registries := #[(Registry.empty.allocate ⟨0, mergedType⟩).2] }

/-- A call that passes the text, the handle, and a number that is no handle. -/
def mergeCall : ClosureCall Key where
  depth := 0
  address := World.codeAddress 0
  closure := ⟨⟨1, ⟨mergePlan.boundaryParameters, mergePlan.boundaryResult⟩⟩, "merge", mergePlan,
    some 0, .function fun _ => .panic none, []⟩
  sent := [.pointer (UInt64.ofNat Memory.base), .pointer 1, .pointer 2]
  world := mergeWorld

/-- Though the text and the handle were decoded, the call fails with the third argument, and the
process is what it was. -/
theorem merge_refused :
    (∃ decoded, acceptEach (mergeCall.closure.registry.map mergeWorld.registry) mergeWorld.memory
      (mergePlan.parameters.take 2) (mergeCall.args.take 2) mergeWorld.heap = .ok decoded) ∧
    mergePlan.Refuses (mergeCall.closure.registry.map mergeWorld.registry) mergeCall.args
      (HandleError.invalidHandle 2) ∧
    (∀ handler enter address,
      ({ mergeCall.closure with handler := handler } : Closure Key).dispatch enter address
        mergeCall.args mergeWorld = (.returned (.error (HandleError.invalidHandle 2)), mergeWorld)) ∧
    mergeCall.inside = none ∧ mergeCall.after = mergeWorld.raise (HandleError.invalidHandle 2) :=
  have law := mergeCall.closure.refusal_unchanged mergeWorld mergeCall.args
    (HandleError.invalidHandle 2)
  have refused := law.1.mp rfl
  have call := (law.2 refused).2 mergeCall rfl rfl rfl
  ⟨⟨_, rfl⟩, refused, (law.2 refused).1, call.1, call.2.2⟩

end Workbench

end NativeBridge
