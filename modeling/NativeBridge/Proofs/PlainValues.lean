/-
Module: NativeBridge.Proofs.PlainValues
Purpose: Values that are neither buffers nor objects cross between host and native code unchanged.
Main exports: Value.HasType, Value.HasNul, Memory.Carries, encodeAll_ok, encodeAll_nul,
  acceptEach_ok, decodeReturn_ok, Closure.give_ok, HostFunction.run_body
-/
import Mathlib.Data.List.Forall2
import NativeBridge.Call
import NativeBridge.Proofs.NativeTexts
import NativeBridge.Proofs.Utf8RoundTrip

namespace NativeBridge

variable {κ : Type}

/-!
A plain value is either its own raw form or a text, whose raw form is the address of a C string.
What encoding a value leaves in native memory carries the value: whoever decodes it at the same type
gets the value back.
-/

/-- The types of values that cross by themselves, an enumeration as its integer. -/
def HostType.IsPlain : HostType κ → Prop
  | .stringBuffer | .object _ => False
  | .enumeration _ repr => ∃ type, repr = .integer type
  | .void | .pointer | .integer _ | .char | .f32 | .f64 | .string => True

/-- A plain type needs no handle. -/
theorem HostType.IsPlain.byHandle {type : HostType κ} (plain : type.IsPlain) :
    (MarshalSlot.ofType type).byHandle = false := by
  cases type with
  | stringBuffer => cases plain
  | object type => cases plain
  | _ => rfl

/-- A value is one of a plain type. -/
inductive Value.HasType : Value κ → HostType κ → Prop
  | void : HasType .void .void
  | pointer (address : UInt64) : HasType (.pointer address) .pointer
  | integer (type : IntegerType) (n : type.Word) : HasType (.integer type n) (.integer type)
  | char (c : Char) : HasType (.char c) .char
  | f32 (x : F32) : HasType (.f32 x) .f32
  | f64 (x : F64) : HasType (.f64 x) .f64
  | string (text : String) : HasType (.string text) .string
  | enumeration (name : String) (type : IntegerType) (n : type.Word) :
      HasType (.integer type n) (.enumeration name (.integer type))

/-- A value is a text with a NUL in it. -/
def Value.HasNul : Value κ → Prop
  | .string text => '\x00' ∈ text.toList
  | _ => False

/-! ### Texts in native memory -/

theorem cBytes_nul {text : String} (nul : '\x00' ∈ text.toList) :
    cBytes text = .error .interiorNul := by
  have zero : (Text.Utf8.encode text).contains 0 = true :=
    List.contains_iff_mem.mpr ((Text.Utf8.zero_mem_encode text).mpr nul)
  rw [cBytes, if_pos zero]

theorem cBytes_ok {text : String} (clean : '\x00' ∉ text.toList) :
    cBytes text = .ok (Text.Utf8.encode text) := by
  have nonzero : ¬ (Text.Utf8.encode text).contains 0 = true := by
    intro zero
    exact clean ((Text.Utf8.zero_mem_encode text).mp (List.contains_iff_mem.mp zero))
  rw [cBytes, if_neg nonzero]

namespace Memory

/-- Memory with a copy of a value, if it is a text. -/
def keep (memory : Memory) : Value κ → Memory
  | .string text => (memory.allocateCString (Text.Utf8.encode text)).2
  | _ => memory

/-- Memory with a copy of every text among some values. -/
def keepAll (memory : Memory) (values : List (Value κ)) : Memory :=
  values.foldl keep memory

theorem keep_extends (memory : Memory) (value : Value κ) : memory.Extends (memory.keep value) := by
  cases value with
  | string text => exact memory.allocateCString_extends _
  | _ => exact .refl memory

theorem keepAll_extends (memory : Memory) (values : List (Value κ)) :
    memory.Extends (memory.keepAll values) := by
  induction values generalizing memory with
  | nil => exact .refl memory
  | cons value values ih => exact (memory.keep_extends value).trans (ih _)

/-- A raw value stands for a value: it is its raw form, or the address of its text. -/
def Carries (memory : Memory) (raw : RawValue) : Value κ → Prop
  | .string text => ∃ address, raw = .pointer address ∧
      memory.HoldsCString address (Text.Utf8.encode text)
  | value => value.toRaw? = some raw

theorem Carries.extend {memory later : Memory} {raw : RawValue} {value : Value κ}
    (carries : memory.Carries raw value) (grown : memory.Extends later) :
    later.Carries raw value := by
  cases value with
  | string text =>
    rcases carries with ⟨address, same, holds⟩
    exact ⟨address, same, holds.extend grown⟩
  | _ => exact carries

/-- The text at an address is read back. -/
theorem HoldsCString.cStringAt_eq {memory : Memory} {address : UInt64} {text : String}
    (holds : memory.HoldsCString address (Text.Utf8.encode text)) (clean : '\x00' ∉ text.toList) :
    cStringAt memory address = .ok (Text.Utf8.encode text) := by
  have nonzero : 0 ∉ Text.Utf8.encode text := by
    intro zero
    exact clean ((Text.Utf8.zero_mem_encode text).mp zero)
  rw [cStringAt, if_neg holds.nonnull, holds.cString_eq nonzero]

end Memory

/-! ### One value -/

namespace Value.HasType

variable {value : Value κ} {type : HostType κ} {raw : RawValue} {memory : Memory}

/-- A value's raw form has the calling-convention type of any type of the value. -/
theorem abi_toRaw (typed : value.HasType type) (direct : value.toRaw? = some raw) :
    raw.abi = type.abi := by
  cases typed with
  | string text => cases direct
  | _ =>
    cases direct
    rfl

theorem abi_eq (typed : value.HasType type) (carried : memory.Carries raw value) :
    raw.abi = type.abi := by
  cases typed with
  | string text =>
    rcases carried with ⟨address, rfl, -⟩
    rfl
  | _ =>
    cases carried
    rfl

variable [HostProgram κ]

theorem giveDirect_ok (typed : value.HasType type) (direct : value.toRaw? = some raw) :
    giveDirect type value = .ok raw := by
  rw [giveDirect, direct]
  exact if_pos (typed.abi_toRaw direct)

theorem fromRaw_ok (typed : value.HasType type) (direct : value.toRaw? = some raw) :
    Value.fromRaw raw type = .ok value := by
  cases typed with
  | string text => cases direct
  | char c =>
    cases direct
    have valid : Value.charOfCode c.val = .ok c := dif_pos c.valid
    simp [Value.fromRaw, valid, Except.map]
  | _ =>
    cases direct
    simp [Value.fromRaw]

/-- Encoding a text with a NUL fails. -/
theorem encodeOne_nul (typed : value.HasType type) (nul : value.HasNul) (heap : Heap κ)
    (memory : Memory) :
    encodeOne heap type value memory = .returned (.error MarshalError.interiorNul) := by
  cases typed with
  | string text =>
    rw [encodeOne, cBytes_nul nul]
    rfl
  | _ => cases nul

/-- Encoding any other value copies its text to memory, and the raw value stands for the value. -/
theorem encodeOne_ok (typed : value.HasType type) (clean : ¬ value.HasNul) (heap : Heap κ)
    (memory : Memory) :
    ∃ raw, encodeOne heap type value memory = .returned (.ok (raw, [], memory.keep value)) ∧
      ((memory.keep value).Fits → (memory.keep value).Carries raw value) := by
  cases typed with
  | string text =>
    refine ⟨.pointer (memory.allocateCString (Text.Utf8.encode text)).1, ?_, ?_⟩
    · rw [encodeOne, cBytes_ok clean]
      rfl
    · intro fits
      exact ⟨_, rfl, Memory.allocateCString_holds fits⟩
  | void | pointer address | integer type n | char c | f32 x | f64 x | enumeration name type n =>
    refine ⟨_, ?_, fun _ => rfl⟩
    simp only [encodeOne]
    rw [giveDirect_ok (by constructor) rfl]
    rfl

/-- Native code that holds a raw value for a value passes the value on. -/
theorem accept_ok (typed : value.HasType type) (clean : ¬ value.HasNul)
    (carried : memory.Carries raw value) (registry : Option (Registry κ)) (heap : Heap κ) :
    accept registry memory (.ofType type) raw heap = .ok (value, [], heap) := by
  have read : value.toRaw? = some raw → Value.fromRaw raw type = .ok value := typed.fromRaw_ok
  cases typed with
  | string text =>
    rcases carried with ⟨address, rfl, holds⟩
    rw [MarshalSlot.ofType, accept_string, holds.cStringAt_eq clean]
    show Except.ok (Value.string (Text.Utf8.decodeLossy (Text.Utf8.encode text)), [], heap) = _
    rw [Text.Utf8.decodeLossy_encode]
  | void | pointer address | integer type n | char c | f32 x | f64 x | enumeration name type n =>
    simp only [accept, MarshalSlot.ofType]
    rw [read carried]
    rfl

theorem decodeReturn_ok (typed : value.HasType type) (clean : ¬ value.HasNul)
    (carried : memory.Carries raw value) (heap : Heap κ) :
    decodeReturn memory raw type heap = .ok (value, heap) := by
  have read : value.toRaw? = some raw → Value.fromRaw raw type = .ok value := typed.fromRaw_ok
  cases typed with
  | string text =>
    rcases carried with ⟨address, rfl, holds⟩
    rw [decodeReturn_string, holds.cStringAt_eq clean]
    show Except.ok (Value.string (Text.Utf8.decodeLossy (Text.Utf8.encode text)), heap) = _
    rw [Text.Utf8.decodeLossy_encode]
  | void | pointer address | integer type n | char c | f32 x | f64 x | enumeration name type n =>
    simp only [decodeReturn]
    rw [read carried]
    rfl

end Value.HasType

/-! ### Argument lists -/

section Arguments

variable {values : List (Value κ)} {types : List (HostType κ)} {raws : List RawValue}
  {memory : Memory}

theorem abi_of_carried (typed : List.Forall₂ Value.HasType values types)
    (carried : List.Forall₂ memory.Carries raws values) :
    raws.map RawValue.abi = types.map HostType.abi := by
  induction typed generalizing raws with
  | nil =>
    cases carried
    rfl
  | cons first _ ih =>
    cases carried with
    | cons head tail => rw [List.map_cons, List.map_cons, first.abi_eq head, ih tail]

variable [HostProgram κ]

/-- Encoding arguments fails if there is a text with a NUL among them. -/
theorem encodeAll_nul (typed : List.Forall₂ Value.HasType values types)
    (nul : ∃ value ∈ values, value.HasNul) (heap : Heap κ) :
    encodeAll heap types values memory = .returned (.error MarshalError.interiorNul) := by
  induction typed generalizing memory with
  | nil =>
    rcases nul with ⟨value, found, -⟩
    cases found
  | @cons value type values types first _ ih =>
    rw [encodeAll]
    by_cases here : value.HasNul
    · rw [first.encodeOne_nul here heap memory]
      rfl
    · obtain ⟨raw, encoded, -⟩ := first.encodeOne_ok here heap memory
      have later : ∃ value ∈ values, value.HasNul := by
        rcases nul with ⟨other, found, nul⟩
        rcases List.mem_cons.mp found with rfl | found
        · exact absurd nul here
        · exact ⟨other, found, nul⟩
      have rest : encodeAll heap types values (memory.keep value) =
          .returned (.error MarshalError.interiorNul) := ih later
      rw [encoded]
      simp only [bind, Outcome.bind]
      rw [rest]

/-- Encoding other arguments leaves raw values that stand for them. -/
theorem encodeAll_ok (typed : List.Forall₂ Value.HasType values types)
    (clean : ∀ value ∈ values, ¬ value.HasNul) (fits : (memory.keepAll values).Fits)
    (heap : Heap κ) :
    ∃ raws, encodeAll heap types values memory =
        .returned (.ok (raws, [], memory.keepAll values)) ∧
      List.Forall₂ (memory.keepAll values).Carries raws values := by
  induction typed generalizing memory with
  | nil => exact ⟨[], rfl, .nil⟩
  | @cons value type values types first _ ih =>
    have grown := (memory.keep value).keepAll_extends values
    obtain ⟨raw, encoded, carried⟩ :=
      first.encodeOne_ok (clean value List.mem_cons_self) heap memory
    have remaining (other : Value κ) (found : other ∈ values) : ¬ other.HasNul :=
      clean other (List.mem_cons_of_mem _ found)
    obtain ⟨raws, rest, others⟩ := ih remaining fits
    refine ⟨raw :: raws, ?_, .cons ((carried (grown.fits fits)).extend grown) others⟩
    rw [encodeAll, encoded]
    simp only [bind, Outcome.bind]
    rw [rest]
    rfl

/-- Raw values that stand for arguments are passed on as these. -/
theorem acceptEach_ok (typed : List.Forall₂ Value.HasType values types)
    (clean : ∀ value ∈ values, ¬ value.HasNul)
    (carried : List.Forall₂ memory.Carries raws values) (registry : Option (Registry κ))
    (heap : Heap κ) :
    acceptEach registry memory (types.map .ofType) raws heap = .ok (values, [], heap) := by
  induction typed generalizing raws with
  | nil =>
    cases carried
    rfl
  | cons first _ ih =>
    cases carried with
    | cons head tail =>
      have accepted := first.accept_ok (clean _ List.mem_cons_self) head registry heap
      have rest := ih (fun other found => clean other (List.mem_cons_of_mem _ found)) tail
      simp only [List.map_cons, acceptEach, accepted, rest, bind, Except.bind, List.append_nil]

end Arguments

/-! ### Results -/

/-- A process in which a text that the closure at an address returns is kept. -/
def World.keepResult [HostProgram κ] (world : World κ) (address : UInt64) : Value κ → World κ
  | .string text =>
      let kept := world.allocateCString (Text.Utf8.encode text)
      kept.2.noteReturned address kept.1
  | _ => world

section Results

variable [HostProgram κ] {closure : Closure κ} {type : HostType κ} {value : Value κ}

theorem World.noteReturned_eq (world : World κ) (address place : UInt64) :
    ∃ code, world.noteReturned address place = { world with code := code } := by
  rw [noteReturned]
  split
  · exact ⟨_, rfl⟩
  · exact ⟨world.code, rfl⟩

/-- Keeping a result writes it to memory and notes it with the closure. -/
theorem World.keepResult_eq (world : World κ) (address : UInt64) (value : Value κ) :
    ∃ code, world.keepResult address value =
      { world with memory := world.memory.keep value, code := code } := by
  cases value with
  | string text => exact World.noteReturned_eq _ address _
  | _ => exact ⟨world.code, rfl⟩

theorem World.keepResult_memory (world : World κ) (address : UInt64) (value : Value κ) :
    (world.keepResult address value).memory = world.memory.keep value := by
  obtain ⟨code, kept⟩ := world.keepResult_eq address value
  rw [kept]

/-- A closure cannot return a text with a NUL. -/
theorem Closure.give_nul (slot : closure.plan.result = .ofType type) (typed : value.HasType type)
    (nul : value.HasNul) (address : UInt64) (world : World κ) :
    closure.give address value world = (.error MarshalError.interiorNul, world) := by
  cases typed with
  | string text =>
    simp only [give, slot, MarshalSlot.ofType]
    rw [cBytes_nul nul]
  | _ => cases nul

/-- A closure returns any other value as a raw value that stands for it. -/
theorem Closure.give_ok (slot : closure.plan.result = .ofType type) (typed : value.HasType type)
    (clean : ¬ value.HasNul) (address : UInt64) (world : World κ) :
    ∃ raw, closure.give address value world = (.ok raw, world.keepResult address value) ∧
      ((world.memory.keep value).Fits → (world.memory.keep value).Carries raw value) := by
  cases typed with
  | string text =>
    refine ⟨.pointer (world.memory.allocateCString (Text.Utf8.encode text)).1, ?_, ?_⟩
    · simp only [give, slot, MarshalSlot.ofType]
      rw [cBytes_ok clean]
      rfl
    · intro fits
      exact ⟨_, rfl, Memory.allocateCString_holds fits⟩
  | void =>
    refine ⟨.void, ?_, fun _ => rfl⟩
    simp only [give, slot, MarshalSlot.ofType]
    rfl
  | pointer address | integer type n | char c | f32 x | f64 x | enumeration name type n =>
    refine ⟨_, ?_, fun _ => rfl⟩
    simp only [give, slot, MarshalSlot.ofType]
    rw [Value.HasType.giveDirect_ok (by constructor) rfl]
    rfl

end Results

/-! ### Marshal types -/

/-- A value is the host value of something a marshal type carries, an enumeration's one of its own
discriminants. -/
inductive MarshalType.Admits : MarshalType κ → Value κ → Prop
  | unit : Admits .unit .void
  | pointer (address : UInt64) : Admits .pointer (.pointer address)
  | integer (type : IntegerType) (n : type.Word) : Admits (.integer type) (.integer type n)
  | char (c : Char) : Admits .char (.char c)
  | f32 (x : F32) : Admits .f32 (.f32 x)
  | f64 (x : F64) : Admits .f64 (.f64 x)
  | string (text : String) : Admits .string (.string text)
  | enumeration (spec : EnumSpec) {n : spec.repr.Word} (known : n ∈ spec.discriminants) :
      Admits (.enumeration spec) (.integer spec.repr n)

namespace MarshalType

variable [HostProgram κ]

theorem wordOf_integer (type : IntegerType) (n : type.Word) :
    wordOf type (.integer type n : Value κ) = .ok n :=
  dif_pos rfl

/-- A known discriminant is that of a variant. -/
theorem variantOf_known {spec : EnumSpec} {n : spec.repr.Word} (known : n ∈ spec.discriminants) :
    ∃ variant, variantOf spec n = .ok variant ∧ spec.discriminants[variant] = n := by
  rw [variantOf]
  cases found : spec.discriminants.findFinIdx? (· == n) with
  | none =>
    have missing := List.findFinIdx?_eq_none_iff.mp found n known
    simp at missing
  | some variant =>
    obtain ⟨same, -⟩ := List.findFinIdx?_eq_some_iff.mp found
    exact ⟨variant, rfl, eq_of_beq same⟩

/-- An admitted value is read, and what is read has this host value. -/
theorem Admits.carried {type : MarshalType κ} {value : Value κ} (admits : type.Admits value) :
    ∃ carried : Carrier type, ∀ heap, type.fromValue value heap = .ok carried ∧
      type.intoValue carried heap = (value, heap) := by
  cases admits with
  | integer type n =>
    refine ⟨n, fun heap => ⟨?_, rfl⟩⟩
    rw [fromValue]
    exact wordOf_integer type n
  | enumeration spec known =>
    rcases variantOf_known known with ⟨variant, found, same⟩
    refine ⟨variant, fun heap => ⟨?_, ?_⟩⟩
    · rw [fromValue, wordOf_integer]
      exact found
    · rw [intoValue, same]
  | _ => exact ⟨_, fun heap => ⟨rfl, rfl⟩⟩

end MarshalType

/-- Admitted arguments are read as a tuple that has them as its host values. -/
theorem Tuple.fromValues_admitted [HostProgram κ] {types : List (MarshalType κ)}
    {args : List (Value κ)} (admitted : List.Forall₂ MarshalType.Admits types args) :
    ∃ tuple : Tuple types, ∀ heap, Tuple.fromValues types args heap = .ok tuple ∧
      Tuple.intoValues types tuple heap = (args, heap) := by
  have read : ∃ tuple : Tuple types, ∀ heap, Tuple.readValues types args heap = .ok tuple ∧
      Tuple.intoValues types tuple heap = (args, heap) := by
    induction admitted with
    | nil => exact ⟨(), fun heap => ⟨rfl, rfl⟩⟩
    | cons first _ ih =>
      rcases first.carried with ⟨carried, one⟩
      rcases ih with ⟨tuple, others⟩
      refine ⟨(carried, tuple), fun heap => ⟨?_, ?_⟩⟩
      · rw [Tuple.readValues, List.headD_cons, (one heap).1, List.tail_cons]
        simp only [bind, Except.bind]
        rw [(others heap).1]
      · simp only [Tuple.intoValues, (one heap).2, (others heap).2]
  rcases read with ⟨tuple, read⟩
  refine ⟨tuple, fun heap => ⟨?_, (read heap).2⟩⟩
  rw [Tuple.fromValues, if_pos admitted.length_eq.symm]
  exact (read heap).1

/-- A host function runs on the tuple that its arguments are read as. -/
theorem HostFunction.run_body [HostProgram κ] (function : HostFunction κ) {args : List (Value κ)}
    (admitted : List.Forall₂ MarshalType.Admits function.parameters args) :
    ∃ tuple : Tuple function.parameters,
      (∀ heap, Tuple.intoValues function.parameters tuple heap = (args, heap)) ∧
      ∀ (enter : Entry κ) frame world, (function.body args).run enter frame world =
        (Host.returning function.result (function.run tuple)).run enter frame world := by
  rcases Tuple.fromValues_admitted admitted with ⟨tuple, read⟩
  refine ⟨tuple, fun heap => (read heap).2, ?_⟩
  intro enter frame world
  rw [HostFunction.body, Host.receiving, Code.run, (read world.heap).1]

end NativeBridge
