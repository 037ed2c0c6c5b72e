/-
Module: NativeBridge.Proofs.RawValues
Purpose: Which raw values are read as values of a host type, and that reading a raw value and taking
  the raw form of a value undo each other.
Main exports: HostType.ReadsRaw, RawValue.IsScalar, Value.ownType, Value.fromRaw_eq_ok_iff,
  raw_values_exchanged
-/
import NativeBridge.Proofs.PlainValues
import NativeBridge.Workbench.Classes

namespace NativeBridge

/-!
A raw value carries its calling-convention type but not the host type it is meant at: an unsigned
number of 32 bits may be a character, and any integer may be one of an enumeration.  It is read at a
type that is given with it.  What is read is the one value of this type that has the raw value for
its raw form.
-/

variable {κ : Type}

/-! ### Types and raw values -/

/-- The types whose values are told by a raw value: addresses, numbers, characters, and the
enumerations over an integer type. -/
inductive HostType.ReadsRaw : HostType κ → Prop
  | pointer : ReadsRaw .pointer
  | integer (type : IntegerType) : ReadsRaw (.integer type)
  | char : ReadsRaw .char
  | f32 : ReadsRaw .f32
  | f64 : ReadsRaw .f64
  | enumeration (name : String) (type : IntegerType) : ReadsRaw (.enumeration name (.integer type))

/-- A raw value is the code point of a character, and no surrogate. -/
def RawValue.IsScalar (raw : RawValue) : Prop :=
  ∃ code : UInt32, raw = .integer .u32 code ∧
    (code.toNat < 0xD800 ∨ 0xDFFF < code.toNat ∧ code.toNat < 0x110000)

/-- The type a value is of by itself; an integer does not tell an enumeration it may be one of. -/
def Value.ownType : Value κ → HostType κ
  | void => .void
  | pointer _ => .pointer
  | integer type _ => .integer type
  | char _ => .char
  | f32 _ => .f32
  | f64 _ => .f64
  | string _ => .string
  | stringBuffer _ => .stringBuffer
  | object target => .object target.type

/-- The raw values that are code points are the raw forms of characters. -/
theorem RawValue.isScalar_iff {raw : RawValue} :
    raw.IsScalar ↔ ∃ c : Char, raw = .integer .u32 c.val := by
  constructor
  · rintro ⟨code, rfl, valid⟩
    exact ⟨⟨code, valid⟩, rfl⟩
  · rintro ⟨c, rfl⟩
    exact ⟨c.val, rfl, c.valid⟩

theorem RawValue.abi_eq_integer_iff {raw : RawValue} {type : IntegerType} :
    raw.abi = .integer type ↔ ∃ n, raw = .integer type n := by
  constructor
  · intro abi
    cases raw with
    | integer found n =>
      cases abi
      exact ⟨n, rfl⟩
    | _ => cases abi
  · rintro ⟨n, rfl⟩
    rfl

namespace Value

theorem charOfCode_eq_ok_iff {code : UInt32} {c : Char} :
    charOfCode code = .ok c ↔ c.val = code := by
  unfold charOfCode
  split
  · next valid =>
    rw [Except.ok.injEq]
    exact ⟨fun same => same ▸ rfl, fun same => Char.ext same.symm⟩
  · next invalid =>
    refine iff_of_false (fun same => nomatch same) ?_
    rintro rfl
    exact invalid c.valid

/-- A value that has a raw form is of its own type. -/
theorem hasType_ownType {value : Value κ} {raw : RawValue} (direct : value.toRaw? = some raw) :
    value.HasType value.ownType := by
  cases value with
  | void => exact .void
  | pointer address => exact .pointer address
  | integer type n => exact .integer type n
  | char c => exact .char c
  | f32 x => exact .f32 x
  | f64 x => exact .f64 x
  | string | stringBuffer | object => cases direct

/-- A type has a value with this raw form if raw values are read at the type, and this one has its
calling-convention type and is a code point where the type has characters. -/
theorem exists_hasType_iff {type : HostType κ} {raw : RawValue} (nonvoid : type ≠ .void) :
    (∃ value : Value κ, value.HasType type ∧ value.toRaw? = some raw) ↔
      type.ReadsRaw ∧ raw.abi = type.abi ∧ (type = .char → raw.IsScalar) := by
  constructor
  · rintro ⟨value, typed, direct⟩
    refine ⟨?_, typed.abi_toRaw direct, ?_⟩
    · cases typed with
      | void => exact absurd rfl nonvoid
      | string => cases direct
      | pointer => exact .pointer
      | integer type n => exact .integer type
      | char => exact .char
      | f32 => exact .f32
      | f64 => exact .f64
      | enumeration name type n => exact .enumeration name type
    · rintro rfl
      cases typed with
      | char c =>
        cases direct
        exact RawValue.isScalar_iff.mpr ⟨c, rfl⟩
  · rintro ⟨reads, abi, scalar⟩
    cases reads with
    | char =>
      obtain ⟨c, rfl⟩ := RawValue.isScalar_iff.mp (scalar rfl)
      exact ⟨.char c, .char c, rfl⟩
    | pointer =>
      cases raw with
      | pointer address => exact ⟨.pointer address, .pointer address, rfl⟩
      | _ => cases abi
    | f32 =>
      cases raw with
      | f32 x => exact ⟨.f32 x, .f32 x, rfl⟩
      | _ => cases abi
    | f64 =>
      cases raw with
      | f64 x => exact ⟨.f64 x, .f64 x, rfl⟩
      | _ => cases abi
    | integer type =>
      obtain ⟨n, rfl⟩ := RawValue.abi_eq_integer_iff.mp abi
      exact ⟨.integer type n, .integer type n, rfl⟩
    | enumeration name type =>
      obtain ⟨n, rfl⟩ := RawValue.abi_eq_integer_iff.mp abi
      exact ⟨.integer type n, .enumeration name type n, rfl⟩

/-! ### Reading -/

variable [HostProgram κ]

/-- What is read at a type is the value of this type with this raw form. -/
theorem fromRaw_eq_ok_iff {type : HostType κ} {raw : RawValue} {value : Value κ}
    (nonvoid : type ≠ .void) :
    fromRaw raw type = .ok value ↔ value.HasType type ∧ value.toRaw? = some raw := by
  refine ⟨fun read => ?_, fun ⟨typed, direct⟩ => typed.fromRaw_ok direct⟩
  unfold fromRaw at read
  split at read
  · exact absurd rfl nonvoid
  · next address =>
    cases read
    exact ⟨.pointer address, rfl⟩
  · next type found n =>
    split at read
    · next same =>
      cases same
      cases read
      exact ⟨.integer type n, rfl⟩
    · cases read
  · next code =>
    cases decoded : charOfCode code with
    | error => cases decoded ▸ read
    | ok c =>
      obtain rfl := charOfCode_eq_ok_iff.mp decoded
      cases decoded ▸ read
      exact ⟨.char c, rfl⟩
  · next x =>
    cases read
    exact ⟨.f32 x, rfl⟩
  · next x =>
    cases read
    exact ⟨.f64 x, rfl⟩
  · next name repr found n =>
    split at read
    · next same =>
      cases same
      cases read
      exact ⟨.enumeration name found n, rfl⟩
    · cases read
  · cases read

end Value

/-- A raw value is read at a type other than the empty one if raw values are read at it, this one
has its calling-convention type, and it is a code point where the type has characters.  What is read
is of the type and has this raw form; and a value that has a raw form is what is read of it at the
value's own type. -/
theorem raw_values_exchanged [HostProgram κ] :
    (∀ (type : HostType κ) (raw : RawValue), type ≠ .void →
      ((∃ value, Value.fromRaw raw type = .ok value) ↔
        type.ReadsRaw ∧ raw.abi = type.abi ∧ (type = .char → raw.IsScalar))) ∧
    (∀ (type : HostType κ) (raw : RawValue) (value : Value κ), type ≠ .void →
      Value.fromRaw raw type = .ok value → value.HasType type ∧ value.toRaw? = some raw) ∧
    (∀ (value : Value κ) (raw : RawValue), value.toRaw? = some raw →
      Value.fromRaw raw value.ownType = .ok value) := by
  refine ⟨?_, ?_, ?_⟩
  · intro type raw nonvoid
    simp only [Value.fromRaw_eq_ok_iff nonvoid]
    exact Value.exists_hasType_iff nonvoid
  · intro type raw value nonvoid read
    exact (Value.fromRaw_eq_ok_iff nonvoid).mp read
  · intro value raw direct
    exact (Value.hasType_ownType direct).fromRaw_ok direct

namespace Workbench

/-- The type of the levels of a widget. -/
def levelType : HostType Key := (MarshalType.enumeration level).hostType

/-- A level is read off an unsigned byte and off no wider number, a surrogate is no character, and
the largest code point is one. -/
theorem levels_exchanged :
    (∃ value, Value.fromRaw (.integer .u8 9) levelType = .ok value) ∧
    ¬(∃ value, Value.fromRaw (.integer .i32 9) levelType = .ok value) ∧
    ¬(∃ value : Value Key, Value.fromRaw (.integer .u32 0xD800) .char = .ok value) ∧
    (∃ value : Value Key, Value.fromRaw (.integer .u32 0x10FFFF) .char = .ok value) ∧
    (Value.integer .u8 9 : Value Key).HasType levelType ∧
    (Value.integer .u8 9 : Value Key).toRaw? = some (.integer .u8 9) ∧
    Value.fromRaw (.integer .u8 9) (.integer .u8) = .ok (.integer .u8 9 : Value Key) := by
  obtain ⟨reads, written, returned⟩ := raw_values_exchanged (κ := Key)
  have level : Value.fromRaw (.integer .u8 9) levelType = .ok (.integer .u8 9 : Value Key) := rfl
  obtain ⟨typed, direct⟩ := written levelType _ _ (by decide) level
  refine ⟨⟨_, level⟩, ?_, ?_, ?_, typed, direct, returned (.integer .u8 9) _ direct⟩
  · rw [reads _ _ (by decide)]
    rintro ⟨-, abi, -⟩
    exact absurd abi (by decide)
  · rw [reads _ _ (by decide)]
    rintro ⟨-, -, scalar⟩
    obtain ⟨code, same, valid⟩ := scalar rfl
    cases same
    exact absurd valid (by decide)
  · rw [reads _ _ (by decide)]
    exact ⟨.char, rfl, fun _ => ⟨_, rfl, by decide⟩⟩

end Workbench

end NativeBridge
