/-
Module: NativeBridge.Proofs.Discriminants
Purpose: Which variant of an enumeration an integer is read as, and what is reported of an integer
  that is none.
Main exports: EnumSpec.Answers, IntegerType.toInt64_eq, discriminant_answered
-/
import Mathlib.Algebra.Group.Int.Defs
import Mathlib.Data.List.Nodup
import NativeBridge.Proofs.PlainValues
import NativeBridge.Workbench.Classes

namespace NativeBridge

/-!
An enumeration is read from an integer of its underlying type.  The error for an unknown integer
carries it as a signed number of 64 bits, whatever the underlying type is.  That is wide enough for
all types but one: the upper half of the unsigned numbers of 64 bits is reported with 2 ^ 64 taken
off.
-/

/-! ### Words as signed numbers -/

namespace IntegerType

/-- A word is no smaller than the smallest signed number of 64 bits, and only an unsigned one of 64
bits can be larger than the largest. -/
theorem toInt_bounds (type : IntegerType) (n : type.Word) :
    -2 ^ 63 ≤ type.toInt n ∧ type.toInt n < 2 ^ 64 ∧ (2 ^ 63 ≤ type.toInt n → type = .u64) := by
  cases type with
  | i8 =>
    have lower := Int8.le_toInt n
    have upper := Int8.toInt_lt n
    simp only [toInt]
    omega
  | i16 =>
    have lower := Int16.le_toInt n
    have upper := Int16.toInt_lt n
    simp only [toInt]
    omega
  | i32 =>
    have lower := Int32.le_toInt n
    have upper := Int32.toInt_lt n
    simp only [toInt]
    omega
  | i64 =>
    have lower := Int64.le_toInt n
    have upper := Int64.toInt_lt n
    simp only [toInt]
    omega
  | u8 =>
    have upper := UInt8.toNat_lt n
    simp only [toInt]
    omega
  | u16 =>
    have upper := UInt16.toNat_lt n
    simp only [toInt]
    omega
  | u32 =>
    have upper := UInt32.toNat_lt n
    simp only [toInt]
    omega
  | u64 =>
    have upper := UInt64.toNat_lt n
    simp only [toInt]
    refine ⟨by omega, by omega, fun _ => trivial⟩

/-- Widening keeps a word that is a signed number of 64 bits, and takes 2 ^ 64 off any other. -/
theorem toInt64_eq (type : IntegerType) (n : type.Word) :
    (type.toInt64 n).toInt =
      if type.toInt n < 2 ^ 63 then type.toInt n else type.toInt n - 2 ^ 64 := by
  obtain ⟨lower, upper, -⟩ := type.toInt_bounds n
  rw [toInt64, Int64.toInt_ofInt, Int.bmod_def]
  simp only [Int64.size]
  split <;> split <;> omega

end IntegerType

/-! ### Variants -/

/-- What reading an integer as an enumeration is to answer: the variant with this discriminant, or
the name of the enumeration and the integer itself. -/
inductive EnumSpec.Answers (spec : EnumSpec) (n : spec.repr.Word) :
    Except MarshalError (Fin spec.discriminants.length) → Prop where
  | variant {variant : Fin spec.discriminants.length} (same : spec.discriminants.get variant = n) :
      Answers spec n (.ok variant)
  | unknown {value : Int64} (unlisted : n ∉ spec.discriminants)
      (same : value.toInt = spec.repr.toInt n) :
      Answers spec n (.error (.invalidEnum spec.name value))

namespace MarshalType

theorem variantOf_unknown {spec : EnumSpec} {n : spec.repr.Word} (unknown : n ∉ spec.discriminants) :
    variantOf spec n = .error (.invalidEnum spec.name (spec.repr.toInt64 n)) := by
  have missing : spec.discriminants.findFinIdx? (· == n) = none := by
    rw [List.findFinIdx?_eq_none_iff]
    intro other among
    have differs : other ≠ n := fun same => unknown (same ▸ among)
    simpa using differs
  rw [variantOf, missing]

/-- Where no two variants share a discriminant, a variant is found by its own. -/
theorem variantOf_eq_ok_iff {spec : EnumSpec} (distinct : spec.discriminants.Nodup)
    {n : spec.repr.Word} {variant : Fin spec.discriminants.length} :
    variantOf spec n = .ok variant ↔ spec.discriminants.get variant = n := by
  constructor
  · intro read
    by_cases known : n ∈ spec.discriminants
    · obtain ⟨found, again, same⟩ := variantOf_known known
      cases read.symm.trans again
      exact same
    · cases read.symm.trans (variantOf_unknown known)
  · intro same
    have known : n ∈ spec.discriminants := same ▸ List.getElem_mem variant.isLt
    obtain ⟨found, read, again⟩ := variantOf_known known
    have one : found = variant := Fin.ext ((distinct.getElem_inj_iff).mp (again.trans same.symm))
    rw [read, one]

end MarshalType

section Reading

variable {κ : Type} [HostProgram κ]

theorem MarshalType.fromValue_enumeration (spec : EnumSpec) (n : spec.repr.Word) (heap : Heap κ) :
    fromValue (.enumeration spec) (.integer spec.repr n) heap = variantOf spec n := by
  rw [fromValue, wordOf_integer]
  rfl

/-- An integer is read as the one variant that has it for its discriminant.  An integer that is none
is refused, and it is reported itself just if it is below 2 ^ 63; from there on, where the underlying
type must be the unsigned one of 64 bits, the number that is reported has 2 ^ 64 taken off. -/
theorem discriminant_answered {spec : EnumSpec} (distinct : spec.discriminants.Nodup)
    (n : spec.repr.Word) (heap : Heap κ) :
    (spec.Answers n (MarshalType.fromValue (.enumeration spec) (.integer spec.repr n) heap) ↔
      n ∈ spec.discriminants ∨ spec.repr.toInt n < 2 ^ 63) ∧
    (∀ variant, MarshalType.fromValue (.enumeration spec) (.integer spec.repr n) heap =
      .ok variant ↔ spec.discriminants.get variant = n) ∧
    (n ∉ spec.discriminants → 2 ^ 63 ≤ spec.repr.toInt n → spec.repr = .u64 ∧
      ∃ value : Int64, value.toInt = spec.repr.toInt n - 2 ^ 64 ∧
        MarshalType.fromValue (.enumeration spec) (.integer spec.repr n) heap =
          .error (.invalidEnum spec.name value)) := by
  rw [MarshalType.fromValue_enumeration]
  refine ⟨?_, fun _ => MarshalType.variantOf_eq_ok_iff distinct, ?_⟩
  · by_cases known : n ∈ spec.discriminants
    · obtain ⟨variant, read, same⟩ := MarshalType.variantOf_known known
      rw [read]
      exact iff_of_true (.variant same) (.inl known)
    · have reported := spec.repr.toInt64_eq n
      rw [MarshalType.variantOf_unknown known]
      constructor
      · intro answered
        cases answered with
        | unknown _ same =>
          right
          by_contra large
          rw [if_neg large] at reported
          omega
      · rintro (among | small)
        · exact absurd among known
        · rw [if_pos small] at reported
          exact .unknown known reported
  · intro unknown large
    refine ⟨(spec.repr.toInt_bounds n).2.2 large, _, ?_, MarshalType.variantOf_unknown unknown⟩
    rw [spec.repr.toInt64_eq, if_neg (Int.not_lt.mpr large)]

end Reading

namespace Workbench

/-- Though it is past the signed numbers, the largest unsigned number is found where it is a
discriminant. -/
theorem huge_answered :
    huge.discriminants.Nodup ∧
    huge.Answers (18446744073709551615 : UInt64) (MarshalType.fromValue (.enumeration huge)
      (.integer .u64 18446744073709551615) (Heap.empty : Heap Key)) := by
  have distinct : huge.discriminants.Nodup := by decide
  have known : (18446744073709551615 : UInt64) ∈ huge.discriminants :=
    List.mem_cons_of_mem _ List.mem_cons_self
  exact ⟨distinct, (discriminant_answered distinct _ _).1.mpr (.inl known)⟩

/-- The smallest number that is no signed one is no discriminant, and is reported as negative. -/
theorem huge_misreported :
    MarshalType.fromValue (.enumeration huge) (.integer .u64 9223372036854775808)
      (Heap.empty : Heap Key) = .error (.invalidEnum "Huge" (-9223372036854775808)) ∧
    ¬ huge.Answers (9223372036854775808 : UInt64) (MarshalType.fromValue (.enumeration huge)
      (.integer .u64 9223372036854775808) (Heap.empty : Heap Key)) := by
  have read : MarshalType.fromValue (.enumeration huge) (.integer .u64 9223372036854775808)
      (Heap.empty : Heap Key) = .error (.invalidEnum "Huge" (-9223372036854775808)) := rfl
  refine ⟨read, ?_⟩
  intro answered
  rw [read] at answered
  cases answered with
  | unknown _ same => exact absurd same (by decide)

end Workbench

end NativeBridge
