/-
Module: NativeBridge.Proofs.NativeTexts
Purpose: C strings stay readable in native memory while more memory is handed out.
Main exports: Memory.Extends, Memory.Fits, Memory.HoldsCString, Memory.cString_eq,
  Memory.allocateCString_holds
-/
import NativeBridge.Memory

namespace NativeBridge

namespace Memory

/-- More memory was handed out, and what was handed out before is as it was. -/
structure Extends (before after : Memory) : Prop where
  size : before.size ≤ after.size
  kept : ∀ address, address < base + before.size → after.read address = before.read address

namespace Extends

theorem refl (memory : Memory) : memory.Extends memory := ⟨Nat.le_refl _, fun _ _ => rfl⟩

theorem trans {first middle last : Memory} (one : first.Extends middle)
    (two : middle.Extends last) : first.Extends last := by
  refine ⟨Nat.le_trans one.size two.size, ?_⟩
  intro address inside
  have earlier := one.kept address inside
  have later := two.kept address (Nat.lt_of_lt_of_le inside (Nat.add_le_add_left one.size base))
  exact later.trans earlier

end Extends

/-- Everything that is handed out has an address. -/
def Fits (memory : Memory) : Prop :=
  base + memory.size ≤ UInt64.size

instance (memory : Memory) : Decidable memory.Fits :=
  inferInstanceAs (Decidable (_ ≤ _))

theorem Extends.fits {before after : Memory} (grown : before.Extends after) (fits : after.Fits) :
    before.Fits :=
  Nat.le_trans (Nat.add_le_add_left grown.size base) fits

/-- A terminated sequence of bytes lies at an address of memory that is handed out. -/
structure HoldsCString (memory : Memory) (address : UInt64) (bytes : List UInt8) : Prop where
  lower : base ≤ address.toNat
  upper : address.toNat + bytes.length < base + memory.size
  written : ∀ index byte, (bytes ++ [0])[index]? = some byte →
    memory.read (address.toNat + index) = byte

namespace HoldsCString

variable {memory later : Memory} {address : UInt64} {bytes : List UInt8}

theorem nonnull (holds : memory.HoldsCString address bytes) : address ≠ 0 := by
  rintro rfl
  have lower := holds.lower
  rw [UInt64.toNat_zero, base] at lower
  omega

/-- A C string stays where it is while more memory is handed out. -/
theorem extend (holds : memory.HoldsCString address bytes) (grown : memory.Extends later) :
    later.HoldsCString address bytes := by
  refine ⟨holds.lower, Nat.lt_of_lt_of_le holds.upper (Nat.add_le_add_left grown.size base), ?_⟩
  intro index byte found
  have inside : index < (bytes ++ [0]).length := (List.getElem?_eq_some_iff.mp found).1
  rw [List.length_append, List.length_singleton] at inside
  have upper := holds.upper
  rw [grown.kept _ (by omega)]
  exact holds.written index byte found

end HoldsCString

/-- The bytes before a zero are found if there is room to look at them and the zero. -/
theorem bytesBeforeZero_eq {memory : Memory} {bytes : List UInt8} (nonzero : 0 ∉ bytes)
    {address room : Nat} (reaches : bytes.length < room)
    (written : ∀ index byte, (bytes ++ [0])[index]? = some byte →
      memory.read (address + index) = byte) :
    memory.bytesBeforeZero address room = bytes := by
  induction bytes generalizing address room with
  | nil =>
    obtain ⟨room, rfl⟩ := Nat.exists_eq_add_of_lt reaches
    have zero := written 0 0 rfl
    simp_all [bytesBeforeZero]
  | cons first rest ih =>
    cases room with
    | zero => cases reaches
    | succ room =>
      have head : memory.read address = first := written 0 first rfl
      have other : first ≠ 0 := by
        rintro rfl
        exact nonzero List.mem_cons_self
      have tail : memory.bytesBeforeZero (address + 1) room = rest := by
        apply ih
        · intro found
          exact nonzero (List.mem_cons_of_mem _ found)
        · exact Nat.lt_of_succ_lt_succ reaches
        · intro index byte found
          rw [Nat.add_assoc, Nat.add_comm 1 index]
          exact written (index + 1) byte found
      rw [bytesBeforeZero, head, if_neg other, tail]

/-- A C string is read back, unless it has a zero in it. -/
theorem HoldsCString.cString_eq {memory : Memory} {address : UInt64} {bytes : List UInt8}
    (holds : memory.HoldsCString address bytes) (nonzero : 0 ∉ bytes) :
    memory.cString address = bytes := by
  have lower := holds.lower
  have upper := holds.upper
  exact bytesBeforeZero_eq nonzero (by omega) holds.written

/-! ### New memory -/

theorem allocateCString_extends (memory : Memory) (bytes : List UInt8) :
    memory.Extends (memory.allocateCString bytes).2 := by
  refine ⟨Nat.le_add_right _ _, ?_⟩
  intro address inside
  have apart : ¬ (base + memory.size ≤ address ∧
      address < base + memory.size + (bytes ++ [0]).length) := by omega
  have same := read_writeAll memory (base + memory.size) (bytes ++ [0]) address
  rw [if_neg apart] at same
  exact same

/-- New memory lies behind all that was handed out. -/
theorem allocateCString_toNat {memory : Memory} {bytes : List UInt8}
    (fits : (memory.allocateCString bytes).2.Fits) :
    (memory.allocateCString bytes).1.toNat = base + memory.size := by
  have long : (bytes ++ [0]).length = bytes.length + 1 := List.length_append
  have room : base + (memory.size + (bytes ++ [0]).length) ≤ UInt64.size := fits
  apply UInt64.toNat_ofNat_of_lt'
  omega

/-- New memory with a C string holds it. -/
theorem allocateCString_holds {memory : Memory} {bytes : List UInt8}
    (fits : (memory.allocateCString bytes).2.Fits) :
    (memory.allocateCString bytes).2.HoldsCString (memory.allocateCString bytes).1 bytes := by
  have long : (bytes ++ [0]).length = bytes.length + 1 := List.length_append
  have place := allocateCString_toNat fits
  have size : (memory.allocateCString bytes).2.size = memory.size + (bytes ++ [0]).length := rfl
  refine ⟨?_, ?_, ?_⟩
  · omega
  · omega
  · intro index byte found
    have inside : index < (bytes ++ [0]).length := (List.getElem?_eq_some_iff.mp found).1
    have covered : base + memory.size ≤ base + memory.size + index ∧
        base + memory.size + index < base + memory.size + (bytes ++ [0]).length := by omega
    have read := read_writeAll memory (base + memory.size) (bytes ++ [0])
      (base + memory.size + index)
    rw [if_pos covered, Nat.add_sub_cancel_left, List.getD_eq_getElem?_getD, found] at read
    rw [place]
    exact read

end Memory

end NativeBridge
