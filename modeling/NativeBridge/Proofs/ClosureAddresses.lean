/-
Module: NativeBridge.Proofs.ClosureAddresses
Purpose: A closure that is put at an address is found there, then and later.
Main exports: World.internType_ok, World.addClosure_ok, World.AddressRoom,
  World.codeAt?_codeAddress, keepsClosures_law
-/
import NativeBridge.Proofs.JournalLaw
import NativeBridge.Wrap

namespace NativeBridge

variable {κ : Type} [HostProgram κ]

namespace World

/-- A callable type has its signature, and making it changes nothing but the table of types. -/
theorem internType_ok {world after : World κ} {signature : Signature κ} {type : CallableType κ}
    (interned : world.internType signature = .ok (type, after)) :
    type.signature = signature ∧ ∃ types, after = { world with types := types } := by
  simp only [internType, TypeCache.intern] at interned
  cases fault : signature.fault with
  | some reason =>
    rw [fault] at interned
    cases interned
  | none =>
    rw [fault] at interned
    cases known : world.types.find? signature with
    | none =>
      rw [known] at interned
      cases interned
      exact ⟨rfl, _, rfl⟩
    | some found =>
      rw [known] at interned
      cases interned
      rw [TypeCache.find?, Option.map_eq_some_iff] at known
      rcases known with ⟨index, -, rfl⟩
      exact ⟨rfl, _, rfl⟩

/-- A closure stands at the next code address, and nothing else has changed. -/
theorem addClosure_ok {world after : World κ} {type : CallableType κ} {label : String}
    {plan : MarshalPlan κ} {registry : Option Nat} {handler : Handler κ} {address : UInt64}
    (added : world.addClosure type label plan registry handler = .ok (address, after)) :
    address = codeAddress world.code.size ∧
      after = { world with
        code := world.code.push (.closure ⟨type, label, plan, registry, handler, []⟩) } := by
  simp only [addClosure] at added
  split at added
  · cases added
    exact ⟨rfl, rfl⟩
  · split at added
    · cases added
    · cases added
      exact ⟨rfl, rfl⟩

/-! ### Addresses -/

/-- There is an address for a piece of code. -/
def AddressRoom (index : Nat) : Prop :=
  codeBase + codeStride * index < UInt64.size

instance (index : Nat) : Decidable (AddressRoom index) :=
  inferInstanceAs (Decidable (_ < _))

theorem toNat_codeAddress {index : Nat} (room : AddressRoom index) :
    (codeAddress index).toNat = codeBase + codeStride * index := by
  exact UInt64.toNat_ofNat_of_lt' room

theorem codeAddress_ne_zero {index : Nat} (room : AddressRoom index) : codeAddress index ≠ 0 := by
  intro zero
  have number := toNat_codeAddress room
  rw [zero, UInt64.toNat_zero, codeBase] at number
  omega

/-- An address belongs to the piece of code it was made for. -/
theorem codeIndex?_codeAddress {index : Nat} (room : AddressRoom index) :
    codeIndex? (codeAddress index) = some index := by
  have number := toNat_codeAddress room
  have offset : (codeAddress index).toNat - codeBase = codeStride * index := by
    rw [number]
    exact Nat.add_sub_cancel_left ..
  have inside : codeBase ≤ (codeAddress index).toNat := by
    rw [number]
    exact Nat.le_add_right ..
  have whole : codeStride * index % codeStride = 0 := Nat.mul_mod_right ..
  rw [codeIndex?, offset, if_pos ⟨inside, whole⟩, Nat.mul_div_cancel_left _ (by decide)]

/-- Code is found at its address. -/
theorem codeAt?_codeAddress {world : World κ} {native : NativeCode κ} {index : Nat}
    (there : world.code[index]? = some native) (room : AddressRoom index) :
    world.codeAt? (codeAddress index) = some native := by
  rw [codeAt?, codeIndex?_codeAddress room]
  exact there

end World

/-! ### Closures that stay -/

/-- Whatever runs, closures stand where they stood. -/
theorem keepsClosures_law :
    JournalLaw (fun (before : World κ) _ (after : World κ) => before.KeepsClosures after) where
  quiet quiet := quiet.closures
  append one two := one.trans two
  collected inside := inside
  issued _ _ _ := .of_same rfl
  released world registry handle _ := by
    unfold World.releaseHandle
    cases (world.registry registry).release handle <;> exact .of_same rfl
  lookedUp _ _ _ := .of_same rfl
  exceeded _ := .of_same rfl
  entered _ := .of_same rfl
  closing call := by
    have dispatched : call.left.KeepsClosures call.dispatched.2 := by
      have effect := call.dispatched_effect
      cases handle : call.handle? with
      | none =>
        rw [handle] at effect
        exact effect.closures
      | some handed =>
        rw [handle] at effect
        exact .trans (.of_same rfl) effect.2.2.closures
    rw [ClosureCall.after]
    cases call.fault? with
    | none => exact dispatched
    | some fault => exact dispatched.trans (.of_same rfl)

end NativeBridge
