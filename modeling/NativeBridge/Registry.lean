/-
Module: NativeBridge.Registry
Purpose: The table of handles through which native code holds host objects.
Main exports: Registry, Registry.allocate, Registry.resolve, Registry.release, Registry.isLive,
  Registry.live, Registry.owners
-/
import NativeBridge.Value
import NativeBridge.Text.Numeral

namespace NativeBridge

variable {κ : Type}

/-!
A handle is a number that stands for an object until it is released.  Numbers are given out in
rising order from one, so that a released number is not given out again; zero stands for nothing.
An object may have any number of handles, and each counts as one owner of its instance.
-/

/-- The live handles with their objects, newest first, and the next number to give out. -/
structure Registry (κ : Type) where
  slots : List (UInt64 × HostObject κ)
  next : UInt64
deriving Repr, DecidableEq

/-- A registry that has given out nothing. -/
def Registry.empty : Registry κ := ⟨[], 1⟩

instance : Inhabited (Registry κ) := ⟨Registry.empty⟩

/-- A handle in messages and in the inspection of handles. -/
def handleText (handle : UInt64) : String :=
  Text.hexMarked handle.toNat

namespace Registry

/-- Whether a handle is live. -/
def isLive (registry : Registry κ) (handle : UInt64) : Bool :=
  registry.slots.any fun slot => slot.1 == handle

/-- The number after one, with zero passed over. -/
def following (handle : UInt64) : UInt64 :=
  if handle + 1 = 0 then 1 else handle + 1

/-- The slots without those of one handle. -/
def without (registry : Registry κ) (handle : UInt64) : List (UInt64 × HostObject κ) :=
  registry.slots.filter fun slot => slot.1 != handle

/-- Give out a handle for an object. -/
def allocate (registry : Registry κ) (object : HostObject κ) : UInt64 × Registry κ :=
  (registry.next,
    ⟨(registry.next, object) :: registry.without registry.next, following registry.next⟩)

/-- The object a handle stands for. -/
def resolve (registry : Registry κ) (handle : UInt64) : Except HandleError (HostObject κ) :=
  match registry.slots.lookup handle with
  | some object => .ok object
  | none => .error (.invalidHandle handle)

/-- Give a handle back. -/
def release (registry : Registry κ) (handle : UInt64) : Except HandleError (Registry κ) :=
  if registry.isLive handle then .ok { registry with slots := registry.without handle }
  else .error (.invalidHandle handle)

/-- The number of live handles. -/
def live (registry : Registry κ) : Nat :=
  registry.slots.length

/-- The number of handles that stand for the instance in a cell. -/
def owners (registry : Registry κ) (cell : Nat) : Nat :=
  registry.slots.countP fun slot => slot.2.cell == cell

/-- The inspection text of a registry. -/
def inspect (registry : Registry κ) : String :=
  s!"HandleRegistry \x7b live: {registry.live}, next: {registry.next.toNat} \x7d"

end Registry

end NativeBridge
