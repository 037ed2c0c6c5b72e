/-
Module: NativeBridge.MarshalPlan
Purpose: The passing decision for every slot of a signature, and the signature native code sees.
Main exports: MarshalSlot, MarshalPlan, MarshalPlan.boundaryParameters, MarshalPlan.boundaryResult
-/
import NativeBridge.HostType

namespace NativeBridge

variable {κ : Type}

/-- The decision for one parameter or for the result. -/
structure MarshalSlot (κ : Type) where
  type : HostType κ
  byHandle : Bool
deriving Repr, Inhabited, DecidableEq

namespace MarshalSlot

/-- The slot of a type. -/
def ofType (type : HostType κ) : MarshalSlot κ :=
  ⟨type, type.isByHandle⟩

/-- The type native code sees. -/
def boundaryType (slot : MarshalSlot κ) : HostType κ :=
  if slot.byHandle then .pointer else slot.type

end MarshalSlot

/-- The decisions for a whole signature. -/
structure MarshalPlan (κ : Type) where
  parameters : List (MarshalSlot κ)
  result : MarshalSlot κ
deriving Repr, Inhabited, DecidableEq

namespace MarshalPlan

/-- The plan of a signature. -/
def ofTypes (parameters : List (HostType κ)) (result : HostType κ) : MarshalPlan κ :=
  ⟨parameters.map MarshalSlot.ofType, MarshalSlot.ofType result⟩

/-- Whether nothing in the signature needs a handle. -/
def isDirect (plan : MarshalPlan κ) : Bool :=
  !plan.result.byHandle && plan.parameters.all fun slot => !slot.byHandle

/-- The parameter types native code sees. -/
def boundaryParameters (plan : MarshalPlan κ) : List (HostType κ) :=
  plan.parameters.map MarshalSlot.boundaryType

/-- The result type native code sees. -/
def boundaryResult (plan : MarshalPlan κ) : HostType κ :=
  plan.result.boundaryType

end MarshalPlan

end NativeBridge
