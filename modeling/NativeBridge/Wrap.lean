/-
Module: NativeBridge.Wrap
Purpose: Giving host functions native addresses.
Main exports: MarshalPlan.handleFault, World.addClosure, World.wrap, World.wrapFunction,
  Closure.inspect
-/
import NativeBridge.Call

namespace NativeBridge

variable {κ : Type} [HostProgram κ]

/-- Why the parameters of a plan need a registry, counting from an index. -/
def MarshalPlan.parameterHandleFault : Nat → List (MarshalSlot κ) → Option CallableError
  | _, [] => none
  | index, slot :: rest =>
      if slot.byHandle then some (.opaqueSignature (parameterPosition index) slot.type.name)
      else parameterHandleFault (index + 1) rest

/-- Why a plan needs a registry: its first parameter passed by handle, else its result. -/
def MarshalPlan.handleFault (plan : MarshalPlan κ) : Option CallableError :=
  (parameterHandleFault 0 plan.parameters).or
    (if plan.result.byHandle then some (.opaqueSignature "return" plan.result.type.name)
    else none)

namespace World

/-- Put a closure at a new address.  A plan with handles needs a registry. -/
def addClosure (world : World κ) (type : CallableType κ) (label : String) (plan : MarshalPlan κ)
    (registry : Option Nat) (handler : Handler κ) : Except CallableError (UInt64 × World κ) :=
  let closure : Closure κ := ⟨type, label, plan, registry, handler, []⟩
  match registry with
  | some _ => .ok (world.addCode (.closure closure))
  | none =>
      match plan.handleFault with
      | some error => .error error
      | none => .ok (world.addCode (.closure closure))

/-- Give a function of values a native address, under a callable type and a label. -/
def wrap (world : World κ) (type : CallableType κ) (label : String)
    (body : List (Value κ) → Code κ) : Except CallableError (UInt64 × World κ) :=
  let signature := type.signature
  world.addClosure type label (.ofTypes signature.parameters signature.result) none
    (.function body)

/-- Give a host function a native address; its callable type is made first. -/
def wrapFunction (world : World κ) (function : HostFunction κ) (label : String) :
    Except CallableError UInt64 × World κ :=
  match world.internType function.signature with
  | .error error => (.error error, world)
  | .ok (type, world) =>
      match world.wrap type label function.body with
      | .error error => (.error error, world)
      | .ok (address, world) => (.ok address, world)

end World

/-- The label of closures that no symbol names. -/
def closureLabel : String := "closure"

/-- The inspection text of a closure at an address. -/
def Closure.inspect (closure : Closure κ) (address : UInt64) : String :=
  "NativeCallable \x7b label: " ++ Text.quote closure.label ++ ", address: " ++
    Text.hexMarked address.toNat ++ ", ty: " ++ closure.type.inspect ++ " \x7d"

end NativeBridge
