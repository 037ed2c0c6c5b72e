/-
Module: NativeBridge.Thunk
Purpose: The native entry point of one bound member.
Main exports: Thunk, thunkParameters, World.synthesize, World.synthesizeAll
-/
import NativeBridge.Naming.Plan
import NativeBridge.Wrap

namespace NativeBridge

variable {κ : Type} [HostProgram κ]

/-!
A thunk has the signature of its member with every host object replaced by a handle, and with the
handle of the receiver in front unless the member is static.
-/

/-- The native entry point of a member. -/
structure Thunk (κ : Type) where
  symbol : String
  dispatch : Dispatch
  plan : MarshalPlan κ
  type : CallableType κ
  address : UInt64

/-- The parameter types of a member's thunk. -/
def thunkParameters (member : Member κ) : List (HostType κ) :=
  match Dispatch.ofMember member with
  | .static => member.parameters
  | .virtual | .copied => .object member.owner :: member.parameters

/-- The marshal plan of a member's thunk. -/
def thunkPlan (member : Member κ) : MarshalPlan κ :=
  .ofTypes (thunkParameters member) member.result

/-- The signature native code sees of a member's thunk. -/
def thunkSignature (member : Member κ) : Signature κ :=
  ⟨(thunkPlan member).boundaryParameters, (thunkPlan member).boundaryResult⟩

namespace World

/-- Make the thunk of a member under a symbol, its handles in a registry. -/
def synthesize (world : World κ) (member : Member κ) (symbol : String) (registry : Nat) :
    Except Error (Thunk κ) × World κ :=
  let dispatch := Dispatch.ofMember member
  match world.internType (thunkSignature member) with
  | .error error => (.error error, world)
  | .ok (type, world) =>
      match world.addClosure type symbol (thunkPlan member) (some registry)
          (.member dispatch member) with
      | .error error => (.error error, world)
      | .ok (address, world) => (.ok ⟨symbol, dispatch, thunkPlan member, type, address⟩, world)

/-- Make thunks in order, until one fails. -/
def synthesizeAll (registry : Nat) : List (Naming.PlannedSymbol κ) → World κ →
    Except Error (List (Thunk κ)) × World κ
  | [], world => (.ok [], world)
  | planned :: rest, world =>
      match world.synthesize planned.member planned.symbol registry with
      | (.error error, world) => (.error error, world)
      | (.ok thunk, world) =>
          match synthesizeAll registry rest world with
          | (.error error, world) => (.error error, world)
          | (.ok thunks, world) => (.ok (thunk :: thunks), world)

end World

end NativeBridge
