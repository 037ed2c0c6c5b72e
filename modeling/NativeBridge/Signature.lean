/-
Module: NativeBridge.Signature
Purpose: Signatures of native-callable functions, which of them are valid, and the callable types
  that stand for them.
Main exports: Signature, Signature.check, CallableType, TypeCache, TypeCache.intern
-/
import NativeBridge.Error
import NativeBridge.MarshalPlan
import NativeBridge.Text.Quoted

namespace NativeBridge

variable {κ : Type}

/-!
Native code can be given a function only if none of its parameters is void and nothing in its
signature needs a handle.  Equal signatures share one callable type; callable types are numbered
from one in the order their signatures are first seen.
-/

/-- The parameter and result types of a function. -/
structure Signature (κ : Type) where
  parameters : List (HostType κ)
  result : HostType κ
deriving Repr, Inhabited, DecidableEq

/-- The name of a parameter's place in messages. -/
def parameterPosition (index : Nat) : String :=
  s!"parameter {index}"

namespace Signature

variable [HostProgram κ]

/-- The text of a signature. -/
def text (signature : Signature κ) : String :=
  "fn(" ++ String.intercalate ", " (signature.parameters.map HostType.name) ++ ") -> " ++
    signature.result.name

/-- Why a type cannot be the parameter at an index, if it cannot. -/
def parameterFault (index : Nat) (type : HostType κ) : Option CallableError :=
  match type with
  | .void => some (.voidParameter (parameterPosition index))
  | .object _ => some (.opaqueSignature (parameterPosition index) type.name)
  | _ => none

/-- The fault of the first faulty parameter, counting from an index. -/
def parametersFault : Nat → List (HostType κ) → Option CallableError
  | _, [] => none
  | index, type :: rest =>
      (parameterFault index type).or (parametersFault (index + 1) rest)

/-- Why a type cannot be the result, if it cannot. -/
def resultFault (type : HostType κ) : Option CallableError :=
  if type.isByHandle then some (.opaqueSignature "return" type.name) else none

/-- Why a signature is not valid: its first faulty parameter, else its result. -/
def fault (signature : Signature κ) : Option CallableError :=
  (parametersFault 0 signature.parameters).or (resultFault signature.result)

end Signature

/-- A callable type: a valid signature with its number. -/
structure CallableType (κ : Type) where
  id : Nat
  signature : Signature κ
deriving Repr, Inhabited, DecidableEq

namespace CallableType

/-- The name of a callable type. -/
def name (type : CallableType κ) : String :=
  s!"callable{type.id}"

/-- Callable types are the same if they have the same number. -/
def sameType (a b : CallableType κ) : Bool :=
  a.id == b.id

/-- The inspection text of a callable type. -/
def inspect [HostProgram κ] (type : CallableType κ) : String :=
  "CallableType \x7b name: " ++ Text.quote type.name ++ ", signature: " ++
    Text.quote type.signature.text ++ " \x7d"

end CallableType

/-- The signatures seen so far, oldest first; the number of one is its place counted from one. -/
structure TypeCache (κ : Type) where
  signatures : List (Signature κ)
deriving Repr, Inhabited, DecidableEq

namespace TypeCache

/-- No signature seen yet. -/
def empty : TypeCache κ := ⟨[]⟩

/-- The number of callable types made so far. -/
def size (cache : TypeCache κ) : Nat :=
  cache.signatures.length

variable [HostProgram κ]

/-- The callable type of a signature already seen. -/
def find? (cache : TypeCache κ) (signature : Signature κ) : Option (CallableType κ) :=
  (cache.signatures.idxOf? signature).map fun index => ⟨index + 1, signature⟩

/-- The callable type of a signature, made on first sight; a signature that is not valid is refused
and leaves no trace. -/
def intern (cache : TypeCache κ) (signature : Signature κ) :
    Except CallableError (CallableType κ × TypeCache κ) :=
  match signature.fault with
  | some fault => .error fault
  | none =>
      match cache.find? signature with
      | some type => .ok (type, cache)
      | none => .ok (⟨cache.size + 1, signature⟩, ⟨cache.signatures ++ [signature]⟩)

end TypeCache

end NativeBridge
