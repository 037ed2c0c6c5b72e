/-
Module: NativeBridge.HostType
Purpose: Parameter and return types as host code sees them, and the calling-convention type each
  occupies.
Main exports: HostType, HostType.abi, HostType.name, Passing, HostType.passing
-/
import NativeBridge.Abi
import NativeBridge.HostClass

namespace NativeBridge

variable {κ : Type}

/-- A parameter or return type of a host function. -/
inductive HostType (κ : Type) where
  | void
  /-- An address, passed through untouched. -/
  | pointer
  | integer (type : IntegerType)
  /-- A character, crossing as its code point. -/
  | char
  | f32
  | f64
  /-- A text, crossing as the address of a C string. -/
  | string
  /-- A text buffer that native code can edit in place. -/
  | stringBuffer
  /-- An enumeration, crossing as its underlying integer. -/
  | enumeration (name : String) (repr : AbiType)
  /-- A host object, crossing as a handle. -/
  | object (type : ObjectType κ)
deriving Repr, Inhabited, DecidableEq

namespace HostType

/-- The calling-convention type a host type occupies. -/
def abi : HostType κ → AbiType
  | void => .void
  | pointer | string | stringBuffer | object _ => .pointer
  | integer type => .integer type
  | char => .integer .u32
  | f32 => .f32
  | f64 => .f64
  | enumeration _ repr => repr

/-- The name of a type in signatures, messages and encoded parameter lists. -/
def name [HostProgram κ] : HostType κ → String
  | void => "void"
  | pointer => "pointer"
  | integer type => type.name
  | char => "char"
  | f32 => "f32"
  | f64 => "f64"
  | string => "string"
  | stringBuffer => "stringbuffer"
  | enumeration name _ => name
  | object type => type.name

end HostType

/-- How a value of a type is passed. -/
inductive Passing where
  /-- In its native representation. -/
  | direct
  /-- As a handle that stands for it. -/
  | byHandle
deriving Repr, Inhabited, DecidableEq

/-- Host objects are passed by handle, everything else directly. -/
def HostType.passing : HostType κ → Passing
  | object _ => .byHandle
  | _ => .direct

/-- Whether a type is passed by handle. -/
def HostType.isByHandle (type : HostType κ) : Bool :=
  type.passing == .byHandle

end NativeBridge
