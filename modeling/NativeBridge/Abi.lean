/-
Module: NativeBridge.Abi
Purpose: The types and values of the C calling convention.
Main exports: AbiType, F32, F64, RawValue, RawValue.zero, RawValue.abi, RawValue.toInt64?
-/
import NativeBridge.Integer

namespace NativeBridge

/-!
A native call moves only these values.  Floating-point numbers are carried as their bits, so that
every value, each kind of not-a-number included, crosses unchanged; comparing them as numbers is an
operation of its own.
-/

/-- The types of the C calling convention. -/
inductive AbiType where
  | void
  | pointer
  | integer (type : IntegerType)
  | f32
  | f64
deriving Repr, Inhabited, DecidableEq

namespace AbiType

/-- All types: nothing, addresses, integers from narrow to wide, then floating-point numbers. -/
def all : List AbiType :=
  void :: pointer :: IntegerType.all.map integer ++ [f32, f64]

/-- The name of a type. -/
def name : AbiType → String
  | void => "void"
  | pointer => "pointer"
  | integer type => type.name
  | f32 => "f32"
  | f64 => "f64"

/-- The type of a name. -/
def ofName? (name : String) : Option AbiType :=
  all.find? fun type => type.name == name

/-- The spelling of a type in C source. -/
def cName : AbiType → String
  | void => "void"
  | pointer => "void*"
  | integer type => type.cName
  | f32 => "float"
  | f64 => "double"

/-- The name of a type in error messages. -/
def title : AbiType → String
  | void => "Void"
  | pointer => "Pointer"
  | integer type => type.title
  | f32 => "F32"
  | f64 => "F64"

end AbiType

/-- A single-precision number, as its bits. -/
structure F32 where
  bits : UInt32
deriving Repr, Inhabited, DecidableEq

/-- A double-precision number, as its bits. -/
structure F64 where
  bits : UInt64
deriving Repr, Inhabited, DecidableEq

/-- Whether the bits are those of a not-a-number. -/
def F32.isNaN (x : F32) : Bool :=
  x.bits &&& 0x7FFFFFFF > 0x7F800000

/-- Whether the bits are those of a not-a-number. -/
def F64.isNaN (x : F64) : Bool :=
  x.bits &&& 0x7FFFFFFFFFFFFFFF > 0x7FF0000000000000

/-- Equality of numbers: zeros of both signs are equal, a not-a-number equals nothing. -/
def F32.sameNumber (x y : F32) : Bool :=
  !x.isNaN && !y.isNaN && (x.bits == y.bits || (x.bits ||| y.bits) &&& 0x7FFFFFFF == 0)

/-- Equality of numbers: zeros of both signs are equal, a not-a-number equals nothing. -/
def F64.sameNumber (x y : F64) : Bool :=
  !x.isNaN && !y.isNaN && (x.bits == y.bits || (x.bits ||| y.bits) &&& 0x7FFFFFFFFFFFFFFF == 0)

/-- A value as it sits in a native argument or return slot. -/
inductive RawValue where
  | void
  | pointer (address : UInt64)
  | integer (type : IntegerType) (n : type.Word)
  | f32 (x : F32)
  | f64 (x : F64)
deriving Repr, Inhabited, DecidableEq

namespace RawValue

/-- The zero of a type: what a failed native call hands back. -/
def zero : AbiType → RawValue
  | .void => void
  | .pointer => pointer 0
  | .integer type => integer type (type.ofInt 0)
  | .f32 => f32 ⟨0⟩
  | .f64 => f64 ⟨0⟩

/-- The type of a value. -/
def abi : RawValue → AbiType
  | void => .void
  | pointer _ => .pointer
  | integer type _ => .integer type
  | f32 _ => .f32
  | f64 _ => .f64

/-- An integer or an address widened to 64 signed bits; addresses and unsigned 64-bit integers keep
their bits. -/
def toInt64? : RawValue → Option Int64
  | integer type n => some (type.toInt64 n)
  | pointer address => some address.toInt64
  | void | f32 _ | f64 _ => none

end RawValue

end NativeBridge
