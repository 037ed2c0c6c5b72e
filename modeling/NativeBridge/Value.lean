/-
Module: NativeBridge.Value
Purpose: Host values, what they are called, and their exchange with raw values.
Main exports: HostObject, StringBuffer, Value, Value.kind, Value.toRaw?, Value.fromRaw
-/
import NativeBridge.Error
import NativeBridge.HostType

namespace NativeBridge

variable {κ : Type}

/-!
Host objects and string buffers are shared: a value holds the cell its instance or its text lives
in, and equal cells mean the same instance.  The cells themselves are in the heap of host data.
-/

/-- A reference to a host instance, with the object type it is used as. -/
structure HostObject (κ : Type) where
  cell : Nat
  type : ObjectType κ
deriving Repr, DecidableEq

/-- A shared text with the number of bytes that native code has room for. -/
structure StringBuffer where
  cell : Nat
  capacity : Nat
deriving Repr, Inhabited, DecidableEq

/-- A value that flows into or out of a call. -/
inductive Value (κ : Type) where
  | void
  | pointer (address : UInt64)
  | integer (type : IntegerType) (n : type.Word)
  | char (c : Char)
  | f32 (x : F32)
  | f64 (x : F64)
  | string (text : String)
  | stringBuffer (buffer : StringBuffer)
  | object (target : HostObject κ)
deriving Repr, Inhabited, DecidableEq

/-- Whether two references are to the same instance. -/
def HostObject.sameInstance (a b : HostObject κ) : Bool :=
  a.cell == b.cell

/-- Check that an object is used as an expected type. -/
def HostObject.expectType [HostProgram κ] (object : HostObject κ) (expected : ObjectType κ) :
    Except MarshalError Unit :=
  if object.type = expected then .ok ()
  else .error (.typeMismatch expected.name object.type.name)

namespace Value

/-- What a value is called in messages. -/
def kind [HostProgram κ] : Value κ → String
  | void => "void"
  | pointer _ => "pointer"
  | integer type _ => type.name
  | char _ => "char"
  | f32 _ => "f32"
  | f64 _ => "f64"
  | string _ => "string"
  | stringBuffer _ => "stringbuffer"
  | object target => target.type.name

/-- The raw form of a value that has one: texts, buffers and objects have none. -/
def toRaw? : Value κ → Option RawValue
  | void => some .void
  | pointer address => some (.pointer address)
  | integer type n => some (.integer type n)
  | char c => some (.integer .u32 c.val)
  | f32 x => some (.f32 x)
  | f64 x => some (.f64 x)
  | string _ | stringBuffer _ | object _ => none

/-- The character of a code point, surrogates and numbers past the last code point refused. -/
def charOfCode (code : UInt32) : Except MarshalError Char :=
  if h : code.isValidChar then .ok ⟨code, h⟩ else .error (.invalidChar code)

/-- The value that a raw value has at a host type.  Nothing is void at any raw value; texts, buffers
and objects cannot be read off a raw value alone. -/
def fromRaw [HostProgram κ] (raw : RawValue) (type : HostType κ) :
    Except MarshalError (Value κ) :=
  let mismatch : Except MarshalError (Value κ) :=
    .error (.typeMismatch type.name raw.abi.title)
  match type, raw with
  | .void, _ => .ok void
  | .pointer, .pointer address => .ok (pointer address)
  | .integer type, .integer found n =>
      if found = type then .ok (integer found n) else mismatch
  | .char, .integer .u32 code => (charOfCode code).map char
  | .f32, .f32 x => .ok (f32 x)
  | .f64, .f64 x => .ok (f64 x)
  | .enumeration _ repr, .integer found n =>
      if repr = .integer found then .ok (integer found n) else mismatch
  | _, _ => mismatch

end Value

end NativeBridge
