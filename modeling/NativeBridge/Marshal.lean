/-
Module: NativeBridge.Marshal
Purpose: The types host functions are written over, and the conversion of their values and
  parameter tuples to and from host values.
Main exports: EnumSpec, Ref, MarshalType, Carrier, MarshalType.hostType, MarshalType.intoValue,
  MarshalType.fromValue, Tuple, Tuple.intoValues, Tuple.fromValues
-/
import NativeBridge.Heap
import NativeBridge.Signature

namespace NativeBridge

variable {κ : Type}

/-!
A marshal type is the code of a type that may stand in a bound signature; its carrier is that type.
A shared reference carries the cell of its instance, a copied value carries a state of its own.
Conversion can fail only on the way in: on a value of another type, an object of another type, an
unknown discriminant, or a value instance that is being written to.
-/

/-- An enumeration: its name, its underlying integer type and the discriminants of its variants. -/
structure EnumSpec where
  name : String
  repr : IntegerType
  discriminants : List repr.Word

/-- A shared instance of a class. -/
structure Ref {κ : Type} (key : κ) where
  cell : Nat
deriving Repr, Inhabited, DecidableEq

/-- The object a shared reference is. -/
def Ref.object {key : κ} (ref : Ref key) : HostObject κ :=
  ⟨ref.cell, ⟨key, .reference⟩⟩

/-- The types that may stand in the signature of a host function. -/
inductive MarshalType (κ : Type) where
  | unit
  | pointer
  | integer (type : IntegerType)
  | char
  | f32
  | f64
  | string
  | stringBuffer
  | enumeration (spec : EnumSpec)
  /-- A shared instance of a class. -/
  | shared (key : κ)
  /-- A copied instance of a class. -/
  | copied (key : κ)

/-- The values of a marshal type. -/
@[reducible] def Carrier [HostProgram κ] : MarshalType κ → Type
  | .unit => Unit
  | .pointer => UInt64
  | .integer type => type.Word
  | .char => Char
  | .f32 => F32
  | .f64 => F64
  | .string => String
  | .stringBuffer => StringBuffer
  | .enumeration spec => Fin spec.discriminants.length
  | .shared key => Ref key
  | .copied key => HostProgram.State key

namespace MarshalType

/-- The host type of a marshal type. -/
def hostType : MarshalType κ → HostType κ
  | unit => .void
  | pointer => .pointer
  | integer type => .integer type
  | char => .char
  | f32 => .f32
  | f64 => .f64
  | string => .string
  | stringBuffer => .stringBuffer
  | enumeration spec => .enumeration spec.name (.integer spec.repr)
  | shared key => .object ⟨key, .reference⟩
  | copied key => .object ⟨key, .value⟩

variable [HostProgram κ]

/-- The host value of a carried value; a copied instance becomes a new object. -/
def intoValue : (type : MarshalType κ) → Carrier type → Heap κ → Value κ × Heap κ
  | unit, _, heap => (.void, heap)
  | pointer, address, heap => (.pointer address, heap)
  | integer type, n, heap => (.integer type n, heap)
  | char, c, heap => (.char c, heap)
  | f32, x, heap => (.f32 x, heap)
  | f64, x, heap => (.f64 x, heap)
  | string, text, heap => (.string text, heap)
  | stringBuffer, buffer, heap => (.stringBuffer buffer, heap)
  | enumeration spec, variant, heap =>
      (.integer spec.repr spec.discriminants[variant], heap)
  | shared _, ref, heap => (.object ref.object, heap)
  | copied key, state, heap =>
      let (object, heap) := heap.newObject ⟨key, .value⟩ state
      (.object object, heap)

/-- The failure of reading a value of another type. -/
def mismatch {α : Type} (expected : HostType κ) (found : Value κ) : Except MarshalError α :=
  .error (.typeMismatch expected.name found.kind)

/-- The word of a value of an integer type. -/
def wordOf (type : IntegerType) (value : Value κ) : Except MarshalError type.Word :=
  match value with
  | .integer found n =>
      if h : found = type then .ok (h ▸ n) else mismatch (.integer type) value
  | _ => mismatch (.integer type) value

/-- The variant with a discriminant. -/
def variantOf (spec : EnumSpec) (n : spec.repr.Word) :
    Except MarshalError (Fin spec.discriminants.length) :=
  match spec.discriminants.findFinIdx? (· == n) with
  | some variant => .ok variant
  | none => .error (.invalidEnum spec.name (spec.repr.toInt64 n))

/-- The state of an object of a value class that nobody writes to. -/
def copiedState (key : κ) (value : Value κ) (heap : Heap κ) :
    Except MarshalError (HostProgram.State key) :=
  match value with
  | .object object => do
      object.expectType ⟨key, .value⟩
      match heap.readObject object with
      | .error _ => .error (.typeMismatch (HostProgram.className key) "busy instance")
      | .ok cell =>
          match cell.stateAs key with
          | some state => .ok state
          | none => mismatch (.object ⟨key, .value⟩) value
  | _ => mismatch (.object ⟨key, .value⟩) value

/-- Read a host value as a marshal type. -/
def fromValue : (type : MarshalType κ) → Value κ → Heap κ → Except MarshalError (Carrier type)
  | unit, .void, _ => .ok ()
  | pointer, .pointer address, _ => .ok address
  | integer type, value, _ => wordOf type value
  | char, .char c, _ => .ok c
  | f32, .f32 x, _ => .ok x
  | f64, .f64 x, _ => .ok x
  | string, .string text, _ => .ok text
  | stringBuffer, .stringBuffer buffer, _ => .ok buffer
  | enumeration spec, value, _ => do
      let n ← wordOf spec.repr value
      variantOf spec n
  | shared key, .object object, _ => do
      object.expectType ⟨key, .reference⟩
      .ok ⟨object.cell⟩
  | copied key, value, heap => copiedState key value heap
  | type, value, _ => mismatch type.hostType value

end MarshalType

/-- Tuples of carried values, one for each type of a parameter list. -/
@[reducible] def Tuple [HostProgram κ] : List (MarshalType κ) → Type
  | [] => Unit
  | type :: types => Carrier type × Tuple types

namespace Tuple

variable [HostProgram κ]

/-- The host values of a tuple, from left to right. -/
def intoValues : (types : List (MarshalType κ)) → Tuple types → Heap κ → List (Value κ) × Heap κ
  | [], _, heap => ([], heap)
  | type :: types, (first, rest), heap =>
      let (value, heap) := type.intoValue first heap
      let (values, heap) := intoValues types rest heap
      (value :: values, heap)

/-- Read as many values as there are types, from left to right; missing values read as void. -/
def readValues : (types : List (MarshalType κ)) → List (Value κ) → Heap κ →
    Except MarshalError (Tuple types)
  | [], _, _ => .ok ()
  | type :: types, values, heap => do
      let first ← type.fromValue (values.headD .void) heap
      let rest ← readValues types values.tail heap
      .ok (first, rest)

/-- Read a list of values as a tuple; the number of values is checked before any of them. -/
def fromValues (types : List (MarshalType κ)) (values : List (Value κ)) (heap : Heap κ) :
    Except MarshalError (Tuple types) :=
  if values.length = types.length then readValues types values heap
  else .error (.arityMismatch types.length values.length)

end Tuple

/-- The signature of a host function over marshal types. -/
def Signature.ofMarshal (parameters : List (MarshalType κ)) (result : MarshalType κ) :
    Signature κ :=
  ⟨parameters.map MarshalType.hostType, result.hostType⟩

end NativeBridge
