/-
Module: NativeBridge.Integer
Purpose: The eight integer types that cross the native boundary, and the words they hold.
Main exports: IntegerType, IntegerType.Word, IntegerType.toInt, IntegerType.ofInt,
  IntegerType.toInt64
-/

namespace NativeBridge

/-- An integer type of fixed width and sign. -/
inductive IntegerType where
  | i8
  | u8
  | i16
  | u16
  | i32
  | u32
  | i64
  | u64
deriving Repr, Inhabited, DecidableEq

namespace IntegerType

/-- All integer types, narrowest first. -/
def all : List IntegerType := [i8, u8, i16, u16, i32, u32, i64, u64]

/-- The values of an integer type. -/
@[reducible] def Word : IntegerType → Type
  | i8 => Int8
  | u8 => UInt8
  | i16 => Int16
  | u16 => UInt16
  | i32 => Int32
  | u32 => UInt32
  | i64 => Int64
  | u64 => UInt64

/-- The integer a word stands for. -/
def toInt : (t : IntegerType) → t.Word → Int
  | i8, n => Int8.toInt n
  | u8, n => (UInt8.toNat n : Int)
  | i16, n => Int16.toInt n
  | u16, n => (UInt16.toNat n : Int)
  | i32, n => Int32.toInt n
  | u32, n => (UInt32.toNat n : Int)
  | i64, n => Int64.toInt n
  | u64, n => (UInt64.toNat n : Int)

/-- The word of an integer, its high bits dropped. -/
def ofInt : (t : IntegerType) → Int → t.Word
  | i8, n => Int8.ofInt n
  | u8, n => UInt8.ofInt n
  | i16, n => Int16.ofInt n
  | u16, n => UInt16.ofInt n
  | i32, n => Int32.ofInt n
  | u32, n => UInt32.ofInt n
  | i64, n => Int64.ofInt n
  | u64, n => UInt64.ofInt n

/-- A word widened to 64 signed bits; only an unsigned 64-bit word can change its value. -/
def toInt64 (t : IntegerType) (n : t.Word) : Int64 :=
  Int64.ofInt (t.toInt n)

instance (t : IntegerType) : DecidableEq t.Word :=
  match t with
  | i8 => inferInstanceAs (DecidableEq Int8)
  | u8 => inferInstanceAs (DecidableEq UInt8)
  | i16 => inferInstanceAs (DecidableEq Int16)
  | u16 => inferInstanceAs (DecidableEq UInt16)
  | i32 => inferInstanceAs (DecidableEq Int32)
  | u32 => inferInstanceAs (DecidableEq UInt32)
  | i64 => inferInstanceAs (DecidableEq Int64)
  | u64 => inferInstanceAs (DecidableEq UInt64)

instance (t : IntegerType) : Inhabited t.Word := ⟨t.ofInt 0⟩

instance (t : IntegerType) : Repr t.Word := ⟨fun n _ => repr (t.toInt n)⟩

/-- The name of an integer type in signatures. -/
def name : IntegerType → String
  | i8 => "i8"
  | u8 => "u8"
  | i16 => "i16"
  | u16 => "u16"
  | i32 => "i32"
  | u32 => "u32"
  | i64 => "i64"
  | u64 => "u64"

/-- The name of an integer type in error messages about the calling convention. -/
def title : IntegerType → String
  | i8 => "I8"
  | u8 => "U8"
  | i16 => "I16"
  | u16 => "U16"
  | i32 => "I32"
  | u32 => "U32"
  | i64 => "I64"
  | u64 => "U64"

/-- The spelling of an integer type in C source. -/
def cName : IntegerType → String
  | i8 => "int8_t"
  | u8 => "uint8_t"
  | i16 => "int16_t"
  | u16 => "uint16_t"
  | i32 => "int32_t"
  | u32 => "uint32_t"
  | i64 => "int64_t"
  | u64 => "uint64_t"

end IntegerType

end NativeBridge
