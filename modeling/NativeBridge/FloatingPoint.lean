/-
Module: NativeBridge.FloatingPoint
Purpose: Arithmetic on floating-point numbers that are given by their bits.
Main exports: F64.add, F64.sub, F64.mul, F32.half, F32.toF64
-/
import NativeBridge.Abi

namespace NativeBridge

/-!
A not-a-number among the operands is the result, made quiet, the first of two.  An operation that
has no result on numbers gives the quiet not-a-number with its sign set.
-/

namespace F64

/-- The result of operations that have none on numbers. -/
def invalid : F64 := ⟨0xFFF8000000000000⟩

/-- The quiet form of a not-a-number. -/
def quiet (x : F64) : F64 := ⟨x.bits ||| 0x0008000000000000⟩

/-- Apply an operation on numbers. -/
def compute (operation : Float → Float → Float) (x y : F64) : F64 :=
  if x.isNaN then x.quiet
  else if y.isNaN then y.quiet
  else
    let result := operation (Float.ofBits x.bits) (Float.ofBits y.bits)
    if result.isNaN then invalid else ⟨result.toBits⟩

/-- The difference of two numbers. -/
def sub (x y : F64) : F64 := compute (fun a b => a - b) x y

/-- The product of two numbers. -/
def mul (x y : F64) : F64 := compute (fun a b => a * b) x y

/-- The number one. -/
def one : F64 := ⟨0x3FF0000000000000⟩

/-- The number three. -/
def three : F64 := ⟨0x4008000000000000⟩

end F64

namespace F32

/-- Half of a number. -/
def half (x : F32) : F32 :=
  if x.isNaN then ⟨x.bits ||| 0x00400000⟩
  else ⟨(Float32.ofBits x.bits / 2).toBits⟩

/-- The same number in double precision; a not-a-number keeps its sign and payload. -/
def toF64 (x : F32) : F64 :=
  if x.isNaN then
    let sign := (x.bits &&& 0x80000000).toUInt64 <<< 32
    let payload := (x.bits &&& 0x007FFFFF).toUInt64 <<< 29
    ⟨sign ||| 0x7FF8000000000000 ||| payload⟩
  else ⟨(Float32.ofBits x.bits).toFloat.toBits⟩

end F32

end NativeBridge
