/-
Module: NativeBridge.CallingConvention
Purpose: How raw values travel between a caller and a callee that may disagree about their types.
Main exports: RawValue.word, RawValue.ofWord, Lane, lanes, deliver, RawValue.readResult,
  deliver_self, readResult_self
-/
import NativeBridge.Abi

namespace NativeBridge

/-!
Values travel as 64-bit words.  Integers and addresses have six general registers, floating-point
numbers have eight vector registers, and what finds no register of its kind goes on the stack.  A
callee takes each of its parameters from the words of the lane that the parameter belongs to, so it
gets what the caller sent also where both see different types: a signed integer as the unsigned one
with the same low bits, an address as a number.  Where both see the same types nothing changes on
the way.
-/

namespace RawValue

/-- The word a value travels in: integers are widened by their own sign, and single-precision
numbers lie in the low half. -/
def word : RawValue → UInt64
  | void => 0
  | pointer address => address
  | integer type n => UInt64.ofInt (type.toInt n)
  | f32 x => x.bits.toUInt64
  | f64 x => x.bits

/-- The value of a type that a word holds in its low bits. -/
def ofWord : AbiType → UInt64 → RawValue
  | .void, _ => void
  | .pointer, word => pointer word
  | .integer type, word => integer type (type.ofInt (Int.ofNat word.toNat))
  | .f32, word => f32 ⟨word.toUInt32⟩
  | .f64, word => f64 ⟨word⟩

end RawValue

/-! ### Arguments -/

/-- A way for words to travel. -/
inductive Lane where
  | general
  | vector
  | stack
deriving Repr, Inhabited, DecidableEq

/-- The lane of values of a type as long as it has room; void has no register. -/
def AbiType.lane : AbiType → Lane
  | void => .stack
  | pointer | integer _ => .general
  | f32 | f64 => .vector

/-- The lane of the next argument, given how many general and how many vector registers are left,
and how many are left after it. -/
def nextLane (general vector : Nat) (type : AbiType) : Lane × Nat × Nat :=
  match type.lane, general, vector with
  | .general, left + 1, vector => (.general, left, vector)
  | .vector, general, left + 1 => (.vector, general, left)
  | _, general, vector => (.stack, general, vector)

/-- The lanes of arguments, given how many general and how many vector registers are left. -/
def lanesWithin : Nat → Nat → List AbiType → List Lane
  | _, _, [] => []
  | general, vector, type :: types =>
      let (lane, general, vector) := nextLane general vector type
      lane :: lanesWithin general vector types

/-- The lanes of arguments of some types. -/
def lanes (types : List AbiType) : List Lane :=
  lanesWithin 6 8 types

/-- The words that a caller sends, each with its lane. -/
def send (args : List RawValue) : List (Lane × UInt64) :=
  (lanes (args.map RawValue.abi)).zip (args.map RawValue.word)

/-- Take parameters from words in order, each the first word left in its lane; a lane that holds no
more words gives zeros. -/
def receive : List (Lane × AbiType) → List (Lane × UInt64) → List RawValue
  | [], _ => []
  | (lane, type) :: rest, words =>
      let word := (words.find? fun sent => sent.1 = lane).elim 0 Prod.snd
      RawValue.ofWord type word :: receive rest (words.eraseP fun sent => sent.1 = lane)

/-- What a callee with some parameter types gets from a caller's arguments. -/
def deliver (types : List AbiType) (args : List RawValue) : List RawValue :=
  receive ((lanes types).zip types) (send args)

/-! ### Results -/

/-- Whether an integer type fills a whole word. -/
def IntegerType.isWide : IntegerType → Bool
  | i64 | u64 => true
  | i8 | u8 | i16 | u16 | i32 | u32 => false

/-- The word a result travels in: as for arguments, but a narrow integer is widened by its sign to
32 bits only. -/
def RawValue.resultWord : RawValue → UInt64
  | integer type n =>
      if type.isWide then UInt64.ofInt (type.toInt n)
      else (UInt32.ofInt (type.toInt n)).toUInt64
  | value => value.word

/-- A result as a caller reads it that expects some type.  A result in another lane than the caller
looks in is not there for it: it reads a zero. -/
def RawValue.readResult (abi : AbiType) (value : RawValue) : RawValue :=
  if value.abi.lane = abi.lane then ofWord abi value.resultWord else zero abi

/-! ### Caller and callee that agree -/

/-- How many values an integer type has. -/
def IntegerType.span : IntegerType → Int
  | i8 | u8 => 256
  | i16 | u16 => 65536
  | i32 | u32 => 4294967296
  | i64 | u64 => 18446744073709551616

/-- Integers that differ by a multiple of the number of values have the same word. -/
theorem IntegerType.ofInt_congr (type : IntegerType) {x y : Int}
    (same : x % type.span = y % type.span) : type.ofInt x = type.ofInt y := by
  cases type with
  | i8 =>
    show Int8.ofInt x = Int8.ofInt y
    rw [← Int8.toInt_inj, Int8.toInt_ofInt, Int8.toInt_ofInt, Int.bmod_def, Int.bmod_def]
    simp only [Int8.size, span] at same ⊢
    omega
  | u8 => exact congrArg (fun n => UInt8.ofNat (Int.toNat n)) same
  | i16 =>
    show Int16.ofInt x = Int16.ofInt y
    rw [← Int16.toInt_inj, Int16.toInt_ofInt, Int16.toInt_ofInt, Int.bmod_def, Int.bmod_def]
    simp only [Int16.size, span] at same ⊢
    omega
  | u16 => exact congrArg (fun n => UInt16.ofNat (Int.toNat n)) same
  | i32 =>
    show Int32.ofInt x = Int32.ofInt y
    rw [← Int32.toInt_inj, Int32.toInt_ofInt, Int32.toInt_ofInt, Int.bmod_def, Int.bmod_def]
    simp only [Int32.size, span] at same ⊢
    omega
  | u32 => exact congrArg (fun n => UInt32.ofNat (Int.toNat n)) same
  | i64 =>
    show Int64.ofInt x = Int64.ofInt y
    rw [← Int64.toInt_inj, Int64.toInt_ofInt, Int64.toInt_ofInt, Int.bmod_def, Int.bmod_def]
    simp only [Int64.size, span] at same ⊢
    omega
  | u64 => exact congrArg (fun n => UInt64.ofNat (Int.toNat n)) same

/-- An integer is read back from its number. -/
theorem IntegerType.ofInt_toInt (type : IntegerType) (n : type.Word) :
    type.ofInt (type.toInt n) = n := by
  cases type with
  | i8 => exact Int8.ofInt_toInt n
  | u8 =>
    have upper := UInt8.toNat_lt n
    rw [← UInt8.toNat_inj]
    show ((((UInt8.toNat n : Int) % 256).toNat % 256) : Nat) = _
    omega
  | i16 => exact Int16.ofInt_toInt n
  | u16 =>
    have upper := UInt16.toNat_lt n
    rw [← UInt16.toNat_inj]
    show ((((UInt16.toNat n : Int) % 65536).toNat % 65536) : Nat) = _
    omega
  | i32 => exact Int32.ofInt_toInt n
  | u32 =>
    have upper := UInt32.toNat_lt n
    rw [← UInt32.toNat_inj]
    show ((((UInt32.toNat n : Int) % 4294967296).toNat % 4294967296) : Nat) = _
    omega
  | i64 => exact Int64.ofInt_toInt n
  | u64 =>
    have upper := UInt64.toNat_lt n
    rw [← UInt64.toNat_inj]
    show ((((UInt64.toNat n : Int) % 18446744073709551616).toNat % 18446744073709551616) : Nat) = _
    omega

/-- The number of a 64-bit word of an integer. -/
theorem toNat_ofInt64 (x : Int) :
    Int.ofNat (UInt64.ofInt x).toNat = x % 18446744073709551616 := by
  have nonneg : (0 : Int) ≤ x % 18446744073709551616 := Int.emod_nonneg x (by decide)
  have below : x % 18446744073709551616 < 18446744073709551616 :=
    Int.emod_lt_of_pos x (by decide)
  show (((x % 18446744073709551616).toNat % 18446744073709551616 : Nat) : Int) = _
  omega

/-- The number of a 32-bit word of an integer. -/
theorem toNat_ofInt32 (x : Int) :
    Int.ofNat (UInt32.ofInt x).toUInt64.toNat = x % 4294967296 := by
  have nonneg : (0 : Int) ≤ x % 4294967296 := Int.emod_nonneg x (by decide)
  have below : x % 4294967296 < 4294967296 := Int.emod_lt_of_pos x (by decide)
  rw [UInt32.toNat_toUInt64]
  show (((x % 4294967296).toNat % 4294967296 : Nat) : Int) = _
  omega

/-- An integer of every type is read back from its word. -/
theorem IntegerType.ofInt_word (type : IntegerType) (n : type.Word) :
    type.ofInt (Int.ofNat (UInt64.ofInt (type.toInt n)).toNat) = n := by
  rw [toNat_ofInt64]
  refine (type.ofInt_congr (Int.emod_emod_of_dvd _ ?_)).trans (type.ofInt_toInt n)
  cases type <;> decide

/-- An integer of a narrow type is read back from its 32-bit word. -/
theorem IntegerType.ofInt_narrowWord (type : IntegerType) (n : type.Word)
    (narrow : type.isWide = false) :
    type.ofInt (Int.ofNat (UInt32.ofInt (type.toInt n)).toUInt64.toNat) = n := by
  rw [toNat_ofInt32]
  refine (type.ofInt_congr (Int.emod_emod_of_dvd _ ?_)).trans (type.ofInt_toInt n)
  revert narrow
  cases type <;> decide

/-- A value is read back from its word at its own type. -/
theorem RawValue.ofWord_word (value : RawValue) : ofWord value.abi value.word = value := by
  cases value with
  | void => rfl
  | pointer address => rfl
  | integer type n => exact congrArg (integer type) (type.ofInt_word n)
  | f32 x => exact congrArg (fun bits => f32 ⟨bits⟩) (UInt32.toUInt32_toUInt64 x.bits)
  | f64 x => rfl

/-- Every argument has a lane. -/
theorem length_lanesWithin (general vector : Nat) (types : List AbiType) :
    (lanesWithin general vector types).length = types.length := by
  induction types generalizing general vector with
  | nil => rfl
  | cons type types ih =>
    exact congrArg (· + 1) (ih _ _)

/-- Parameters of the arguments' own types in the arguments' own lanes take the arguments. -/
theorem receive_zip (lanes : List Lane) (args : List RawValue)
    (same : lanes.length = args.length) :
    receive (lanes.zip (args.map RawValue.abi)) (lanes.zip (args.map RawValue.word)) = args := by
  induction lanes generalizing args with
  | nil =>
    cases args with
    | nil => rfl
    | cons arg args => cases same
  | cons lane lanes ih =>
    cases args with
    | nil => cases same
    | cons arg args =>
      have rest := ih args (Nat.succ.inj same)
      simp [receive, RawValue.ofWord_word, rest]

/-- A callee with the parameter types of the arguments gets the arguments. -/
theorem deliver_self (args : List RawValue) : deliver (args.map RawValue.abi) args = args :=
  receive_zip _ args (by rw [lanes, length_lanesWithin, List.length_map])

/-- A caller that expects the type of the result gets the result. -/
theorem RawValue.readResult_self (value : RawValue) : value.readResult value.abi = value := by
  cases value with
  | void => rfl
  | pointer address => rfl
  | integer type n =>
    show ofWord (.integer type) (resultWord (integer type n)) = _
    rw [resultWord]
    split
    · exact congrArg (integer type) (type.ofInt_word n)
    · next narrow =>
      exact congrArg (integer type) (type.ofInt_narrowWord n (Bool.eq_false_iff.mpr narrow))
  | f32 x => exact congrArg (fun bits => f32 ⟨bits⟩) (UInt32.toUInt32_toUInt64 x.bits)
  | f64 x => rfl

end NativeBridge
