/-
Module: NativeBridge.Workbench.Functions
Purpose: The workbench's host functions with static signatures.
Main exports: churn, callWithHandle, rawCall, typedFunctions, typedFunction?
-/
import NativeBridge.Workbench.Classes

namespace NativeBridge.Workbench

/-!
Each function exercises one thing: a type crossing unchanged, arithmetic at the edge of a width,
many parameters, text and buffers, panics, instances, or calls back into native code.
-/

/-- A host function of the workbench. -/
abbrev Function : Type := HostFunction Key

/-- The type of 32-bit signed integers, which many signatures use. -/
abbrev int : MarshalType Key := .integer .i32

/-- The function that gives its argument back. -/
def identity (type : MarshalType Key) : Function where
  parameters := [type]
  result := type
  run := fun (carried, ()) => pure carried

/-- A function that is there for its signature and does nothing. -/
def signatureOnly (parameters : List (MarshalType Key)) (result : MarshalType Key) : Function where
  parameters := parameters
  result := result
  run := fun _ => Host.panic "signature only"

/-! ### Numbers -/

/-- Nothing from nothing. -/
def unitFunction : Function := ⟨[], .unit, fun _ => pure ()⟩

/-- A constant. -/
def answer : Function := ⟨[], int, fun _ => pure (42 : Int32)⟩

/-- The negation of an 8-bit integer. -/
def negate : Function := ⟨[.integer .i8], .integer .i8, fun (n, ()) => pure (-n : Int8)⟩

/-- The sum of two integers. -/
def add : Function := ⟨[int, int], int, fun (a, b, ()) => pure (a + b : Int32)⟩

/-- The difference of two floating-point numbers. -/
def subtract : Function := ⟨[.f64, .f64], .f64, fun (a, b, ()) => pure (F64.sub a b)⟩

/-- Half of a floating-point number. -/
def half : Function := ⟨[.f32], .f32, fun (x, ()) => pure (F32.half x)⟩

/-- A combination of integers of different widths. -/
def mix : Function where
  parameters := [.integer .i8, .integer .u16, .integer .i64]
  result := .integer .i64
  run := fun (a, b, c, ()) =>
    let a := IntegerType.toInt64 .i8 a
    let b := IntegerType.toInt64 .u16 b
    pure (a * 100000 + b - c : Int64)

/-- The sum of four integers of different widths. -/
def sumOfFour : Function where
  parameters := [.integer .i8, .integer .i16, .integer .i32, .integer .i64]
  result := .integer .i64
  run := fun (a, b, c, d, ()) =>
    pure (IntegerType.toInt64 .i8 a + IntegerType.toInt64 .i16 b + IntegerType.toInt64 .i32 c + d)

/-- The sum of an integer of each type. -/
def sumOfEight : Function where
  parameters := [.integer .i8, .integer .i16, .integer .i32, .integer .i64, .integer .u8,
    .integer .u16, .integer .u32, .integer .u64]
  result := .integer .i64
  run := fun (a, b, c, d, e, f, g, h, ()) =>
    pure (IntegerType.toInt64 .i8 a + IntegerType.toInt64 .i16 b + IntegerType.toInt64 .i32 c + d +
      IntegerType.toInt64 .u8 e + IntegerType.toInt64 .u16 f + IntegerType.toInt64 .u32 g +
      IntegerType.toInt64 .u64 h)

/-- One of five numbers, chosen by the first argument. -/
def pick : Function where
  parameters := [.integer .u8, .f32, .f64, .f32, .f64, int]
  result := .f64
  run := fun (which, a, b, c, d, e, ()) =>
    match UInt8.toNat which with
    | 0 => pure (F32.toF64 a)
    | 1 => pure b
    | 2 => pure (F32.toF64 c)
    | 3 => pure d
    | _ => pure ⟨(Float.ofInt (Int32.toInt e)).toBits⟩

/-- The level after a level; the last one stays. -/
def nextLevel : Function where
  parameters := [.enumeration level]
  result := .enumeration level
  run := fun (variant, ()) =>
    let variant : Level := variant
    pure (if variant.val = 0 then (⟨1, by decide⟩ : Level) else (⟨2, by decide⟩ : Level))

/-- The code point of a character. -/
def codePoint : Function :=
  ⟨[.char], .integer .u32, fun (c, ()) => pure (c : Char).val⟩

/-- A function of a parameter that carries nothing. -/
def ofUnit : Function := ⟨[.unit], int, fun _ => pure (0 : Int32)⟩

/-! ### Text -/

/-- Two texts, a character, a number and a text, with bars between them. -/
def joinFive : Function where
  parameters := [.string, .string, .char, .integer .u8, .string]
  result := .string
  run := fun (a, b, c, n, d, ()) =>
    pure (String.intercalate "|"
      [a, b, String.singleton c, toString (IntegerType.toInt .u8 n), d])

/-- Numbers, a character, a level and a text, with commas between them. -/
def joinSeven : Function where
  parameters := [.integer .u8, .integer .u16, .integer .u32, .integer .u64, .char,
    .enumeration level, .string]
  result := .string
  run := fun (a, b, c, d, e, variant, text, ()) =>
    pure (String.intercalate ","
      [toString (IntegerType.toInt .u8 a), toString (IntegerType.toInt .u16 b),
        toString (IntegerType.toInt .u32 c), toString (IntegerType.toInt .u64 d),
        String.singleton e, toString (Level.number variant).toNat, text])

/-- A text with its characters in reverse order. -/
def reversed : Function :=
  ⟨[.string], .string, fun (text, ()) => pure (String.ofList (String.toList text).reverse)⟩

/-- A greeting. -/
def greet : Function := ⟨[.string], .string, fun (name, ()) => pure ("hello " ++ name)⟩

/-- The number of bytes of a text. -/
def byteLength (text : String) : UInt32 :=
  UInt32.ofNat text.utf8ByteSize

/-- The length of a text in bytes. -/
def textLength : Function :=
  ⟨[.string], .integer .u32, fun (text, ()) => pure (byteLength text)⟩

/-- A text that no C string can hold. -/
def textWithNul : Function := ⟨[], .string, fun _ => pure "a\x00b"⟩

/-! ### Buffers -/

/-- Fill a buffer. -/
def fill : Function :=
  ⟨[.stringBuffer], .unit, fun (buffer, ()) => Host.setBufferText buffer "filled by host"⟩

/-- Put a text at the end of a buffer. -/
def append : Function where
  parameters := [.stringBuffer, .string]
  result := .unit
  run := fun (buffer, text, ()) => do
    let before ← Host.bufferText buffer
    Host.setBufferText buffer (before ++ text)

/-- Clear a buffer and tell how long its text was. -/
def wipe : Function where
  parameters := [.stringBuffer]
  result := .integer .u32
  run := fun (buffer, ()) => do
    let before ← Host.bufferText buffer
    Host.setBufferText buffer ""
    pure (byteLength before)

/-- All that can be told of a buffer. -/
def bufferInfo : Function where
  parameters := [.stringBuffer]
  result := .string
  run := fun (buffer, ()) => do
    let buffer : StringBuffer := buffer
    let text ← Host.bufferText buffer
    let cut := Text.Utf8.truncate text buffer.capacity
    pure s!"{text.utf8ByteSize}:{buffer.capacity}:{text.isEmpty}:{cut}"

/-- Exchange the texts of two buffers. -/
def exchangeBuffers : Function where
  parameters := [.stringBuffer, .stringBuffer]
  result := .unit
  run := fun (a, b, ()) => do
    let first ← Host.bufferText a
    let second ← Host.bufferText b
    Host.setBufferText a second
    Host.setBufferText b first

/-- A small new buffer with a text. -/
def makeBuffer : Function :=
  ⟨[.string], .stringBuffer, fun (text, ()) => Host.newBuffer text 2⟩

/-! ### Panics -/

/-- A panic with a fixed text. -/
def panicFixed : Function := ⟨[], int, fun _ => Host.panic "boom"⟩

/-- A panic with a text made for it. -/
def panicText : Function := ⟨[.string], int, fun (text, ()) => Host.panic ("boom " ++ text)⟩

/-- A panic without a text. -/
def panicOther : Function := ⟨[], int, fun _ => Host.panicWithoutText⟩

/-- A panic after a buffer was changed. -/
def panicBuffer : Function where
  parameters := [.stringBuffer]
  result := .unit
  run := fun (buffer, ()) => do
    Host.setBufferText buffer "lost"
    Host.panic "after edit"

/-! ### Calls back into native code -/

/-- The native function of a name; a panic if there is none. -/
def namedFunction (name : String) : Host Key (ForeignFunction Key) := do
  let globals ← (Host.globals : Host Key Globals)
  match globals.functions.find? name with
  | some function => pure function
  | none => Host.panic ("no function " ++ name)

/-- A number for the result of a call: the integer it is, or a mark for another value or an error. -/
def callCode : Except Error (Value Key) → Int32
  | .ok (.integer .i32 n) => n
  | .ok _ => -1
  | .error _ => -2

/-- Call a named function with host values and tell what came of it. -/
def callNamed (name : String) (args : List (Value Key)) : Host Key Int32 := do
  let function ← namedFunction name
  let result ← Host.call function args
  pure (callCode result)

/-- Call a named function with raw values and tell the integer it gave, or a mark. -/
def rawCallNamed (name : String) (args : List RawValue) : Host Key Int64 := do
  let function ← namedFunction name
  match ← Host.callRaw function args with
  | .ok raw => pure (raw.toInt64?.getD (-3))
  | .error _ => pure (-3)

/-- Make a number of instances and release every other one, first to last; tell how many are left.
Both are done through the named functions for it. -/
def churnLoop : Nat → Bool → Int32 → Host Key Int32
  | 0, _, kept => pure kept
  | n + 1, release, kept => do
      let new ← namedFunction "new"
      match ← Host.call new [] with
      | .error error => Host.panic error.message
      | .ok handle =>
          if release then
            let free ← namedFunction "free"
            match ← Host.call free [handle] with
            | .error error => Host.panic error.message
            | .ok _ => churnLoop n false kept
          else churnLoop n true (kept + 1)

/-- Make a number of instances and release every other one, the first included; tells how many were
kept.  A function is looked up when it is needed. -/
def churn (count : Int32) : Host Key Int32 :=
  churnLoop count.toInt.toNat true 0

/-! ### Instances -/

/-- The class that functions with instances use. -/
abbrev sample : Key := .widget .testClass

/-- The number of a shared instance. -/
def takeRef : Function where
  parameters := [.shared sample]
  result := int
  run := fun (ref, ()) => do
    let state ← (Host.inspect ref : Host Key (Option Widget))
    pure (match state with
      | some widget => widget.number
      | none => -1)

/-- The number of a copied instance. -/
def takeVal : Function :=
  ⟨[.copied sample], int, fun (widget, ()) => pure (widget : Widget).number⟩

/-- A new shared instance with a number. -/
def makeRef : Function where
  parameters := [int]
  result := .shared sample
  run := fun (n, ()) =>
    (Host.newRef { Widget.default with number := n } : Host Key (Ref sample))

/-- A copied instance with a number. -/
def makeVal : Function where
  parameters := [int]
  result := .copied sample
  run := fun (n, ()) => pure { Widget.default with number := n }

/-- Whether two shared instances are one. -/
def sameRef : Function where
  parameters := [.shared sample, .shared sample]
  result := .integer .u8
  run := fun (a, b, ()) =>
    let a : Ref sample := a
    let b : Ref sample := b
    pure (if a.cell == b.cell then (1 : UInt8) else (0 : UInt8))

/-- A copied instance with a number one higher. -/
def passVal : Function where
  parameters := [.copied sample]
  result := .copied sample
  run := fun (widget, ()) =>
    let widget : Widget := widget
    pure { widget with number := widget.number + 1 }

/-! ### All functions -/

/-- The functions that give their argument back, by name. -/
def identities : List (String × Function) :=
  [("id_i8", identity (.integer .i8)), ("id_u8", identity (.integer .u8)),
    ("id_i16", identity (.integer .i16)), ("id_u16", identity (.integer .u16)),
    ("id_i32", identity (.integer .i32)), ("id_u32", identity (.integer .u32)),
    ("id_i64", identity (.integer .i64)), ("id_u64", identity (.integer .u64)),
    ("id_f32", identity .f32), ("id_f64", identity .f64), ("id_char", identity .char),
    ("id_string", identity .string), ("id_pointer", identity .pointer),
    ("id_level", identity (.enumeration level)), ("id_mode", identity (.enumeration mode)),
    ("id_huge", identity (.enumeration huge)), ("id_buffer", identity .stringBuffer),
    ("bad_char", identity (.integer .u32)), ("pass_ref", identity (.shared sample))]

/-- The functions that call native code, by name. -/
def callers : List (String × Function) :=
  [("call0", ⟨[.string], int, fun (name, ()) => callNamed name []⟩),
    ("call_handle", ⟨[.string, .pointer], int, fun (name, handle, ()) =>
      callNamed name [.pointer handle]⟩),
    ("raw0", ⟨[.string], int, fun (name, ()) => do
      let n ← rawCallNamed name []
      pure n.toInt32⟩),
    ("churn", ⟨[int], int, fun (count, ()) => churn count⟩)]

/-- The functions that are there for their signatures, by name. -/
def signatures : List (String × Function) :=
  [("ptr_i32", signatureOnly [.pointer, int] .unit),
    ("ptr_to_i32", signatureOnly [.pointer] int),
    ("ptr_to_string", signatureOnly [.pointer] .string),
    ("ptr_string", signatureOnly [.pointer, .string] .unit),
    ("to_pointer", signatureOnly [] .pointer)]

/-- All host functions with static signatures, by name. -/
def typedFunctions : List (String × Function) :=
  identities ++ callers ++ signatures ++
    [("unit", unitFunction), ("answer", answer), ("neg_i8", negate), ("add", add),
      ("sub_f64", subtract), ("half_f32", half), ("mix", mix), ("sum4", sumOfFour),
      ("sum8", sumOfEight), ("join5", joinFive), ("pick6", pick), ("join7", joinSeven),
      ("rev", reversed), ("greet", greet), ("len", textLength), ("code", codePoint),
      ("next_level", nextLevel), ("fill", fill), ("append", append), ("wipe", wipe),
      ("buf_info", bufferInfo), ("two_bufs", exchangeBuffers), ("make_buffer", makeBuffer),
      ("with_nul", textWithNul), ("panic_str", panicFixed), ("panic_string", panicText),
      ("panic_other", panicOther), ("panic_buffer", panicBuffer), ("void_param", ofUnit),
      ("take_ref", takeRef), ("take_val", takeVal), ("make_ref", makeRef),
      ("make_val", makeVal), ("same_ref", sameRef), ("pass_val", passVal)]

/-- The host function of a name. -/
def typedFunction? (name : String) : Option Function :=
  typedFunctions.lookup name

end NativeBridge.Workbench
