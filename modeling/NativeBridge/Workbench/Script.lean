/-
Module: NativeBridge.Workbench.Script
Purpose: Closures whose behaviour is written down step by step, and native code for trying calls
  from the host.
Main exports: Script, Script.body, ForeignCode, ForeignCode.place
-/
import NativeBridge.Workbench.Functions
import NativeBridge.Workbench.Operand

namespace NativeBridge.Workbench

/-! ### Scripted closures -/

/-- A change of a buffer that is an argument: replace its text, or continue it. -/
structure Edit where
  argument : Nat
  text : String
  continues : Bool
deriving Repr, Inhabited, DecidableEq

/-- A call that a scripted closure makes. -/
structure ScriptCall where
  function : String
  args : List Operand
  /-- Whether the call goes with raw values. -/
  raw : Bool
  /-- What to use instead if the call fails. -/
  fallback : Option Operand
deriving Repr, Inhabited

/-- What a scripted closure does, in the order of the fields.  The first of the last four that is
there ends it; without any, the call's result does, or nothing. -/
structure Script where
  edits : List Edit
  call : Option ScriptCall
  error : Option Error
  panic : Option String
  object : Option (ObjectType Key)
  result : Option Operand
deriving Repr, Inhabited

/-- A value as a closure sees it; instances are borrowed for a look at them. -/
def snapshotInHost (value : Value Key) : Host Key Snapshot := do
  let globals ← (Host.globals : Host Key Globals)
  match value with
  | .stringBuffer buffer => do
      let text ← Host.bufferText buffer
      pure (.stringBuffer text buffer.capacity)
  | .object ⟨cell, ⟨.widget kind, semantics⟩⟩ => do
      let state ← (Host.inspect (⟨cell⟩ : Ref (Key.widget kind)) : Host Key (Option Widget))
      pure (.object ⟨.widget kind, semantics⟩ (state.elim .busy .widget))
  | .object ⟨_, ⟨.shape, semantics⟩⟩ => pure (.object ⟨.shape, semantics⟩ .hidden)
  | other => pure (.of globals .empty other)

/-- Values as a closure sees them. -/
def snapshotsInHost : List (Value Key) → Host Key (List Snapshot)
  | [] => pure []
  | value :: rest => do
      let first ← snapshotInHost value
      let others ← snapshotsInHost rest
      pure (first :: others)

/-- Change a buffer among the arguments. -/
def Edit.perform (edit : Edit) (args : List (Value Key)) : Host Key Unit :=
  match args[edit.argument]? with
  | some (.stringBuffer buffer) => do
      let before ← Host.bufferText buffer
      Host.setBufferText buffer (if edit.continues then before ++ edit.text else edit.text)
  | _ => pure ()

/-- Make a call and give its result or its failure. -/
def ScriptCall.attempt (call : ScriptCall) (args : List (Value Key)) :
    Host Key (Except Error (Value Key)) := do
  let function ← namedFunction call.function
  let values ← Operand.inHostAll args call.args
  if call.raw then do
    let raws ← toRawInHostAll values
    match ← Host.callRaw function raws with
    | .error error => pure (.error error)
    | .ok raw =>
        pure ((Value.fromRaw raw function.type.signature.result).mapError Error.marshal)
  else Host.call function values

/-- Make a call for its value; a failure without a fallback ends the closure. -/
def ScriptCall.perform (call : ScriptCall) (args : List (Value Key)) : Host Key (Value Key) := do
  match ← call.attempt args with
  | .ok value => pure value
  | .error error =>
      match call.fallback with
      | some operand => operand.inHost args
      | none => Host.fail error

/-- The state that an instance of a class has at first. -/
def initialState : (key : Key) → HostProgram.State key
  | .widget _ => Widget.default
  | .shape => (default : Shape)

/-- What a scripted closure ends with. -/
def Script.finish (script : Script) (args : List (Value Key)) (value : Value Key) :
    Host Key (Value Key) :=
  match script.error, script.panic, script.object, script.result with
  | some error, _, _, _ => Host.fail error
  | none, some message, _, _ => Host.panic message
  | none, none, some type, _ => do
      let target ← Host.newObject type (initialState type.key)
      pure (.object target)
  | none, none, none, some operand => operand.inHost args
  | none, none, none, none => pure value

/-- The code of a scripted closure: it notes its arguments first. -/
def Script.body (script : Script) (args : List (Value Key)) : Code Key :=
  let run : Host Key (Value Key) := do
    let shown ← snapshotsInHost args
    let globals ← (Host.globals : Host Key Globals)
    Host.setGlobals (globals.noteHost (.arguments shown))
    script.edits.forM fun edit => edit.perform args
    let value ←
      match script.call with
      | some call => call.perform args
      | none => pure .void
    script.finish args value
  run fun value => .done (.ok value)

/-! ### Native code -/

/-- The functions of the workbench that are native from the start. -/
inductive ForeignCode where
  /-- The sum of two integers. -/
  | add
  /-- Put a C string in upper case. -/
  | upper
  /-- Write a number of letters, and no terminator. -/
  | fill
  /-- Write bytes that are not UTF-8, and no terminator. -/
  | latin
  /-- The null address. -/
  | nowhere
  /-- The address of a C string that is not UTF-8. -/
  | text
  /-- A number that is no character. -/
  | surrogate
  /-- A number that is no level. -/
  | byte
deriving Repr, Inhabited, DecidableEq

/-- The types that native code takes. -/
def ForeignCode.parameters : ForeignCode → List AbiType
  | add => [.integer .i32, .integer .i32]
  | upper | latin => [.pointer]
  | fill => [.pointer, .integer .i32]
  | nowhere | text | surrogate | byte => []

/-- The address among raw arguments at an index. -/
def addressAt (args : List RawValue) (index : Nat) : UInt64 :=
  match args[index]? with
  | some (.pointer address) => address
  | _ => 0

/-- The 32-bit integer among raw arguments at an index. -/
def integerAt (args : List RawValue) (index : Nat) : Int32 :=
  match args[index]? with
  | some (.integer .i32 n) => n
  | _ => 0

/-- The upper case of a byte that is an ASCII letter. -/
def upperByte (byte : UInt8) : UInt8 :=
  if 0x61 ≤ byte ∧ byte ≤ 0x7A then byte - 0x20 else byte

/-- The bytes of the C string that native code gives out. -/
def foreignText : List UInt8 := [0x6F, 0x6B, 0xFF, 0xC3, 0x28, 0xE2, 0x82, 0x21]

/-- Run native code, given the address of the C string it gives out. -/
def ForeignCode.run (code : ForeignCode) (place : UInt64) (args : List RawValue)
    (memory : Memory) : RawValue × Memory :=
  match code with
  | .add => (.integer .i32 (integerAt args 0 + integerAt args 1 : Int32), memory)
  | .upper =>
      let address := addressAt args 0
      (.void, memory.writeAll address.toNat ((memory.cString address).map upperByte))
  | .fill =>
      let count := (integerAt args 1).toInt.toNat
      (.void, memory.writeAll (addressAt args 0).toNat (List.replicate count 0x78))
  | .latin => (.void, memory.writeAll (addressAt args 0).toNat [0x61, 0xE9, 0x62])
  | .nowhere => (.pointer 0, memory)
  | .text => (.pointer place, memory)
  | .surrogate => (.integer .u32 (0xD800 : UInt32), memory)
  | .byte => (.integer .u8 (0xFE : UInt8), memory)

/-- Put native code at an address of the process. -/
def ForeignCode.place (code : ForeignCode) (world : World Key) : UInt64 × World Key :=
  let (place, world) := world.allocateCString foreignText
  world.addCode (.foreign code.parameters (code.run place))

end NativeBridge.Workbench
