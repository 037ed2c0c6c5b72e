/-
Module: NativeBridge.World
Purpose: Everything a call can see and change: native memory, the pending fault, host data, handle
  registries and the code at native addresses.
Main exports: Handler, Closure, NativeCode, World, World.raise, World.isolate, World.addCode,
  World.codeAt?
-/
import NativeBridge.Member
import NativeBridge.Memory

namespace NativeBridge

variable {κ : Type}

/-!
Host code that native code called cannot fail through native frames.  Its failure is parked as the
pending fault, and the host code that started the native call collects it.  Only the first fault of
a native call is kept.  `isolate` gives a call a clean slot and puts back what was pending before.
-/

/-- The host code behind a native closure. -/
inductive Handler (κ : Type) [HostProgram κ] where
  /-- A function of the argument values. -/
  | function (body : List (Value κ) → Code κ)
  /-- A member, whose receiver is the first argument value unless it is static. -/
  | member (dispatch : Dispatch) (target : Member κ)

/-- A host function at a native address. -/
structure Closure (κ : Type) [HostProgram κ] where
  type : CallableType κ
  label : String
  plan : MarshalPlan κ
  /-- The registry that handles are looked up in, for plans that have any. -/
  registry : Option Nat
  handler : Handler κ
  /-- The addresses of the texts returned so far, latest first. -/
  returned : List UInt64

/-- What a call to a native address runs. -/
inductive NativeCode (κ : Type) [HostProgram κ] where
  /-- Host code behind a closure. -/
  | closure (entry : Closure κ)
  /-- A function that only touches native memory, with the types it takes. -/
  | foreign (parameters : List AbiType) (run : List RawValue → Memory → RawValue × Memory)

/-- The state of the whole process. -/
structure World (κ : Type) [HostProgram κ] where
  memory : Memory
  pending : Option Error
  types : TypeCache κ
  heap : Heap κ
  registries : Array (Registry κ)
  code : Array (NativeCode κ)
  globals : HostProgram.Globals κ

namespace World

variable [HostProgram κ]

/-- A process in which nothing has happened. -/
def initial (globals : HostProgram.Globals κ) : World κ where
  memory := .empty
  pending := none
  types := .empty
  heap := .empty
  registries := #[]
  code := #[]
  globals := globals

/-! ### Faults -/

/-- Park a fault, unless one is pending. -/
def raise (world : World κ) (error : Error) : World κ :=
  { world with pending := world.pending.or (some error) }

/-- Take the pending fault. -/
def takeFault (world : World κ) : Option Error × World κ :=
  (world.pending, { world with pending := none })

/-- Run something with no fault pending.  The fault it raised is its third result, and what was
pending before is pending again. -/
def isolate {α : Type} (run : World κ → α × World κ) (world : World κ) :
    α × Option Error × World κ :=
  let (outer, world) := world.takeFault
  let (result, world) := run world
  let (inner, world) := world.takeFault
  (result, inner, { world with pending := outer })

/-! ### Code addresses -/

/-- The address of the first piece of code. -/
def codeBase : Nat := 0x400000000000

/-- The distance between the addresses of two pieces of code. -/
def codeStride : Nat := 16

/-- The address of a piece of code. -/
def codeAddress (index : Nat) : UInt64 :=
  UInt64.ofNat (codeBase + codeStride * index)

/-- The piece of code an address belongs to. -/
def codeIndex? (address : UInt64) : Option Nat :=
  if codeBase ≤ address.toNat ∧ (address.toNat - codeBase) % codeStride = 0 then
    some ((address.toNat - codeBase) / codeStride)
  else none

/-- The code at an address. -/
def codeAt? (world : World κ) (address : UInt64) : Option (NativeCode κ) :=
  (codeIndex? address).bind fun index => world.code[index]?

/-- The closure at an address. -/
def closureAt? (world : World κ) (address : UInt64) : Option (Closure κ) :=
  match world.codeAt? address with
  | some (.closure entry) => some entry
  | _ => none

/-- Put code at a new address. -/
def addCode (world : World κ) (code : NativeCode κ) : UInt64 × World κ :=
  (codeAddress world.code.size, { world with code := world.code.push code })

/-- Note a text that the closure at an address has returned. -/
def noteReturned (world : World κ) (closure text : UInt64) : World κ :=
  match codeIndex? closure with
  | some index =>
      { world with
        code := world.code.modify index fun
          | .closure entry => .closure { entry with returned := text :: entry.returned }
          | other => other }
  | none => world

/-! ### Registries and types -/

/-- A registry of the process. -/
def registry (world : World κ) (id : Nat) : Registry κ :=
  world.registries.getD id .empty

/-- Replace a registry of the process. -/
def setRegistry (world : World κ) (id : Nat) (registry : Registry κ) : World κ :=
  { world with registries := world.registries.setIfInBounds id registry }

/-- Add an empty registry. -/
def addRegistry (world : World κ) : Nat × World κ :=
  (world.registries.size, { world with registries := world.registries.push .empty })

/-- The callable type of a signature. -/
def internType (world : World κ) (signature : Signature κ) :
    Except CallableError (CallableType κ × World κ) :=
  (world.types.intern signature).map fun (type, types) => (type, { world with types := types })

/-- Give out a handle of a registry. -/
def allocateHandle (world : World κ) (id : Nat) (object : HostObject κ) : UInt64 × World κ :=
  let (handle, registry) := (world.registry id).allocate object
  (handle, world.setRegistry id registry)

/-- Give a handle back to a registry. -/
def releaseHandle (world : World κ) (id : Nat) (handle : UInt64) :
    Except HandleError Unit × World κ :=
  match (world.registry id).release handle with
  | .ok registry => (.ok (), world.setRegistry id registry)
  | .error error => (.error error, world)

/-- Copy bytes to native memory, terminated. -/
def allocateCString (world : World κ) (bytes : List UInt8) : UInt64 × World κ :=
  let (address, memory) := world.memory.allocateCString bytes
  (address, { world with memory := memory })

end World

end NativeBridge
