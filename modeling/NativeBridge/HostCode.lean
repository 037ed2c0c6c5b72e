/-
Module: NativeBridge.HostCode
Purpose: The bodies of host functions as programs that ask for one effect at a time.
Main exports: ForeignFunction, Code, Host, HostFunction, HostFunction.body
-/
import NativeBridge.Marshal
import NativeBridge.Registry

namespace NativeBridge

/-!
Host code is any program of the host.  What it can do to the world is fixed here: read and change
the data its functions share, make string buffers and instances, borrow instances and work on those
it has borrowed, call native functions, and use a handle registry.  It ends with a result, or it
panics.  Everything else it computes on its own, in the continuation of each request.

The programs are well-founded: every run of a body makes finitely many requests.
-/

variable {κ : Type}

/-- A native function callable from host code: an address and the type it is called at. -/
structure ForeignFunction (κ : Type) where
  address : UInt64
  type : CallableType κ
deriving Repr, Inhabited, DecidableEq

/-- A host program, as the next request it makes and what it does with the answer. -/
inductive Code (κ : Type) [HostProgram κ] : Type where
  /-- End with a value or an error. -/
  | done (result : Except Error (Value κ))
  /-- End by panicking, with a text or with something that is none. -/
  | panic (message : Option String)
  /-- Read the shared data. -/
  | readGlobals (next : HostProgram.Globals κ → Code κ)
  /-- Replace the shared data. -/
  | writeGlobals (globals : HostProgram.Globals κ) (next : Code κ)
  /-- Make a string buffer. -/
  | newBuffer (text : String) (capacity : Nat) (next : StringBuffer → Code κ)
  /-- Read the text of a buffer. -/
  | readBuffer (buffer : StringBuffer) (next : String → Code κ)
  /-- Replace the text of a buffer. -/
  | writeBuffer (buffer : StringBuffer) (text : String) (next : Code κ)
  /-- Make an instance. -/
  | newObject (type : ObjectType κ) (state : HostProgram.State type.key)
      (next : HostObject κ → Code κ)
  /-- Try to borrow an instance, to read it or to change it. -/
  | borrow (object : HostObject κ) (exclusive : Bool) (next : Bool → Code κ)
  /-- Give up the latest borrow of an instance. -/
  | endBorrow (object : HostObject κ) (next : Code κ)
  /-- Read an instance that this code has borrowed. -/
  | readObject (object : HostObject κ) (key : κ)
      (next : Option (HostProgram.State key) → Code κ)
  /-- Change an instance that this code has borrowed exclusively. -/
  | writeObject (object : HostObject κ) (key : κ) (state : HostProgram.State key)
      (next : Code κ)
  /-- Read the instance the running member was called on. -/
  | readReceiver (key : κ) (next : Option (HostProgram.State key) → Code κ)
  /-- Change the instance the running member was called on. -/
  | writeReceiver (key : κ) (state : HostProgram.State key) (next : Code κ)
  /-- Read values as a parameter tuple. -/
  | unmarshal (types : List (MarshalType κ)) (values : List (Value κ))
      (next : Except MarshalError (Tuple types) → Code κ)
  /-- Turn a carried value into a host value. -/
  | marshal (type : MarshalType κ) (carried : Carrier type) (next : Value κ → Code κ)
  /-- Call a native function with host values. -/
  | call (function : ForeignFunction κ) (args : List (Value κ))
      (next : Except Error (Value κ) → Code κ)
  /-- Call a native function with raw values. -/
  | callRaw (function : ForeignFunction κ) (args : List RawValue)
      (next : Except MarshalError RawValue → Code κ)
  /-- Copy a text to native memory, terminated. -/
  | nativeText (text : String) (next : UInt64 → Code κ)
  /-- Get a handle for an object from a registry. -/
  | allocateHandle (registry : Nat) (object : HostObject κ) (next : UInt64 → Code κ)
  /-- Look a handle up in a registry. -/
  | resolveHandle (registry : Nat) (handle : UInt64)
      (next : Except HandleError (HostObject κ) → Code κ)
  /-- Give a handle back to a registry. -/
  | releaseHandle (registry : Nat) (handle : UInt64) (next : Except HandleError Unit → Code κ)

variable [HostProgram κ]

/-- A stretch of host code that yields a result to the code after it. -/
def Host (κ : Type) [HostProgram κ] (α : Type) : Type := (α → Code κ) → Code κ

namespace Host

variable {α β : Type}

instance : Monad (Host κ) where
  pure a := fun next => next a
  bind m f := fun next => m fun a => f a next

/-- Stop everything with a panic. -/
def panic (message : String) : Host κ α := fun _ => .panic (some message)

/-- Stop everything with a panic whose payload is no text. -/
def panicWithoutText : Host κ α := fun _ => .panic none

/-- End with an error. -/
def fail (error : Error) : Host κ α := fun _ => .done (.error error)

/-- Go on with a value or end with an error. -/
def ofExcept : Except Error α → Host κ α
  | .ok a => pure a
  | .error error => fail error

/-- The shared data. -/
def globals : Host κ (HostProgram.Globals κ) := fun next => .readGlobals next

/-- Replace the shared data. -/
def setGlobals (globals : HostProgram.Globals κ) : Host κ Unit :=
  fun next => .writeGlobals globals (next ())

/-- A new string buffer. -/
def newBuffer (text : String) (capacity : Nat) : Host κ StringBuffer :=
  fun next => .newBuffer text capacity next

/-- The text of a buffer. -/
def bufferText (buffer : StringBuffer) : Host κ String :=
  fun next => .readBuffer buffer next

/-- Replace the text of a buffer. -/
def setBufferText (buffer : StringBuffer) (text : String) : Host κ Unit :=
  fun next => .writeBuffer buffer text (next ())

/-- A new instance of a class, used with some semantics. -/
def newObject (type : ObjectType κ) (state : HostProgram.State type.key) :
    Host κ (HostObject κ) :=
  fun next => .newObject type state next

/-- A new shared instance. -/
def newRef {key : κ} (state : HostProgram.State key) : Host κ (Ref key) :=
  fun next => .newObject ⟨key, .reference⟩ state fun object => next ⟨object.cell⟩

/-- The state of a shared instance, unless somebody writes to it. -/
def inspect {key : κ} (ref : Ref key) : Host κ (Option (HostProgram.State key)) :=
  fun next => .borrow ref.object false fun borrowed =>
    if borrowed then
      .readObject ref.object key fun state => .endBorrow ref.object (next state)
    else next none

/-- Change a shared instance, unless somebody holds it; tells whether it was changed. -/
def modify {key : κ} (ref : Ref key) (change : HostProgram.State key → HostProgram.State key) :
    Host κ Bool :=
  fun next => .borrow ref.object true fun borrowed =>
    if borrowed then
      .readObject ref.object key fun
        | some state =>
            .writeObject ref.object key (change state) (.endBorrow ref.object (next true))
        | none => .endBorrow ref.object (next false)
    else next false

/-- Call a native function with host values. -/
def call (function : ForeignFunction κ) (args : List (Value κ)) :
    Host κ (Except Error (Value κ)) :=
  fun next => .call function args next

/-- Call a native function with raw values. -/
def callRaw (function : ForeignFunction κ) (args : List RawValue) :
    Host κ (Except MarshalError RawValue) :=
  fun next => .callRaw function args next

/-- Copy a text to native memory, terminated. -/
def nativeText (text : String) : Host κ UInt64 := fun next => .nativeText text next

/-- The code of a stretch that yields a carried value, which becomes the result. -/
def returning (type : MarshalType κ) (body : Host κ (Carrier type)) : Code κ :=
  body fun carried => .marshal type carried fun value => .done (.ok value)

/-- The code that reads its arguments as a tuple and goes on with the tuple. -/
def receiving (types : List (MarshalType κ)) (args : List (Value κ))
    (body : Tuple types → Code κ) : Code κ :=
  .unmarshal types args fun
    | .ok tuple => body tuple
    | .error error => .done (.error error)

end Host

/-- A host function with a static signature. -/
structure HostFunction (κ : Type) [HostProgram κ] where
  parameters : List (MarshalType κ)
  result : MarshalType κ
  run : Tuple parameters → Host κ (Carrier result)

namespace HostFunction

/-- The signature of a host function. -/
def signature (function : HostFunction κ) : Signature κ :=
  .ofMarshal function.parameters function.result

/-- The code of a host function on a list of argument values. -/
def body (function : HostFunction κ) (args : List (Value κ)) : Code κ :=
  Host.receiving function.parameters args fun tuple =>
    Host.returning function.result (function.run tuple)

end HostFunction

end NativeBridge
