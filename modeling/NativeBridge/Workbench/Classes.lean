/-
Module: NativeBridge.Workbench.Classes
Purpose: The host classes, enumerations and shared data of a small program for trying the bridge.
Main exports: WidgetClass, Key, Widget, Shape, level, mode, huge, Snapshot, Globals
-/
import NativeBridge.FloatingPoint
import NativeBridge.HostCode

namespace NativeBridge.Workbench

/-!
The workbench is a host program with two sorts of classes.  The widget classes all have the same
state and differ in their names, which are chosen to be awkward in symbols; two of them share a name.
The shape class has states of two forms.

Everything that has a name in the workbench is kept in its shared data, where host functions find
it: instances, buffers, native buffers, functions and saved values, and what was logged so far.
-/

/-- The classes whose states are widgets. -/
inductive WidgetClass where
  | testClass
  | twin
  | httpServer
  | xmlHttp
  | strasse
  | izmir
  | sisyphos
  | digit
  | empty
  | space
  | under
deriving Repr, Inhabited, DecidableEq

/-- The classes of the workbench. -/
inductive Key where
  | widget (kind : WidgetClass)
  | shape
deriving Repr, Inhabited, DecidableEq

/-- The name of a widget class. -/
def WidgetClass.name : WidgetClass → String
  | testClass | twin => "TestClass"
  | httpServer => "HttpServer"
  | xmlHttp => "XMLHttpRequest"
  | strasse => "Straße"
  | izmir => "İzmir"
  | sisyphos => "ΣΊΣΥΦΟΣ"
  | digit => "2D"
  | empty => ""
  | space => "has space"
  | under => "_snake_Case9"

/-- All widget classes. -/
def WidgetClass.all : List WidgetClass :=
  [testClass, twin, httpServer, xmlHttp, strasse, izmir, sisyphos, digit, empty, space, under]

/-- The word that stands for a widget class; unlike its name it belongs to no other class. -/
def WidgetClass.word : WidgetClass → String
  | testClass => "TestClass"
  | twin => "Twin"
  | httpServer => "HttpServer"
  | xmlHttp => "XmlHttp"
  | strasse => "Strasse"
  | izmir => "Izmir"
  | sisyphos => "Sisyphos"
  | digit => "Digit"
  | empty => "Empty"
  | space => "Space"
  | under => "Under"

/-- The class that a word stands for. -/
def Key.ofWord? (word : String) : Option Key :=
  if word == "Shape" then some shape
  else (WidgetClass.all.find? fun kind => kind.word == word).map widget

/-- The name of a class. -/
def Key.name : Key → String
  | widget kind => kind.name
  | shape => "Shape"

/-! ### Enumerations -/

/-- An enumeration over a narrow unsigned integer. -/
def level : EnumSpec := ⟨"Level", .u8, [1, 5, 9]⟩

/-- An enumeration over a signed integer, with a negative discriminant. -/
def mode : EnumSpec := ⟨"Mode", .i32, [-1, 0, 2147483647]⟩

/-- An enumeration over the widest unsigned integer. -/
def huge : EnumSpec := ⟨"Huge", .u64, [1, 18446744073709551615]⟩

/-- A variant of the level enumeration. -/
abbrev Level : Type := Fin 3

/-- The discriminant of a level. -/
def Level.number (variant : Level) : UInt8 :=
  level.discriminants[variant]

/-! ### States -/

/-- The state of an instance of a widget class. -/
structure Widget where
  number : Int32
  text : String
  ratio : F64
  level : Level
deriving Repr, DecidableEq

/-- The state a widget has unless something else is asked for. -/
def Widget.default : Widget := ⟨42, "hello!", F64.one, 0⟩

instance : Inhabited Widget := ⟨Widget.default⟩

/-- The state of an instance of the shape class. -/
inductive Shape where
  | square (side : F64)
  | circle (radius : F64)
deriving Repr, DecidableEq

instance : Inhabited Shape := ⟨.square F64.one⟩

/-- The type of the states of a class. -/
@[reducible] def Key.State : Key → Type
  | widget _ => Widget
  | shape => Shape

/-! ### What is seen and logged -/

/-- How a pointer is shown. -/
inductive PointerView where
  /-- The address of a named native buffer. -/
  | buffer (name : String)
  /-- An address of the machine. -/
  | machine
  | number (n : UInt64)
deriving Repr, Inhabited, DecidableEq

/-- How the state of an instance is shown. -/
inductive StateView where
  | widget (state : Widget)
  /-- The state of a shape is not shown. -/
  | hidden
  /-- Somebody writes to the instance. -/
  | busy
deriving Repr, Inhabited, DecidableEq

/-- A value as it was at one moment. -/
inductive Snapshot where
  | void
  | pointer (view : PointerView)
  | integer (type : IntegerType) (n : type.Word)
  | char (c : Char)
  | f32 (x : F32)
  | f64 (x : F64)
  | string (text : String)
  | stringBuffer (text : String) (capacity : Nat)
  | object (type : ObjectType Key) (state : StateView)
deriving Repr, Inhabited

/-- What scripted closures and diagnostic handlers note. -/
inductive HostNote where
  | arguments (values : List Snapshot)
  | diagnostic (text : String)
deriving Repr, Inhabited

/-- A detail of a compiler's note. -/
inductive NoteItem where
  | text (text : String)
  | texts (texts : List String)
  | absent
deriving Repr, Inhabited, DecidableEq

/-- What a compiler notes of a call it gets. -/
structure ServiceNote where
  call : String
  details : List NoteItem
deriving Repr, Inhabited, DecidableEq

/-! ### Shared data -/

/-- A table of named things; a name stands for what it was given last. -/
structure Names (α : Type) where
  entries : List (String × α)

namespace Names

variable {α : Type}

/-- No name. -/
def empty : Names α := ⟨[]⟩

/-- What a name stands for. -/
def find? (names : Names α) (name : String) : Option α :=
  names.entries.lookup name

/-- Forget a name. -/
def erase (names : Names α) (name : String) : Names α :=
  ⟨names.entries.filter fun entry => entry.1 != name⟩

/-- Give a name to something. -/
def set (names : Names α) (name : String) (a : α) : Names α :=
  ⟨(name, a) :: (names.erase name).entries⟩

/-- All that has a name. -/
def values (names : Names α) : List α :=
  names.entries.map Prod.snd

end Names

/-- The data that all code of the workbench shares. -/
structure Globals where
  /-- The slots of static members. -/
  sharedNumber : Int32
  sharedText : String
  objects : Names (HostObject Key)
  buffers : Names StringBuffer
  nativeBuffers : Names (UInt64 × Nat)
  functions : Names (ForeignFunction Key)
  saved : Names (Value Key)
  hostNotes : List HostNote
  serviceNotes : List ServiceNote

/-- The shared data at the start. -/
def Globals.initial : Globals where
  sharedNumber := 7
  sharedText := "shared"
  objects := .empty
  buffers := .empty
  nativeBuffers := .empty
  functions := .empty
  saved := .empty
  hostNotes := []
  serviceNotes := []

@[reducible] instance : HostProgram Key where
  decEq := inferInstance
  className := Key.name
  State := Key.State
  Globals := Globals

/-- Note something a host function saw. -/
def Globals.noteHost (globals : Globals) (note : HostNote) : Globals :=
  { globals with hostNotes := globals.hostNotes ++ [note] }

/-- Note a call that a compiler got. -/
def Globals.noteService (globals : Globals) (note : ServiceNote) : Globals :=
  { globals with serviceNotes := globals.serviceNotes ++ [note] }

/-! ### Taking snapshots -/

/-- How a pointer is shown: as the native buffer it is, as an address of the machine, or as the
number it is. -/
def PointerView.of (globals : Globals) (address : UInt64) : PointerView :=
  match globals.nativeBuffers.entries.find? fun entry => entry.2.1 == address with
  | some (name, _) => .buffer name
  | none =>
      if UInt32.size ≤ address.toNat ∧ 0 ≤ address.toInt64.toInt then .machine
      else .number address

/-- How the state of an instance is shown. -/
def StateView.of (heap : Heap Key) (object : HostObject Key) : StateView :=
  match heap.readObject object with
  | .error _ => .busy
  | .ok ⟨.widget _, state, _⟩ => .widget state
  | .ok ⟨.shape, _, _⟩ => .hidden

/-- A value as it is now. -/
def Snapshot.of (globals : Globals) (heap : Heap Key) : Value Key → Snapshot
  | .void => .void
  | .pointer address => .pointer (.of globals address)
  | .integer type n => .integer type n
  | .char c => .char c
  | .f32 x => .f32 x
  | .f64 x => .f64 x
  | .string text => .string text
  | .stringBuffer buffer => .stringBuffer (heap.text buffer) buffer.capacity
  | .object target => .object target.type (.of heap target)

/-- A raw value as it is now. -/
def Snapshot.ofRaw (globals : Globals) : RawValue → Snapshot
  | .void => .void
  | .pointer address => .pointer (.of globals address)
  | .integer type n => .integer type n
  | .f32 x => .f32 x
  | .f64 x => .f64 x

end NativeBridge.Workbench
