/-
Module: NativeBridge.Workbench.Members
Purpose: The bodies that members of workbench classes can be given, and descriptions put together
  from them.
Main exports: constructorBody?, methodBody?, slot?, sharedSlot?, MemberRequest, describe,
  shapeDescription, sampleDescription
-/
import NativeBridge.Description
import NativeBridge.Workbench.Functions

namespace NativeBridge.Workbench

/-! ### Constructors -/

/-- What a constructor takes and the state it makes. -/
structure ConstructorBody where
  parameters : List (MarshalType Key)
  make : Tuple parameters → Host Key Widget

/-- The default state with a number and a text. -/
def widgetOf (number : Int32) (text : String) : Widget :=
  { Widget.default with number := number, text := text }

/-- The constructor of an integer of each type: it keeps one as a number and all as a text. -/
def ofAllIntegers : ConstructorBody where
  parameters := [.integer .i8, .integer .u8, .integer .i16, .integer .u16, .integer .i32,
    .integer .u32, .integer .i64, .integer .u64]
  make := fun (a, b, c, d, e, f, g, h, ()) =>
    pure (widgetOf e (String.intercalate ","
      [toString (IntegerType.toInt .i8 a), toString (IntegerType.toInt .u8 b),
        toString (IntegerType.toInt .i16 c), toString (IntegerType.toInt .u16 d),
        toString (IntegerType.toInt .i32 e), toString (IntegerType.toInt .u32 f),
        toString (IntegerType.toInt .i64 g), toString (IntegerType.toInt .u64 h)]))

/-- The constructor that takes a buffer's text and leaves another one. -/
def ofBuffer : ConstructorBody where
  parameters := [.stringBuffer]
  make := fun (buffer, ()) => do
    let text ← Host.bufferText buffer
    Host.setBufferText buffer "taken"
    pure { Widget.default with text := text }

/-- The constructor that copies a shared instance, unless somebody writes to it. -/
def ofRef (kind : WidgetClass) : ConstructorBody where
  parameters := [.shared (.widget kind)]
  make := fun (ref, ()) => do
    let state ← (Host.inspect ref : Host Key (Option Widget))
    pure (state.getD Widget.default)

/-- The constructors of a widget class, by name. -/
def constructorBodies (kind : WidgetClass) : List (String × ConstructorBody) :=
  [("default", ⟨[], fun _ => pure Widget.default⟩),
    ("num", ⟨[int], fun (n, ()) => pure { Widget.default with number := n }⟩),
    ("text", ⟨[.string], fun (text, ()) => pure { Widget.default with text := text }⟩),
    ("num_text", ⟨[int, .string], fun (n, text, ()) => pure (widgetOf n text)⟩),
    ("text_num", ⟨[.string, int], fun (text, n, ()) => pure (widgetOf n text)⟩),
    ("num_num", ⟨[int, int], fun (a, b, ()) =>
      pure { Widget.default with number := (a * b : Int32) }⟩),
    ("level", ⟨[.enumeration level], fun (variant, ()) =>
      pure { Widget.default with level := variant }⟩),
    ("ratio", ⟨[.f64], fun (x, ()) => pure { Widget.default with ratio := x }⟩),
    ("f32", ⟨[.f32], fun (x, ()) => pure { Widget.default with ratio := F32.toF64 x }⟩),
    ("char", ⟨[.char], fun (c, ()) =>
      pure { Widget.default with text := String.singleton c }⟩),
    ("buffer", ofBuffer),
    ("pointer", ⟨[.pointer], fun (address, ()) =>
      pure { Widget.default with number := (UInt64.toUInt32 address).toInt32 }⟩),
    ("of_ref", ofRef kind),
    ("of_val", ⟨[.copied (.widget kind)], fun (widget, ()) => pure widget⟩),
    ("full8", ofAllIntegers),
    ("panic", ⟨[int], fun (n, ()) =>
      Host.panic ("no instance " ++ toString (IntegerType.toInt .i32 n))⟩)]

/-- The constructor of a name. -/
def constructorBody? (kind : WidgetClass) (name : String) : Option ConstructorBody :=
  (constructorBodies kind).lookup name

/-! ### Methods -/

/-- What a method takes, what it gives, and what it does to the state it runs on. -/
structure MethodBody where
  parameters : List (MarshalType Key)
  result : MarshalType Key
  run : Widget → Tuple parameters → Host Key (Carrier result)

/-- Replace the state that the running method was called on. -/
def become (kind : WidgetClass) (widget : Widget) : Host Key Unit :=
  fun next => .writeReceiver (.widget kind) widget (next ())

/-- Give the state a new number, which is the method's result. -/
def becomeNumber (kind : WidgetClass) (widget : Widget) (n : Int32) : Host Key Int32 := do
  become kind { widget with number := n }
  pure n

/-- The method that adds the number of a shared instance, unless somebody writes to it. -/
def absorbRef (kind : WidgetClass) : MethodBody where
  parameters := [.shared (.widget kind)]
  result := int
  run := fun widget (ref, ()) => do
    let state ← (Host.inspect ref : Host Key (Option Widget))
    match state with
    | some other => becomeNumber kind widget (widget.number + other.number)
    | none => pure (-1 : Int32)

/-- The method that gives its own number to a shared instance, unless somebody holds it. -/
def pokeRef (kind : WidgetClass) : MethodBody where
  parameters := [.shared (.widget kind)]
  result := int
  run := fun widget (ref, ()) => do
    let ref : Ref (Key.widget kind) := ref
    let changed ← (Host.modify ref fun (other : Widget) => { other with number := widget.number } :
      Host Key Bool)
    pure (if changed then widget.number else (-1 : Int32))

/-- The method of seven parameters: it keeps one as its ratio and the others as a text. -/
def takeSeven (kind : WidgetClass) : MethodBody where
  parameters := [.integer .u8, .integer .i16, .char, .string, .f64, .enumeration level,
    .integer .u64]
  result := .string
  run := fun widget (a, b, c, d, e, f, g, ()) => do
    let text := String.intercalate "/"
      [toString (IntegerType.toInt .u8 a), toString (IntegerType.toInt .i16 b),
        String.singleton c, d, toString (Level.number f).toNat,
        toString (IntegerType.toInt .u64 g)]
    become kind { widget with text := text, ratio := e }
    pure text

/-- The method of eight parameters: its number is multiplied by three and one of them is added, for
each of them in turn. -/
def takeEight (kind : WidgetClass) : MethodBody where
  parameters := [int, int, int, int, int, int, int, int]
  result := int
  run := fun widget (a, b, c, d, e, f, g, h, ()) =>
    let values : List Int32 := [a, b, c, d, e, f, g, h]
    becomeNumber kind widget (values.foldl (fun n v => n * 3 + v) widget.number)

/-- The method that puts its text at the end of a buffer. -/
def writeTo : MethodBody where
  parameters := [.stringBuffer]
  result := .integer .u32
  run := fun widget (buffer, ()) => do
    let before ← Host.bufferText buffer
    Host.setBufferText buffer (before ++ widget.text)
    pure (byteLength (before ++ widget.text))

/-- The method that makes instances and counts them. -/
def churnMethod (kind : WidgetClass) : MethodBody where
  parameters := [int]
  result := int
  run := fun widget (count, ()) => do
    become kind { widget with number := (widget.number + count : Int32) }
    churn count

/-- The methods of a widget class, by name. -/
def methodBodies (kind : WidgetClass) : List (String × MethodBody) :=
  [("describe", ⟨[], .string, fun widget _ =>
      pure (toString widget.number.toInt ++ ":" ++ widget.text)⟩),
    ("reset", ⟨[], .unit, fun _ _ => become kind Widget.default⟩),
    ("add", ⟨[int], int, fun widget (a, ()) => becomeNumber kind widget (widget.number + a)⟩),
    ("add2", ⟨[int, int], int, fun widget (a, b, ()) =>
      becomeNumber kind widget (widget.number + a + b)⟩),
    ("swap_level", ⟨[.enumeration level], .enumeration level, fun widget (variant, ()) => do
      become kind { widget with level := variant }
      pure widget.level⟩),
    ("write_to", writeTo),
    ("absorb_ref", absorbRef kind),
    ("poke_ref", pokeRef kind),
    ("absorb_val", ⟨[.copied (.widget kind)], int, fun widget (other, ()) =>
      becomeNumber kind widget (widget.number + (other : Widget).number)⟩),
    ("dup_ref", ⟨[], .shared (.widget kind), fun widget _ =>
      (Host.newRef widget : Host Key (Ref (Key.widget kind)))⟩),
    ("dup_val", ⟨[], .copied (.widget kind), fun widget _ => pure widget⟩),
    ("nul_text", ⟨[], .string, fun widget _ => pure (widget.text ++ "\x00")⟩),
    ("panic", ⟨[], int, fun widget _ => do
      become kind { widget with number := -77 }
      Host.panic "method failed"⟩),
    ("args7", takeSeven kind),
    ("args8", takeEight kind),
    ("call_self", ⟨[.string, .pointer], int, fun widget (name, handle, ()) => do
      let n ← callNamed name [.pointer handle]
      becomeNumber kind widget n⟩),
    ("raw_self", ⟨[.string, .pointer], .integer .i64, fun _ (name, handle, ()) =>
      rawCallNamed name [.pointer handle]⟩),
    ("churn", churnMethod kind)]

/-- The method of a name. -/
def methodBody? (kind : WidgetClass) (name : String) : Option MethodBody :=
  (methodBodies kind).lookup name

/-! ### Slots -/

/-- A part of the state that an accessor reads and writes. -/
structure Slot where
  value : MarshalType Key
  get : Widget → Host Key (Carrier value)
  set : Widget → Carrier value → Host Key Widget

/-- The slot that reads as a small buffer and takes the text of one. -/
def bufferSlot : Slot where
  value := .stringBuffer
  get := fun widget => Host.newBuffer widget.text 3
  set := fun widget buffer => do
    let text ← Host.bufferText buffer
    Host.setBufferText buffer "read"
    pure { widget with text := text }

/-- The slots of a widget class, by name. -/
def slots (kind : WidgetClass) : List (String × Slot) :=
  [("num", ⟨int, fun widget => pure widget.number, fun widget n =>
      pure { widget with number := n }⟩),
    ("text", ⟨.string, fun widget => pure widget.text, fun widget text =>
      pure { widget with text := text }⟩),
    ("ratio", ⟨.f64, fun widget => pure widget.ratio, fun widget x =>
      pure { widget with ratio := x }⟩),
    ("level", ⟨.enumeration level, fun widget => pure widget.level, fun widget variant =>
      pure { widget with level := variant }⟩),
    ("buffer", bufferSlot),
    ("copy", ⟨.copied (.widget kind), fun widget => pure widget, fun _ state => pure state⟩)]

/-- The slot of a name. -/
def slot? (kind : WidgetClass) (name : String) : Option Slot :=
  (slots kind).lookup name

/-- The number that static members share. -/
def sharedNumberSlot : TypeBuilder.StaticAccessor Key where
  value := int
  get := do
    let globals ← (Host.globals : Host Key Globals)
    pure globals.sharedNumber
  set := fun n => do
    let globals ← (Host.globals : Host Key Globals)
    Host.setGlobals { globals with sharedNumber := n }

/-- The text that static members share. -/
def sharedTextSlot : TypeBuilder.StaticAccessor Key where
  value := .string
  get := do
    let globals ← (Host.globals : Host Key Globals)
    pure globals.sharedText
  set := fun text => do
    let globals ← (Host.globals : Host Key Globals)
    Host.setGlobals { globals with sharedText := text }

/-- The slot of a name that static members share. -/
def sharedSlot? : String → Option (TypeBuilder.StaticAccessor Key)
  | "num" => some sharedNumberSlot
  | "text" => some sharedTextSlot
  | _ => none

/-! ### Descriptions -/

/-- One step in putting a description together. -/
inductive MemberRequest where
  | constructor (body : String)
  | method (name body : String)
  | staticMethod (name body : String)
  /-- A static method that makes a shared instance with a number. -/
  | staticShared (name : String)
  /-- A static method that makes a copied instance with a number. -/
  | staticCopied (name : String)
  | property (name body : String)
  | field (name body : String)
  | getter (name body : String)
  | setter (name body : String)
  | staticField (name body : String)
  | staticGetter (name body : String)
  | staticSetter (name body : String)
  /-- Hide the members added last. -/
  | hide
  /-- Name the member added last. -/
  | symbol (name : String)
  | getterSymbol (name : String)
  | setterSymbol (name : String)
deriving Repr, Inhabited, DecidableEq

/-- A widget class used with some semantics. -/
abbrev widgetType (kind : WidgetClass) (semantics : Semantics) : ObjectType Key :=
  ⟨.widget kind, semantics⟩

/-- A slot as the accessor of a widget class. -/
def Slot.accessor (slot : Slot) (kind : WidgetClass) (semantics : Semantics) :
    TypeBuilder.Accessor (widgetType kind semantics) :=
  ⟨slot.value, slot.get, slot.set⟩

/-- The static method that makes a shared instance of a class. -/
def makeShared (kind : WidgetClass) : Function where
  parameters := [int]
  result := .shared (.widget kind)
  run := fun (n, ()) =>
    (Host.newRef { Widget.default with number := n } : Host Key (Ref (Key.widget kind)))

/-- The static method that makes a copied instance of a class. -/
def makeCopied (kind : WidgetClass) : Function where
  parameters := [int]
  result := .copied (.widget kind)
  run := fun (n, ()) => pure { Widget.default with number := n }

/-- Take one step in putting a description together; a body that there is none of adds nothing. -/
def MemberRequest.apply {kind : WidgetClass} {semantics : Semantics}
    (builder : TypeBuilder (widgetType kind semantics)) :
    MemberRequest → TypeBuilder (widgetType kind semantics)
  | .constructor body =>
      match constructorBody? kind body with
      | some body => builder.constructor body.parameters body.make
      | none => builder
  | .method name body =>
      match methodBody? kind body with
      | some body => builder.method name body.parameters body.result body.run
      | none => builder
  | .staticMethod name body =>
      match typedFunction? body with
      | some function => builder.staticMethod name function
      | none => builder
  | .staticShared name => builder.staticMethod name (makeShared kind)
  | .staticCopied name => builder.staticMethod name (makeCopied kind)
  | .property name body =>
      match slot? kind body with
      | some slot => builder.property name (slot.accessor kind semantics)
      | none => builder
  | .field name body =>
      match slot? kind body with
      | some slot => builder.field name (slot.accessor kind semantics)
      | none => builder
  | .getter name body =>
      match slot? kind body with
      | some slot => builder.getter name (slot.accessor kind semantics)
      | none => builder
  | .setter name body =>
      match slot? kind body with
      | some slot => builder.setter name (slot.accessor kind semantics)
      | none => builder
  | .staticField name body =>
      match sharedSlot? body with
      | some slot => builder.staticField name slot
      | none => builder
  | .staticGetter name body =>
      match sharedSlot? body with
      | some slot => builder.staticGetter name slot
      | none => builder
  | .staticSetter name body =>
      match sharedSlot? body with
      | some slot => builder.staticSetter name slot
      | none => builder
  | .hide => builder.hide
  | .symbol name => builder.symbol name
  | .getterSymbol name => builder.getterSymbol name
  | .setterSymbol name => builder.setterSymbol name

/-- A description of a widget class, put together step by step. -/
def describeWidget (kind : WidgetClass) (semantics : Semantics) (requests : List MemberRequest) :
    TypeDescription Key :=
  (requests.foldl (fun builder request => request.apply builder)
    (TypeBuilder.empty (widgetType kind semantics))).build

/-! ### Fixed descriptions -/

/-- The area of a shape; the circle's is near enough. -/
def Shape.area : Shape → F64
  | .square side => F64.mul side side
  | .circle radius => F64.mul (F64.mul F64.three radius) radius

/-- A shape made larger or smaller. -/
def Shape.scale (factor : F64) : Shape → Shape
  | .square side => .square (F64.mul side factor)
  | .circle radius => .circle (F64.mul radius factor)

/-- A static method that makes a shape of a number. -/
def makeShape (form : F64 → Shape) : Function where
  parameters := [.f64]
  result := .shared .shape
  run := fun (x, ()) => (Host.newRef (form x) : Host Key (Ref Key.shape))

/-- The shape class with its members. -/
def shapeDescription : TypeDescription Key :=
  let builder := TypeBuilder.empty (⟨.shape, .reference⟩ : ObjectType Key)
  let builder := builder.staticMethod "square" (makeShape .square)
  let builder := builder.staticMethod "circle" (makeShape .circle)
  let builder := builder.method "area" [] .f64 fun (shape : Shape) _ => pure shape.area
  let builder := builder.method "scale" [.f64] .unit fun (shape : Shape) (factor, ()) =>
    fun next => .writeReceiver Key.shape (shape.scale factor) (next ())
  builder.build

/-- The widget class that binding by type alone uses, with its members. -/
def sampleDescription : TypeDescription Key :=
  describeWidget .testClass .reference
    [.constructor "default", .property "Test" "num", .property "Test2" "text",
      .method "describe" "describe"]

/-- A description of a class; shapes have a fixed one. -/
def describe (key : Key) (semantics : Semantics) (requests : List MemberRequest) :
    TypeDescription Key :=
  match key with
  | .widget kind => describeWidget kind semantics requests
  | .shape => shapeDescription

end NativeBridge.Workbench
