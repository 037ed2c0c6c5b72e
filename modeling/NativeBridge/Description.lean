/-
Module: NativeBridge.Description
Purpose: The bindable surface of a host type, listed member by member.
Main exports: TypeDescription, TypeBuilder, TypeBuilder.build, Host.updateReceiver
-/
import NativeBridge.Member

namespace NativeBridge

variable {κ : Type} [HostProgram κ]

/-!
A description is built by calls that each add a group of one or two members: a constructor, a
method, an accessor, or a getter with its setter.  Modifiers work on the group added last.

A member's code checks what it is given before it runs.  Methods look for their receiver first and
at their arguments then; accessors do it the other way round.
-/

/-- The bindable members of a host type. -/
structure TypeDescription (κ : Type) [HostProgram κ] where
  type : ObjectType κ
  members : List (Member κ)

namespace TypeDescription

/-- The members a binder exposes. -/
def shownMembers (description : TypeDescription κ) : List (Member κ) :=
  description.members.filter Member.isShown

end TypeDescription

/-- Change the instance a member runs on. -/
def Host.updateReceiver {key : κ} (state : HostProgram.State key) : Host κ Unit :=
  fun next => .writeReceiver key state (next ())

namespace Member

/-- The code that goes on with the state of the receiver, if there is one of the class. -/
def withReceiver (type : ObjectType κ) (body : HostProgram.State type.key → Code κ) : Code κ :=
  .readReceiver type.key fun
    | some state => body state
    | none => .done (.error (MarshalError.typeMismatch type.name "missing receiver"))

/-- A member with nothing given by hand. -/
def plain (kind : MemberKind) (type : ObjectType κ) (name : String) (isStatic : Bool)
    (parameters : List (MarshalType κ)) (result : HostType κ)
    (body : List (Value κ) → Code κ) : Member κ where
  kind := kind
  owner := type
  name := name
  isStatic := isStatic
  parameters := parameters.map MarshalType.hostType
  result := result
  visibility := .shown
  symbol := none
  body := body

/-- A constructor, from a function that makes the state of an instance. -/
def ofConstructor (type : ObjectType κ) (parameters : List (MarshalType κ))
    (make : Tuple parameters → Host κ (HostProgram.State type.key)) : Member κ :=
  plain .constructor type type.name true parameters (.object type) fun args =>
    Host.receiving parameters args fun tuple =>
      make tuple fun state => .newObject type state fun object => .done (.ok (.object object))

/-- A method, from a function of the receiver's state; it can change the receiver on its way. -/
def ofMethod (type : ObjectType κ) (name : String) (parameters : List (MarshalType κ))
    (result : MarshalType κ)
    (run : HostProgram.State type.key → Tuple parameters → Host κ (Carrier result)) : Member κ :=
  plain .method type name false parameters result.hostType fun args =>
    withReceiver type fun state =>
      Host.receiving parameters args fun tuple => Host.returning result (run state tuple)

/-- A static method. -/
def ofStaticMethod (type : ObjectType κ) (name : String) (function : HostFunction κ) : Member κ :=
  plain .method type name true function.parameters function.result.hostType function.body

/-- A getter, from a function of the receiver's state. -/
def ofGetter (type : ObjectType κ) (kind : MemberKind) (name : String) (result : MarshalType κ)
    (get : HostProgram.State type.key → Host κ (Carrier result)) : Member κ :=
  plain kind type name false [] result.hostType fun args =>
    Host.receiving [] args fun _ =>
      withReceiver type fun state => Host.returning result (get state)

/-- A setter, from a function that gives the receiver's new state. -/
def ofSetter (type : ObjectType κ) (kind : MemberKind) (name : String) (value : MarshalType κ)
    (set : HostProgram.State type.key → Carrier value → Host κ (HostProgram.State type.key)) :
    Member κ :=
  plain kind type name false [value] .void fun args =>
    Host.receiving [value] args fun (carried, _) =>
      withReceiver type fun state =>
        set state carried fun state => .writeReceiver type.key state (.done (.ok .void))

/-- A static getter. -/
def ofStaticGetter (type : ObjectType κ) (kind : MemberKind) (name : String)
    (result : MarshalType κ) (get : Host κ (Carrier result)) : Member κ :=
  plain kind type name true [] result.hostType fun args =>
    Host.receiving [] args fun _ => Host.returning result get

/-- A static setter. -/
def ofStaticSetter (type : ObjectType κ) (kind : MemberKind) (name : String)
    (value : MarshalType κ) (set : Carrier value → Host κ Unit) : Member κ :=
  plain kind type name true [value] .void fun args =>
    Host.receiving [value] args fun (carried, _) =>
      set carried fun _ => .done (.ok .void)

end Member

/-- A description in the making: the members of earlier groups and those of the last one. -/
structure TypeBuilder {κ : Type} [HostProgram κ] (type : ObjectType κ) where
  earlier : List (Member κ)
  group : List (Member κ)

namespace TypeBuilder

variable {type : ObjectType κ}

/-- A description without members. -/
def empty (type : ObjectType κ) : TypeBuilder type := ⟨[], []⟩

/-- Add a group of members. -/
def addGroup (builder : TypeBuilder type) (group : List (Member κ)) : TypeBuilder type :=
  ⟨builder.earlier ++ builder.group, group⟩

/-- Add a constructor. -/
def constructor (builder : TypeBuilder type) (parameters : List (MarshalType κ))
    (make : Tuple parameters → Host κ (HostProgram.State type.key)) : TypeBuilder type :=
  builder.addGroup [.ofConstructor type parameters make]

/-- Add a method. -/
def method (builder : TypeBuilder type) (name : String) (parameters : List (MarshalType κ))
    (result : MarshalType κ)
    (run : HostProgram.State type.key → Tuple parameters → Host κ (Carrier result)) :
    TypeBuilder type :=
  builder.addGroup [.ofMethod type name parameters result run]

/-- Add a static method. -/
def staticMethod (builder : TypeBuilder type) (name : String) (function : HostFunction κ) :
    TypeBuilder type :=
  builder.addGroup [.ofStaticMethod type name function]

/-- The reading and writing of a property or field. -/
structure Accessor (type : ObjectType κ) where
  value : MarshalType κ
  get : HostProgram.State type.key → Host κ (Carrier value)
  set : HostProgram.State type.key → Carrier value → Host κ (HostProgram.State type.key)

/-- The reading and writing of a static property or field. -/
structure StaticAccessor (κ : Type) [HostProgram κ] where
  value : MarshalType κ
  get : Host κ (Carrier value)
  set : Carrier value → Host κ Unit

/-- Add a property with its getter and setter. -/
def property (builder : TypeBuilder type) (name : String) (accessor : Accessor type) :
    TypeBuilder type :=
  builder.addGroup
    [.ofGetter type .propertyGetter name accessor.value accessor.get,
      .ofSetter type .propertySetter name accessor.value accessor.set]

/-- Add a property getter alone. -/
def getter (builder : TypeBuilder type) (name : String) (accessor : Accessor type) :
    TypeBuilder type :=
  builder.addGroup [.ofGetter type .propertyGetter name accessor.value accessor.get]

/-- Add a property setter alone. -/
def setter (builder : TypeBuilder type) (name : String) (accessor : Accessor type) :
    TypeBuilder type :=
  builder.addGroup [.ofSetter type .propertySetter name accessor.value accessor.set]

/-- Add a field with its getter and setter. -/
def field (builder : TypeBuilder type) (name : String) (accessor : Accessor type) :
    TypeBuilder type :=
  builder.addGroup
    [.ofGetter type .fieldGetter name accessor.value accessor.get,
      .ofSetter type .fieldSetter name accessor.value accessor.set]

/-- Add a static property getter. -/
def staticGetter (builder : TypeBuilder type) (name : String) (accessor : StaticAccessor κ) :
    TypeBuilder type :=
  builder.addGroup [.ofStaticGetter type .propertyGetter name accessor.value accessor.get]

/-- Add a static property setter. -/
def staticSetter (builder : TypeBuilder type) (name : String) (accessor : StaticAccessor κ) :
    TypeBuilder type :=
  builder.addGroup [.ofStaticSetter type .propertySetter name accessor.value accessor.set]

/-- Add a static field with its getter and setter. -/
def staticField (builder : TypeBuilder type) (name : String) (accessor : StaticAccessor κ) :
    TypeBuilder type :=
  builder.addGroup
    [.ofStaticGetter type .fieldGetter name accessor.value accessor.get,
      .ofStaticSetter type .fieldSetter name accessor.value accessor.set]

/-- Hide the members of the last group. -/
def hide (builder : TypeBuilder type) : TypeBuilder type :=
  { builder with group := builder.group.map fun member => { member with visibility := .hidden } }

/-- Give a member a symbol by hand. -/
def withSymbol (name : String) (member : Member κ) : Member κ :=
  { member with symbol := some name }

/-- Change the last member of a list. -/
def mapLast (change : Member κ → Member κ) : List (Member κ) → List (Member κ)
  | [] => []
  | [last] => [change last]
  | first :: second :: rest => first :: mapLast change (second :: rest)

/-- Change the first member of a list that passes a test. -/
def mapFirst (test : Member κ → Bool) (change : Member κ → Member κ) :
    List (Member κ) → List (Member κ)
  | [] => []
  | first :: rest =>
      if test first then change first :: rest else first :: mapFirst test change rest

/-- Give the member added last a symbol by hand. -/
def symbol (builder : TypeBuilder type) (name : String) : TypeBuilder type :=
  { builder with group := mapLast (withSymbol name) builder.group }

/-- Give the first accessor of a kind in the last group a symbol by hand. -/
def accessorSymbol (builder : TypeBuilder type) (mutator : Mutator) (name : String) :
    TypeBuilder type :=
  { builder with
    group := mapFirst (fun member => member.kind.mutator? == some mutator) (withSymbol name)
      builder.group }

/-- Give the getter of the last group a symbol by hand. -/
def getterSymbol (builder : TypeBuilder type) (name : String) : TypeBuilder type :=
  builder.accessorSymbol .get name

/-- Give the setter of the last group a symbol by hand. -/
def setterSymbol (builder : TypeBuilder type) (name : String) : TypeBuilder type :=
  builder.accessorSymbol .set name

/-- The finished description. -/
def build (builder : TypeBuilder type) : TypeDescription κ :=
  ⟨type, builder.earlier ++ builder.group⟩

end TypeBuilder

end NativeBridge
