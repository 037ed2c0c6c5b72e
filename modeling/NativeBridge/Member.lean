/-
Module: NativeBridge.Member
Purpose: The bindable members of a host type, and how a call reaches a member's receiver.
Main exports: MemberKind, Visibility, Member, Dispatch, Dispatch.ofMember
-/
import NativeBridge.HostCode

namespace NativeBridge

variable {κ : Type}

/-- What kind of member a description lists. -/
inductive MemberKind where
  | constructor
  | method
  | propertyGetter
  | propertySetter
  | fieldGetter
  | fieldSetter
deriving Repr, Inhabited, DecidableEq

/-- What an accessor does to its property or field. -/
inductive Mutator where
  | get
  | set
deriving Repr, Inhabited, DecidableEq

/-- The word for a mutator in symbols. -/
def Mutator.word : Mutator → String
  | get => "get"
  | set => "set"

namespace MemberKind

/-- The mutator of an accessor. -/
def mutator? : MemberKind → Option Mutator
  | propertyGetter | fieldGetter => some .get
  | propertySetter | fieldSetter => some .set
  | constructor | method => none

/-- Whether a member is an accessor. -/
def isAccessor (kind : MemberKind) : Bool :=
  kind.mutator?.isSome

/-- The word for a kind. -/
def word : MemberKind → String
  | constructor => "constructor"
  | method => "method"
  | propertyGetter => "property_getter"
  | propertySetter => "property_setter"
  | fieldGetter => "field_getter"
  | fieldSetter => "field_setter"

/-- The name of a kind in inspection output. -/
def title : MemberKind → String
  | constructor => "Constructor"
  | method => "Method"
  | propertyGetter => "PropertyGetter"
  | propertySetter => "PropertySetter"
  | fieldGetter => "FieldGetter"
  | fieldSetter => "FieldSetter"

end MemberKind

/-- Whether a binder exposes a member. -/
inductive Visibility where
  | shown
  | hidden
deriving Repr, Inhabited, DecidableEq

/-- The name of a visibility in inspection output. -/
def Visibility.title : Visibility → String
  | shown => "Public"
  | hidden => "Private"

/-- One bindable member of a host type, with the code that runs it. -/
structure Member (κ : Type) [HostProgram κ] where
  kind : MemberKind
  owner : ObjectType κ
  name : String
  isStatic : Bool
  parameters : List (HostType κ)
  result : HostType κ
  visibility : Visibility
  /-- A symbol given by hand, which no template changes. -/
  symbol : Option String
  body : List (Value κ) → Code κ

/-- Whether a binder exposes a member. -/
def Member.isShown [HostProgram κ] (member : Member κ) : Bool :=
  member.visibility == .shown

/-- How a call reaches the receiver of a member. -/
inductive Dispatch where
  /-- There is no receiver. -/
  | static
  /-- The live instance behind the handle. -/
  | virtual
  /-- A private copy of the value behind the handle, thrown away after the call. -/
  | copied
deriving Repr, Inhabited, DecidableEq

/-- The name of a dispatch in inspection output. -/
def Dispatch.title : Dispatch → String
  | static => "Static"
  | virtual => "Virtual"
  | copied => "Copied"

/-- The dispatch of a member: by whether it is static, then by the semantics of its owner. -/
def Dispatch.ofMember [HostProgram κ] (member : Member κ) : Dispatch :=
  if member.isStatic then .static
  else match member.owner.semantics with
    | .reference => .virtual
    | .value => .copied

end NativeBridge
