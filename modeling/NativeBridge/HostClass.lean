/-
Module: NativeBridge.HostClass
Purpose: The host classes a program can show to native code, and how their instances cross.
Main exports: HostProgram, Semantics, ObjectType
-/

namespace NativeBridge

/-!
A host program is given by its classes.  Each class has an identity, a name that need not be
unique, and a type of instance states.  A class may be used with reference semantics, where all
handles share one live instance, or with value semantics, where each call works on a copy; the two
uses are two different object types.
-/

/-- The classes of a host program and the data all of its code shares. -/
class HostProgram (κ : Type) where
  decEq : DecidableEq κ
  /-- The name of a class in symbols and messages. -/
  className : κ → String
  /-- The state of an instance of a class. -/
  State : κ → Type
  /-- The data that every function of the program can read and change. -/
  Globals : Type

attribute [reducible, instance] HostProgram.decEq

/-- How instances of a class behave when they cross the boundary. -/
inductive Semantics where
  /-- One shared instance; members run against the live object. -/
  | reference
  /-- Copied for every call; edits never reach the stored instance. -/
  | value
deriving Repr, Inhabited, DecidableEq

/-- The word for semantics. -/
def Semantics.word : Semantics → String
  | reference => "reference"
  | value => "value"

/-- A class together with the semantics it is used with. -/
structure ObjectType (κ : Type) where
  key : κ
  semantics : Semantics
deriving Repr, DecidableEq

/-- The name of an object type is that of its class. -/
def ObjectType.name {κ : Type} [HostProgram κ] (type : ObjectType κ) : String :=
  HostProgram.className type.key

end NativeBridge
