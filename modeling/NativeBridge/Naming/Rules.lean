/-
Module: NativeBridge.Naming.Rules
Purpose: The rules that give every member of a host type its symbol.
Main exports: encodeArguments, NamingRules, NamingRules.builtin, NamingRules.fromConfig,
  NamingRules.symbolFor
-/
import NativeBridge.Config.Naming
import NativeBridge.Member

namespace NativeBridge.Naming

/-- A parameter list in a symbol: nothing for no parameters, else an underscore and the lower-case
names of the types. -/
def encodeArguments {κ : Type} [HostProgram κ] (parameters : List (HostType κ)) : String :=
  if parameters.isEmpty then ""
  else "_" ++ String.join (parameters.map fun type => Text.toLower type.name)

/-- The templates for each kind of member and the name of the release function. -/
structure NamingRules where
  method : Template
  property : Template
  field : Template
  constructor : Template
  releaseSymbol : String
deriving Repr, Inhabited, DecidableEq

/-- The built-in template for methods. -/
def builtinMethod : Template :=
  ⟨"\x7bclass:L\x7d_\x7bmethod:L\x7d", [.token .owner "L", .literal "_", .token .method "L"]⟩

/-- The built-in template for properties. -/
def builtinProperty : Template :=
  ⟨"\x7bclass:L\x7d_\x7bmutator\x7d_\x7bproperty:L\x7d",
    [.token .owner "L", .literal "_", .token .mutator "", .literal "_", .token .property "L"]⟩

/-- The built-in template for fields. -/
def builtinField : Template :=
  ⟨"\x7bclass:L\x7d_\x7bmutator\x7d_\x7bfield:L\x7d",
    [.token .owner "L", .literal "_", .token .mutator "", .literal "_", .token .field "L"]⟩

/-- The built-in template for constructors. -/
def builtinConstructor : Template :=
  ⟨"\x7bclass:L\x7d_new\x7bargs\x7d", [.token .owner "L", .literal "_new", .token .arguments ""]⟩

/-- The built-in name of the release function. -/
def builtinReleaseSymbol : String := "gc_free"

/-- Read a template or say why it is none. -/
def readTemplate (source : String) : Except BindError Template :=
  match Template.parse source with
  | .ok template => .ok template
  | .error fault => .error (.invalidTemplate source fault.message)

/-- Read a template that may be missing. -/
def readTemplateOr (default : Template) : Option String → Except BindError Template
  | none => .ok default
  | some source => readTemplate source

namespace NamingRules

/-- The rules used when nothing is configured. -/
def builtin : NamingRules :=
  ⟨builtinMethod, builtinProperty, builtinField, builtinConstructor, builtinReleaseSymbol⟩

/-- The rules with another method template. -/
def withMethod (rules : NamingRules) (source : String) : Except BindError NamingRules := do
  let template ← readTemplate source
  .ok { rules with method := template }

/-- The rules with another property template. -/
def withProperty (rules : NamingRules) (source : String) : Except BindError NamingRules := do
  let template ← readTemplate source
  .ok { rules with property := template }

/-- The rules with another field template. -/
def withField (rules : NamingRules) (source : String) : Except BindError NamingRules := do
  let template ← readTemplate source
  .ok { rules with field := template }

/-- The rules with another constructor template. -/
def withConstructor (rules : NamingRules) (source : String) : Except BindError NamingRules := do
  let template ← readTemplate source
  .ok { rules with constructor := template }

/-- The rules with another release symbol, which must be an identifier. -/
def withReleaseSymbol (rules : NamingRules) (symbol : String) : Except BindError NamingRules :=
  if Text.isIdentifier symbol then .ok { rules with releaseSymbol := symbol }
  else .error (.invalidSymbol symbol)

/-- The rules a configuration sets, with the built-in ones for what it leaves open. -/
def fromConfig (config : Config.NamingSection) : Except BindError NamingRules := do
  let method ← readTemplateOr builtin.method config.method
  let property ← readTemplateOr builtin.property config.property
  let field ← readTemplateOr builtin.field config.field
  let constructor ← readTemplateOr builtin.constructor config.constructor
  let rules : NamingRules := ⟨method, property, field, constructor, builtin.releaseSymbol⟩
  match config.releaseSymbol with
  | none => .ok rules
  | some symbol => rules.withReleaseSymbol symbol

/-- The template for a kind of member. -/
def templateFor (rules : NamingRules) : MemberKind → Template
  | .constructor => rules.constructor
  | .method => rules.method
  | .propertyGetter | .propertySetter => rules.property
  | .fieldGetter | .fieldSetter => rules.field

variable {κ : Type} [HostProgram κ]

/-- The values of a member's tokens. -/
def contextOf (member : Member κ) : NameContext where
  owner := member.owner.name
  member := member.name
  mutator := (member.kind.mutator?.map Mutator.word).getD ""
  arguments := encodeArguments member.parameters

/-- The symbol of a member: the one given by hand, else the one its template gives. -/
def symbolFor (rules : NamingRules) (member : Member κ) : String :=
  match member.symbol with
  | some symbol => symbol
  | none => (rules.templateFor member.kind).render (contextOf member)

end NamingRules

end NativeBridge.Naming
