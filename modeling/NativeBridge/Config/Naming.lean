/-
Module: NativeBridge.Config.Naming
Purpose: The naming section of a configuration: its merging and its validation.
Main exports: NamingSection, NamingSection.merge, validateTemplate, NamingSection.validate
-/
import NativeBridge.Error
import NativeBridge.Naming.Template
import NativeBridge.Text.Identifier

namespace NativeBridge.Config

open Naming (openBrace closeBrace)

/-- The templates and the release symbol a configuration sets. -/
structure NamingSection where
  method : Option String
  property : Option String
  field : Option String
  constructor : Option String
  releaseSymbol : Option String
deriving Repr, Inhabited, DecidableEq

namespace NamingSection

/-- A section that sets nothing. -/
def empty : NamingSection := ⟨none, none, none, none, none⟩

/-- A section with the settings of another put on top, entry by entry. -/
def merge (base top : NamingSection) : NamingSection where
  method := top.method.or base.method
  property := top.property.or base.property
  field := top.field.or base.field
  constructor := top.constructor.or base.constructor
  releaseSymbol := top.releaseSymbol.or base.releaseSymbol

end NamingSection

/-- What a configuration finds wrong with a template. -/
inductive TokenFault where
  | unterminated
  | unknown (name : String)
deriving Repr, Inhabited, DecidableEq

/-- The first fault of a template: every opening brace must start a closed token with a known name.
Closing braces elsewhere are let pass. -/
def tokenFault (source : List Char) : Option TokenFault :=
  match _hOpen : source.dropWhile (· != openBrace) with
  | [] => none
  | _ :: after =>
      match _hClose : after.dropWhile (· != closeBrace) with
      | [] => some .unterminated
      | _ :: rest =>
          let name := (after.takeWhile (· != closeBrace)).takeWhile (· != ':')
          match Naming.Token.ofName? name with
          | some _ => tokenFault rest
          | none => some (.unknown (String.ofList name))
termination_by source.length
decreasing_by
  have hOpen : (source.dropWhile (· != openBrace)).length ≤ source.length :=
    (List.dropWhile_suffix _).length_le
  have hClose : (after.dropWhile (· != closeBrace)).length ≤ after.length :=
    (List.dropWhile_suffix _).length_le
  rw [_hOpen, List.length_cons] at hOpen
  rw [_hClose, List.length_cons] at hClose
  omega

/-- The wording of a template's fault. -/
def TokenFault.message (template : String) : TokenFault → String
  | unterminated => s!"unterminated token in '{template}'"
  | unknown name => s!"unknown token '\x7b{name}\x7d'"

/-- Check the template of a field. -/
def validateTemplate (field template : String) : Except ConfigError Unit :=
  match tokenFault template.toList with
  | none => .ok ()
  | some fault => .error (.invalidValue field (fault.message template))

/-- Check the template of a field, if it is set. -/
def validateField (field : String) : Option String → Except ConfigError Unit
  | none => .ok ()
  | some template => validateTemplate field template

/-- Check a release symbol, if it is set. -/
def validateReleaseSymbol : Option String → Except ConfigError Unit
  | none => .ok ()
  | some symbol =>
      if Text.isIdentifier symbol then .ok ()
      else .error (.invalidValue "naming.release_symbol"
        s!"'{symbol}' is not a valid C identifier")

/-- Check the templates of a section in their order, then its release symbol. -/
def NamingSection.validate (naming : NamingSection) : Except ConfigError Unit := do
  validateField "naming.method" naming.method
  validateField "naming.property" naming.property
  validateField "naming.field" naming.field
  validateField "naming.constructor" naming.constructor
  validateReleaseSymbol naming.releaseSymbol

end NativeBridge.Config
