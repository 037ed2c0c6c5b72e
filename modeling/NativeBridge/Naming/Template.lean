/-
Module: NativeBridge.Naming.Template
Purpose: Naming templates: literal text with tokens in braces, their reading and their rendering.
Main exports: Token, Part, Template, TemplateFault, Template.parse, NameContext, Template.render
-/
import NativeBridge.Naming.Format

namespace NativeBridge.Naming

/-!
A template such as `\x7bclass:L\x7d_new\x7bargs\x7d` is text with tokens in braces; a token may
carry a format specifier after a colon.  Reading goes from left to right: an opening brace always
starts a token, which runs to the next closing brace.  A closing brace that opens no token is
refused after the last token, and is literal text before it.
-/

/-- What a token stands for. -/
inductive Token where
  | owner
  | method
  | property
  | field
  | mutator
  | arguments
deriving Repr, Inhabited, DecidableEq

namespace Token

/-- The name of a token in a template. -/
def name : Token → String
  | owner => "class"
  | method => "method"
  | property => "property"
  | field => "field"
  | mutator => "mutator"
  | arguments => "args"

/-- All tokens. -/
def all : List Token := [owner, method, property, field, mutator, arguments]

/-- The token with a name. -/
def ofName? (name : List Char) : Option Token :=
  all.find? fun token => token.name.toList == name

end Token

/-- A piece of a template. -/
inductive Part where
  | literal (text : String)
  | token (which : Token) (spec : String)
deriving Repr, Inhabited, DecidableEq

/-- Why a text is not a template. -/
inductive TemplateFault where
  | unterminatedToken
  | unknownToken (name : String)
  | unmatchedBrace
deriving Repr, Inhabited, DecidableEq

/-- The wording of a fault. -/
def TemplateFault.message : TemplateFault → String
  | unterminatedToken => "unterminated token"
  | unknownToken name => s!"unknown token '{name}'"
  | unmatchedBrace => "unmatched '\x7d'"

/-- A naming template: its text and the pieces read from it. -/
structure Template where
  source : String
  parts : List Part
deriving Repr, Inhabited, DecidableEq

/-- The brace that opens a token. -/
def openBrace : Char := '\x7b'

/-- The brace that closes a token. -/
def closeBrace : Char := '\x7d'

/-- A literal piece, unless there is no text. -/
def literalPart (text : List Char) : List Part :=
  if text.isEmpty then [] else [.literal (String.ofList text)]

/-- The name and the specifier of a token's body. -/
def splitBody (body : List Char) : List Char × List Char :=
  (body.takeWhile (· != ':'), (body.dropWhile (· != ':')).drop 1)

/-- The token a body names. -/
def bodyPart (body : List Char) : Except TemplateFault Part :=
  match Token.ofName? (splitBody body).1 with
  | some token => .ok (.token token (String.ofList (splitBody body).2))
  | none => .error (.unknownToken (String.ofList (splitBody body).1))

/-- The pieces of a template text. -/
def readParts (source : List Char) : Except TemplateFault (List Part) :=
  match _hOpen : source.dropWhile (· != openBrace) with
  | [] =>
      if source.contains closeBrace then .error .unmatchedBrace else .ok (literalPart source)
  | _ :: after =>
      match _hClose : after.dropWhile (· != closeBrace) with
      | [] => .error .unterminatedToken
      | _ :: rest => do
          let part ← bodyPart (after.takeWhile (· != closeBrace))
          let parts ← readParts rest
          .ok (literalPart (source.takeWhile (· != openBrace)) ++ part :: parts)
termination_by source.length
decreasing_by
  have hOpen : (source.dropWhile (· != openBrace)).length ≤ source.length :=
    (List.dropWhile_suffix _).length_le
  have hClose : (after.dropWhile (· != closeBrace)).length ≤ after.length :=
    (List.dropWhile_suffix _).length_le
  rw [_hOpen, List.length_cons] at hOpen
  rw [_hClose, List.length_cons] at hClose
  omega

namespace Template

/-- Read a template. -/
def parse (source : String) : Except TemplateFault Template :=
  (readParts source.toList).map fun parts => ⟨source, parts⟩

end Template

/-- The values put into a template. -/
structure NameContext where
  owner : String
  member : String
  mutator : String
  arguments : String
deriving Repr, Inhabited, DecidableEq

/-- The value a token stands for. -/
def NameContext.value (context : NameContext) : Token → String
  | .owner => context.owner
  | .method | .property | .field => context.member
  | .mutator => context.mutator
  | .arguments => context.arguments

/-- The text of one piece. -/
def Part.render (context : NameContext) : Part → String
  | literal text => text
  | token which spec => applyFormat (context.value which) spec

/-- The text of a list of pieces. -/
def renderParts (context : NameContext) (parts : List Part) : String :=
  parts.foldr (fun part text => part.render context ++ text) ""

namespace Template

/-- The symbol a template gives for a member. -/
def render (template : Template) (context : NameContext) : String :=
  renderParts context template.parts

end Template

end NativeBridge.Naming
