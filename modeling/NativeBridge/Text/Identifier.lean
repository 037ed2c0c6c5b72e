/-
Module: NativeBridge.Text.Identifier
Purpose: The spelling a symbol needs before C code can refer to it.
Main exports: isIdentifierStart, isIdentifierPart, isIdentifier
-/

namespace NativeBridge.Text

/-!
An identifier starts with an ASCII letter or an underscore and goes on with ASCII letters, digits
and underscores.  The empty text is no identifier.
-/

/-- The characters an identifier may start with. -/
def isIdentifierStart (c : Char) : Bool :=
  c == '_' || c.isAlpha

/-- The characters an identifier may go on with. -/
def isIdentifierPart (c : Char) : Bool :=
  c == '_' || c.isAlphanum

/-- Whether a list of characters spells an identifier. -/
def isIdentifierSpelling : List Char → Bool
  | [] => false
  | first :: rest => isIdentifierStart first && rest.all isIdentifierPart

/-- Whether a text can be referenced from C. -/
def isIdentifier (name : String) : Bool :=
  isIdentifierSpelling name.toList

end NativeBridge.Text
