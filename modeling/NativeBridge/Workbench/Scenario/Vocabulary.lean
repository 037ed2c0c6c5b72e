/-
Module: NativeBridge.Workbench.Scenario.Vocabulary
Purpose: The words that scenarios use for types, literals, native code, members and the operations of
  a session.
Main exports: hostType?, marshalType?, literalOfNumber?, operandOfText?, failureOfKind?,
  FunctionSource.ofWord?, MemberRequest.ofWord?, Subject.ofWord?, SessionStep.ofWord?
-/
import NativeBridge.Text.Hexadecimal
import NativeBridge.Workbench.Scenario.Step

namespace NativeBridge.Workbench

/-!
Each table has one word for one thing; a word in no table stands for nothing, and whoever asked
decides what that means.
-/

/-! ### Types -/

/-- The host type of a word, if it is neither an enumeration nor a class. -/
def hostType? (word : String) : Option (HostType Key) :=
  let plain : List (HostType Key) := [.void, .pointer, .char, .f32, .f64, .string, .stringBuffer]
  (plain ++ IntegerType.all.map HostType.integer).find? fun type => type.name == word

/-- The marshal type of a word: an enumeration by its own word, an instance by the class's word
after a mark for how it is held. -/
def marshalType? (word : String) : Option (MarshalType Key) :=
  let plain : List (MarshalType Key) := [.unit, .pointer, .char, .f32, .f64, .string, .stringBuffer]
  match word.splitOn ":" with
  | ["level"] => some (.enumeration level)
  | ["mode"] => some (.enumeration mode)
  | ["huge"] => some (.enumeration huge)
  | ["ref", name] => (Key.ofWord? name).map .shared
  | ["val", name] => (Key.ofWord? name).map .copied
  | _ => (plain ++ IntegerType.all.map MarshalType.integer).find? fun type =>
      type.hostType.name == word

/-! ### Operands -/

/-- The literal of a tag and a number. -/
def literalOfNumber? (tag : String) (n : Int) : Option (Value Key) :=
  match tag with
  | "pointer" => some (.pointer (UInt64.ofNat n.toNat))
  | "char" => some (.char (Char.ofNat n.toNat))
  | _ =>
      (IntegerType.all.find? fun type => type.name == tag).map fun type =>
        .integer type (type.ofInt n)

/-- The operand of a tag and a text: a literal, or something of that name. -/
def operandOfText? (tag text : String) : Option Operand :=
  match tag with
  | "f32" => some (.literal (.f32 ⟨UInt32.ofNat (Text.Hexadecimal.read text)⟩))
  | "f64" => some (.literal (.f64 ⟨UInt64.ofNat (Text.Hexadecimal.read text)⟩))
  | "string" => some (.literal (.string text))
  | "object" => some (.object text)
  | "sbuf" => some (.buffer text)
  | "cbuf" => some (.nativeBuffer text)
  | "var" => some (.saved text)
  | _ => none

/-! ### Failures -/

/-- The failures of every kind, given the details that some of them carry. -/
def failuresWith (a b : String) (n m : Int) (diagnostics : List Diagnostic) : List Error :=
  [.marshal .nullString, .marshal .interiorNul, .marshal (.invalidChar (UInt32.ofNat n.toNat)),
    .marshal (.invalidEnum a (Int64.ofInt n)), .marshal (.typeMismatch a b),
    .marshal (.arityMismatch n.toNat m.toNat), .handle (.invalidHandle (UInt64.ofNat n.toNat)),
    .handle (.receiverBusy a), .callable (.opaqueSignature a b), .callable (.voidParameter a),
    .callable .closureAllocation, .callable (.closurePreparation a), .callable .nullAddress,
    .bind (.duplicateSymbol a b), .bind (.overloadedMember a b), .bind (.invalidTemplate a b),
    .bind (.invalidSymbol a), .compile .outputModeNotSet, .compile .outputModeLocked,
    .compile (.failed diagnostics), .compile (.invalidArgument a), .compile (.invalidOption a),
    .link .notCompiled, .link .notRelocated, .link .alreadyRelocated,
    .link (.wrongOutputMode a b), .link (.symbolNotFound a), .link (.libraryNotFound a),
    .link (.relocationFailed diagnostics), .link (.outputFailed a), .symbol (.invalidName a),
    .symbol (.duplicate a), .symbol (.afterRelocation a), .load (.libraryNotFound a),
    .load (.symbolNotFound a b), .load (.loadFailed a), .config (.notFound a),
    .config (.unreadable a), .config (.malformed a), .config (.invalidValue a b),
    .config .homeNotFound, .panicked a]

/-- The failure of a kind, given its details. -/
def failureOfKind? (kind a b : String) (n m : Int) (diagnostics : List Diagnostic) :
    Option Error :=
  (failuresWith a b n m diagnostics).find? fun error => error.kind == kind

/-! ### Functions and members -/

/-- The native code of a word, or the null address. -/
def FunctionSource.ofWord? : String → Option FunctionSource
  | "c_add" => some (.code .add)
  | "c_upper" => some (.code .upper)
  | "c_fill" => some (.code .fill)
  | "c_latin1" => some (.code .latin)
  | "c_null" => some (.code .nowhere)
  | "c_text" => some (.code .text)
  | "c_surrogate" => some (.code .surrogate)
  | "c_byte" => some (.code .byte)
  | "null" => some .null
  | _ => none

/-- The step of a word in putting a description together. -/
def MemberRequest.ofWord? (word name body : String) : Option MemberRequest :=
  match word with
  | "constructor" => some (.constructor body)
  | "method" => some (.method name body)
  | "static_method" => some (.staticMethod name body)
  | "static_self" => some (.staticShared name)
  | "static_copy" => some (.staticCopied name)
  | "property" => some (.property name body)
  | "field" => some (.field name body)
  | "getter" => some (.getter name body)
  | "setter" => some (.setter name body)
  | "static_field" => some (.staticField name body)
  | "static_getter" => some (.staticGetter name body)
  | "static_setter" => some (.staticSetter name body)
  | "private" => some .hide
  | "symbol" => some (.symbol name)
  | "getter_symbol" => some (.getterSymbol name)
  | "setter_symbol" => some (.setterSymbol name)
  | _ => none

/-- What a word asks the inspection text of. -/
def Subject.ofWord? (word name : String) (key : Option Key) (index : Nat) : Option Subject :=
  match word with
  | "native" => some (.closure name)
  | "function" => some (.function name)
  | "object" => some (.object name)
  | "ref" => key.map (.ref name)
  | "member" => some (.member name index)
  | _ => none

/-! ### Sessions -/

/-- The operation of a word on a session, given the text it is about and a value. -/
def SessionStep.ofWord? (word text : String) (value : Option String) : Option SessionStep :=
  match word with
  | "set_output_mode" => (OutputMode.parse? text).map .setOutputMode
  | "set_lib_path" => some (.setLibPath text)
  | "set_options" => some (.setOptions text)
  | "add_include_path" => some (.addIncludePath text)
  | "add_sysinclude_path" => some (.addSysincludePath text)
  | "define_symbol" => some (.defineSymbol text value)
  | "undefine_symbol" => some (.undefineSymbol text)
  | "add_library_path" => some (.addLibraryPath text)
  | "add_library" => some (.addLibrary text)
  | "compile_string" => some (.compileString text)
  | "add_file" => some (.addFile text)
  | "relocate" => some .relocate
  | "output_file" => some (.outputFile text)
  | _ => none

end NativeBridge.Workbench
