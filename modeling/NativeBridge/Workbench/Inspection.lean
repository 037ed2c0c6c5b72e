/-
Module: NativeBridge.Workbench.Inspection
Purpose: Inspection texts of types, members and instances, without the addresses in them.
Main exports: HostType.inspect, Member.inspect, HostObject.inspect, maskAddresses
-/
import NativeBridge.Member
import NativeBridge.Text.Numeral

namespace NativeBridge

variable {κ : Type} [HostProgram κ]

/-- The name of a kind of semantics in inspection output. -/
def Semantics.title : Semantics → String
  | reference => "Reference"
  | value => "Value"

/-- The inspection text of an object type; its class is told by a number that means nothing. -/
def ObjectType.inspect (type : ObjectType κ) : String :=
  "ObjectType \x7b name: " ++ Text.quote type.name ++ ", type_id: TypeId(0x0), semantics: " ++
    type.semantics.title ++ " \x7d"

namespace HostType

/-- The inspection text of a type. -/
def inspect : HostType κ → String
  | void => "Void"
  | pointer => "Pointer"
  | integer type => type.title
  | char => "Char"
  | f32 => "F32"
  | f64 => "F64"
  | string => "String"
  | stringBuffer => "StringBuffer"
  | enumeration name repr =>
      "Enum \x7b name: " ++ Text.quote name ++ ", repr: " ++ repr.title ++ " \x7d"
  | object type => "Object(" ++ type.inspect ++ ")"

end HostType

/-- The inspection text of a member. -/
def Member.inspect (member : Member κ) : String :=
  let symbol :=
    match member.symbol with
    | some symbol => "Some(" ++ Text.quote symbol ++ ")"
    | none => "None"
  "MemberDescriptor \x7b kind: " ++ member.kind.title ++
    ", owner: " ++ Text.quote member.owner.name ++ ", name: " ++ Text.quote member.name ++
    ", is_static: " ++ toString member.isStatic ++
    ", params: [" ++ String.intercalate ", " (member.parameters.map HostType.inspect) ++
    "], ret: " ++ member.result.inspect ++ ", visibility: " ++ member.visibility.title ++
    ", symbol: " ++ symbol ++ " \x7d"

/-- The inspection text of an instance, its cell standing for its address. -/
def HostObject.inspect (target : HostObject κ) : String :=
  "HostObject(" ++ target.type.name ++ " @ Pointer \x7b addr: " ++ Text.hexMarked target.cell ++
    ", metadata: DynMetadata(0x0) \x7d)"

namespace Workbench

/-- Whether a character is a hexadecimal digit in lower case. -/
def isHexDigit (c : Char) : Bool :=
  c.isDigit || ('a' ≤ c && c ≤ 'f')

/-- A text with a star for the digits of every hexadecimal number in it, given whether the
characters read last are such digits. -/
def maskDigits : Bool → List Char → List Char
  | _, [] => []
  | true, c :: rest => if isHexDigit c then maskDigits true rest else maskMark c rest
  | false, c :: rest => maskMark c rest
where
  /-- Look for the mark of a hexadecimal number. -/
  maskMark (c : Char) (rest : List Char) : List Char :=
    match c, rest with
    | '0', 'x' :: digits => '0' :: 'x' :: '*' :: maskDigits true digits
    | c, rest => c :: maskDigits false rest

/-- A text with a star for the digits of every hexadecimal number in it. -/
def maskAddresses (text : String) : String :=
  String.ofList (maskDigits false text.toList)

end Workbench

end NativeBridge
