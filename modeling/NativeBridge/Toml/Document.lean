/-
Module: NativeBridge.Toml.Document
Purpose: Reading a whole TOML document.
Main exports: value, Builder, document, Toml.parse
-/
import NativeBridge.Toml.Scalar

namespace NativeBridge.Toml

/-! ### Values -/

/-- Values between brackets with commas between them, after the opening bracket.  A comma may follow
the last value, and line ends and comments may stand anywhere. -/
def arrayItems (item : Scan Toml) : Nat → Scan (List Toml)
  | 0, _ => none
  | fuel + 1, s =>
      match layout s with
      | ']' :: rest => some ([], rest)
      | start => do
          let (first, rest) ← item start
          match layout rest with
          | ',' :: rest => do
              let (items, rest) ← arrayItems item fuel rest
              some (first :: items, rest)
          | ']' :: rest => some ([first], rest)
          | _ => none

/-- One entry of a table between braces. -/
def inlineEntry (item : Scan Toml) (s : List Char) :
    Option ((List String × Toml) × List Char) := do
  let (path, rest) ← dottedKey s
  match rest with
  | '=' :: rest => do
      let (value, rest) ← item (skipBlanks rest)
      some ((path, value), skipBlanks rest)
  | _ => none

/-- Entries between braces with commas between them, the first one already known to be there. -/
def inlineEntries (item : Scan Toml) : Nat → Scan (List (List String × Toml))
  | 0, _ => none
  | fuel + 1, s => do
      let (first, rest) ← inlineEntry item s
      match rest with
      | ',' :: rest => do
          let (entries, rest) ← inlineEntries item fuel rest
          some (first :: entries, rest)
      | '}' :: rest => some ([first], rest)
      | _ => none

/-- A table from its entries, put in one after the other. -/
def tableOfEntries : List (List String × Toml) → Entries → Option Entries
  | [], entries => some entries
  | (path, value) :: rest, entries => do
      let entries ← insertAt value path entries
      tableOfEntries rest entries

/-- A table between braces, after the opening brace. -/
def inlineTable (item : Scan Toml) (s : List Char) : Option (Toml × List Char) :=
  match skipBlanks s with
  | '}' :: rest => some (.table .inlined [], rest)
  | start => do
      let (pairs, rest) ← inlineEntries item (start.length + 1) start
      let entries ← tableOfEntries pairs []
      some (.table .inlined entries, rest)

/-- A value with arrays and tables nested at most a number of levels deep. -/
def value : Nat → Scan Toml
  | _, [] => none
  | depth, c :: rest =>
      if c = '[' then
        match depth with
        | 0 => none
        | depth + 1 =>
            (arrayItems (value depth) (rest.length + 1) rest).map fun (items, rest) =>
              (.array items, rest)
      else if c = '\x7b' then
        match depth with
        | 0 => none
        | depth + 1 => inlineTable (value depth) rest
      else scalar (c :: rest)

/-! ### Documents -/

/-- A document as far as it is read: the tables closed so far, the table being filled, the path of
its header and whether the header appends to a list of tables. -/
structure Builder where
  closed : Entries
  current : Entries
  path : List String
  appends : Bool

namespace Builder

/-- Nothing read yet; the document itself is being filled. -/
def empty : Builder := ⟨[], [], [], false⟩

/-- Add a finished table to a list of tables. -/
def appendTable (current : Entries) : Option Toml → Option Toml
  | none => some (.tables [current])
  | some (.tables elements) => some (.tables (elements ++ [current]))
  | some _ => none

/-- Put the table being filled where its header says. -/
def close (builder : Builder) : Option Entries :=
  match builder.path.reverse with
  | [] => some builder.current
  | key :: before =>
      enter (fun entries =>
        if builder.appends then alterEntry key (appendTable builder.current) entries
        else addEntry key (.table .headed builder.current) entries)
        before.reverse builder.closed

/-- The table a header reopens: only one that was implied so far can be. -/
def reopened (key : String) (entries : Entries) : Option Entries :=
  match entries.lookup key with
  | none => some []
  | some (.table .implied inner) => some inner
  | some _ => none

/-- Whether a header can append to what a key stands for. -/
def mayAppend (key : String) (entries : Entries) : Bool :=
  match entries.lookup key with
  | none | some (.tables _) => true
  | some _ => false

/-- The entries without a key. -/
def withoutKey (key : String) (entries : Entries) : Entries :=
  entries.filter fun entry => entry.1 != key

/-- The entries at the end of a path that need not exist. -/
def entriesAt : List String → Entries → Option Entries
  | [], entries => some entries
  | key :: path, entries =>
      match entries.lookup key with
      | none => some []
      | some (.table .inlined _) => none
      | some (.table _ inner) => entriesAt path inner
      | some (.tables elements) =>
          match elements.getLast? with
          | some last => entriesAt path last
          | none => none
      | some _ => none

/-- Begin the table of a header. -/
def openTable (builder : Builder) (path : List String) : Option Builder := do
  let closed ← builder.close
  match path.reverse with
  | [] => none
  | key :: before => do
      let parent ← entriesAt before.reverse closed
      let current ← reopened key parent
      let closed ← enter (fun entries => some (withoutKey key entries)) before.reverse closed
      some ⟨closed, current, path, false⟩

/-- Begin another table of a list. -/
def openListed (builder : Builder) (path : List String) : Option Builder := do
  let closed ← builder.close
  match path.reverse with
  | [] => none
  | key :: before => do
      let parent ← entriesAt before.reverse closed
      if mayAppend key parent then some ⟨closed, [], path, true⟩ else none

/-- Add an entry to the table being filled. -/
def add (builder : Builder) (path : List String) (value : Toml) : Option Builder :=
  (insertAt value path builder.current).map fun current => { builder with current := current }

end Builder

/-- A header, after its opening bracket. -/
def header (builder : Builder) (s : List Char) : Option (Builder × List Char) :=
  match s with
  | '[' :: rest => do
      let (path, rest) ← dottedKey rest
      match rest with
      | ']' :: ']' :: rest => do
          let rest ← endOfLine rest
          let builder ← builder.openListed path
          some (builder, rest)
      | _ => none
  | rest => do
      let (path, rest) ← dottedKey rest
      match rest with
      | ']' :: rest => do
          let rest ← endOfLine rest
          let builder ← builder.openTable path
          some (builder, rest)
      | _ => none

/-- An entry on a line of its own. -/
def entryLine (builder : Builder) (s : List Char) : Option (Builder × List Char) := do
  let (path, rest) ← dottedKey s
  match rest with
  | '=' :: rest => do
      let (value, rest) ← value maxDepth (skipBlanks rest)
      let rest ← endOfLine rest
      let builder ← builder.add path value
      some (builder, rest)
  | _ => none

/-- The lines of a document, at most a number of them. -/
def lines : Nat → Builder → List Char → Option Builder
  | 0, _, _ => none
  | fuel + 1, builder, s =>
      match skipBlanks s with
      | [] => some builder
      | '#' :: rest => do
          let rest ← endOfLine ('#' :: rest)
          lines fuel builder rest
      | '[' :: rest => do
          let (builder, rest) ← header builder rest
          lines fuel builder rest
      | rest =>
          match newline? rest with
          | some rest => lines fuel builder rest
          | none => do
              let (builder, rest) ← entryLine builder rest
              lines fuel builder rest

/-- Leave out a byte order mark. -/
def skipByteOrderMark : List Char → List Char
  | c :: rest => if c = '\uFEFF' then rest else c :: rest
  | [] => []

/-- The entries of a document; nothing if it is not TOML. -/
def document (text : List Char) : Option Entries := do
  let text := skipByteOrderMark text
  let builder ← lines (text.length + 1) .empty text
  builder.close

/-- Read a TOML document as a table. -/
def parse (text : String) : Option Toml :=
  (document text.toList).map (.table .headed)

end NativeBridge.Toml
