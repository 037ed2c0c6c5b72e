/-
Module: NativeBridge.Toml.Value
Purpose: The values of a TOML document, tables included, and putting entries into tables.
Main exports: TableKind, Toml, Toml.Entries, Toml.addEntry, Toml.enter, Toml.insertAt
-/

namespace NativeBridge

/-!
A table remembers how it came about, because that decides what may be added to it later: a table
written as a value is complete, a table that only stands on the way to another may still get a
header of its own, and a table made by dotted keys grows by dotted keys.
-/

/-- How a table came about. -/
inductive TableKind where
  /-- Written between braces. -/
  | inlined
  /-- Opened by a header of its own, or the document itself. -/
  | headed
  /-- Named on the way to another header. -/
  | implied
  /-- Made by dotted keys. -/
  | dotted
deriving Repr, Inhabited, DecidableEq

/-- A value of a TOML document. -/
inductive Toml where
  | string (text : String)
  | integer (n : Int)
  | float (literal : String)
  | boolean (b : Bool)
  /-- A date, a time or both, in normal form. -/
  | datetime (text : String)
  | array (items : List Toml)
  | table (kind : TableKind) (entries : List (String × Toml))
  /-- Tables opened one after the other under one header. -/
  | tables (elements : List (List (String × Toml)))
deriving Repr, Inhabited

namespace Toml

/-- The entries of a table, in the order they were made. -/
abbrev Entries : Type := List (String × Toml)

/-- Change the entry of a key; a missing one is made from nothing.  Nothing is changed if the change
is refused. -/
def alterEntry (key : String) (change : Option Toml → Option Toml) : Entries → Option Entries
  | [] => (change none).map fun value => [(key, value)]
  | (name, value) :: rest =>
      if name = key then (change (some value)).map fun value => (name, value) :: rest
      else (alterEntry key change rest).map fun rest => (name, value) :: rest

/-- Add an entry whose key must be new. -/
def addEntry (key : String) (value : Toml) (entries : Entries) : Option Entries :=
  if (entries.lookup key).isSome then none else some (entries ++ [(key, value)])

/-- Go down a path of keys and change the table at its end.  Missing tables are implied, a list of
tables is entered at its last, and a table between braces cannot be entered. -/
def enter (change : Entries → Option Entries) : List String → Entries → Option Entries
  | [], entries => change entries
  | key :: path, entries =>
      alterEntry key (fun
        | none => (enter change path []).map (.table .implied)
        | some (.table .inlined _) => none
        | some (.table kind inner) => (enter change path inner).map (.table kind)
        | some (.tables elements) =>
            match elements.reverse with
            | last :: before =>
                (enter change path last).map fun inner => .tables (before.reverse ++ [inner])
            | [] => none
        | some _ => none) entries

/-- Put a value under a dotted key.  The table it goes into must be made by dotted keys or be new;
tables further up may also be implied ones or the last of a list. -/
def insertAt (value : Toml) : List String → Entries → Option Entries
  | [], _ => none
  | [key], entries => addEntry key value entries
  | key :: next :: path, entries =>
      alterEntry key (fun
        | none => (insertAt value (next :: path) []).map (.table .dotted)
        | some (.table .dotted inner) =>
            (insertAt value (next :: path) inner).map (.table .dotted)
        | some (.table .implied inner) =>
            if path.isEmpty then none
            else (insertAt value (next :: path) inner).map (.table .implied)
        | some (.tables elements) =>
            match elements.reverse with
            | last :: before =>
                if path.isEmpty then none
                else (insertAt value (next :: path) last).map fun inner =>
                  .tables (before.reverse ++ [inner])
            | [] => none
        | some _ => none) entries

end Toml

end NativeBridge
