/-
Module: NativeBridge.OutputMode
Purpose: What a compilation produces, and the words and numbers for it.
Main exports: OutputMode, OutputMode.parse?, OutputMode.word, OutputMode.code, OutputMode.emitsFile
-/
import NativeBridge.Text.Case

namespace NativeBridge

/-- What a compilation produces. -/
inductive OutputMode where
  /-- Code in memory, run in this process. -/
  | memory
  | exe
  | dll
  | obj
  /-- Preprocessed source only. -/
  | preprocess
deriving Repr, Inhabited, DecidableEq

namespace OutputMode

/-- All modes, in the order of their numbers. -/
def all : List OutputMode := [memory, exe, dll, obj, preprocess]

/-- The word for a mode in configuration files and messages. -/
def word : OutputMode → String
  | memory => "memory"
  | exe => "exe"
  | dll => "dll"
  | obj => "obj"
  | preprocess => "preprocess"

/-- The name of a mode in inspection output. -/
def title : OutputMode → String
  | memory => "Memory"
  | exe => "Exe"
  | dll => "Dll"
  | obj => "Obj"
  | preprocess => "Preprocess"

/-- The number a compiler library knows a mode by. -/
def code : OutputMode → Int32
  | memory => 1
  | exe => 2
  | dll => 3
  | obj => 4
  | preprocess => 5

/-- Whether a mode writes a file. -/
def emitsFile (mode : OutputMode) : Bool :=
  mode != memory

/-- The mode of a word, in whatever case its ASCII letters are. -/
def parse? (word : String) : Option OutputMode :=
  all.find? fun mode => mode.word == Text.toAsciiLower word

end OutputMode

end NativeBridge
