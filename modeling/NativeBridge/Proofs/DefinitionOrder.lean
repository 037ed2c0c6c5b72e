/-
Module: NativeBridge.Proofs.DefinitionOrder
Purpose: The definitions of a loaded configuration stand in rising order of their names.
Main exports: Config.Rising, Config.insertDefine_rising, Config.decodeCompiler_rising,
  Config.Origin.load_rising
-/
import NativeBridge.Proofs.SettingPrecedence
import Mathlib.Data.String.Basic

namespace NativeBridge.Config

/-!
Definitions are put in their places one by one as they are read from a table.  Nothing that is done
with a configuration afterwards touches them.
-/

/-- Definitions stand in rising order of their names; so no name is defined twice. -/
def Rising (defines : List (String × String)) : Prop :=
  defines.Pairwise fun one other => one.1 < other.1

theorem mem_insertDefine {name value : String} {defines : List (String × String)}
    {define : String × String} (among : define ∈ insertDefine name value defines) :
    define = (name, value) ∨ define ∈ defines := by
  induction defines with
  | nil => exact .inl (List.mem_singleton.mp among)
  | cons first rest ih =>
    rw [insertDefine] at among
    split at among
    · exact List.mem_cons.mp among
    · split at among
      · exact (List.mem_cons.mp among).imp_right (List.mem_cons_of_mem _)
      · rcases List.mem_cons.mp among with rfl | later
        · exact .inr List.mem_cons_self
        · exact (ih later).imp_right (List.mem_cons_of_mem _)

/-- A definition is put in its place. -/
theorem insertDefine_rising (name value : String) {defines : List (String × String)}
    (rising : Rising defines) : Rising (insertDefine name value defines) := by
  induction defines with
  | nil => exact List.pairwise_singleton _ _
  | cons first rest ih =>
    obtain ⟨other, otherValue⟩ := first
    obtain ⟨above, rising⟩ := List.pairwise_cons.mp rising
    rw [insertDefine]
    split
    · next below =>
      refine List.pairwise_cons.mpr ⟨?_, List.pairwise_cons.mpr ⟨above, rising⟩⟩
      intro define among
      rcases List.mem_cons.mp among with rfl | later
      · exact below
      · exact lt_trans below (above define later)
    · next below =>
      split
      · next same =>
        rw [same]
        exact List.pairwise_cons.mpr ⟨above, rising⟩
      · next different =>
        refine List.pairwise_cons.mpr ⟨?_, ih rising⟩
        intro define among
        rcases mem_insertDefine among with rfl | later
        · exact lt_of_le_of_ne (not_lt.mp below) (Ne.symm different)
        · exact above define later

/-- Definitions are put in their places one after another. -/
theorem insertDefines_rising (pairs : List (String × String)) {sorted : List (String × String)}
    (rising : Rising sorted) :
    Rising (pairs.foldl (fun sorted (name, text) => insertDefine name text sorted) sorted) := by
  induction pairs generalizing sorted with
  | nil => exact rising
  | cons pair rest ih => exact ih (insertDefine_rising pair.1 pair.2 rising)

theorem decodeDefines_rising {value : Toml} {defines : List (String × String)}
    (decoded : decodeDefines value = some defines) : Rising defines := by
  unfold decodeDefines at decoded
  split at decoded
  · obtain ⟨pairs, -, ends⟩ := Option.bind_eq_some_iff.mp decoded
    obtain rfl := Option.some.inj ends
    exact insertDefines_rising pairs List.Pairwise.nil
  · obtain rfl := Option.some.inj decoded
    exact List.pairwise_singleton _ _
  · cases decoded

/-- A setting is absent, or it is what is read for its key. -/
theorem setting_cases {α : Type} {decode : Decoder α} {key : String} {entries : Toml.Entries}
    {found : Option α} (decoded : setting decode key entries = some found) :
    found = none ∨ ∃ value read, decode value = some read ∧ found = some read := by
  unfold setting at decoded
  split at decoded
  · exact .inl (Option.some.inj decoded).symm
  · obtain ⟨read, reads, same⟩ := Option.map_eq_some_iff.mp decoded
    exact .inr ⟨_, read, reads, same.symm⟩

theorem setting_rising {entries : Toml.Entries} {defines : Option (List (String × String))}
    (decoded : setting decodeDefines "defines" entries = some defines) :
    Rising (defines.getD []) := by
  obtain rfl | ⟨value, read, reads, rfl⟩ := setting_cases decoded
  · exact List.Pairwise.nil
  · exact decodeDefines_rising reads

/-- Either form of a compiler section gives its definitions in order. -/
theorem decodeCompiler_rising {value : Toml} {settings : CompilerSection}
    (decoded : decodeCompiler value = some settings) : Rising settings.defines := by
  unfold decodeCompiler at decoded
  split at decoded
  · split at decoded
    · simp only [Option.bind_eq_bind, Option.bind_eq_some_iff] at decoded
      obtain ⟨_, -, _, -, _, -, _, -, _, -, _, -, defines, read, _, -, _, -, ends⟩ := decoded
      obtain rfl := Option.some.inj ends
      exact setting_rising read
    · cases decoded
  · obtain ⟨items, -, decoded⟩ := Option.bind_eq_some_iff.mp decoded
    split at decoded
    · simp only [Option.bind_eq_bind, Option.bind_eq_some_iff] at decoded
      obtain ⟨_, -, _, -, _, -, _, -, _, -, _, -, defines, read, _, -, _, -, ends⟩ := decoded
      obtain rfl := Option.some.inj ends
      exact decodeDefines_rising read
    · cases decoded

theorem ProjectConfig.parse_rising {text : String} {config : ProjectConfig}
    (parsed : ProjectConfig.parse text = some config) : Rising config.settings.defines := by
  obtain ⟨document, -, decoded⟩ := Option.bind_eq_some_iff.mp parsed
  unfold decode at decoded
  split at decoded
  · split at decoded
    · obtain ⟨compiler, read, decoded⟩ := Option.bind_eq_some_iff.mp decoded
      obtain ⟨naming, -, ends⟩ := Option.bind_eq_some_iff.mp decoded
      obtain rfl := Option.some.inj ends
      obtain rfl | ⟨value, settings, settled, rfl⟩ := setting_cases read
      · exact List.Pairwise.nil
      · exact decodeCompiler_rising settled
    · cases decoded
  · cases decoded

theorem loadProjectFile_rising {files : FileSystem} {path : String} {config : ProjectConfig}
    (loaded : loadProjectFile files path = .ok config) : Rising config.settings.defines := by
  obtain ⟨content, -, loaded⟩ := checked_then loaded
  cases parsed : ProjectConfig.parse content with
  | none =>
    rw [parsed] at loaded
    cases loaded
  | some read =>
    rw [parsed] at loaded
    obtain ⟨-, -, same⟩ := checked_then loaded
    cases same
    exact ProjectConfig.parse_rising parsed

/-- The definitions of a configuration that loads stand in rising order of their names. -/
theorem Origin.load_rising {surroundings : Surroundings} {globalPath : Option String}
    {origin : Origin} {config : Config}
    (loaded : origin.load surroundings globalPath = .ok config) :
    Rising config.compiler.defines := by
  obtain ⟨layers, found, overridden, user, root⟩ := load_found loaded
  rw [(Layers.settle overridden user root).defines]
  have project := found.project
  cases file : origin.file? surroundings.files with
  | none =>
    rw [file] at project
    dsimp only at project
    rw [project]
    exact List.Pairwise.nil
  | some path =>
    rw [file] at project
    exact loadProjectFile_rising project

end NativeBridge.Config
