import DeclaredDebt.FileTree
import DeclaredDebt.Json.Decode
import DeclaredDebt.Json.Reader
import DeclaredDebt.Toml.Decode
import DeclaredDebt.Toml.Reader

/-!
# Project settings

A project can set what a run does by default, in a TOML or a JSON file in its directory. Both hold
the same records. At most one file counts: the TOML file if it can be read as settings, otherwise
the JSON file if it can, otherwise nothing is set. Settings of the two are never mixed.

## Main definitions

* `Settings`: what a project sets.
* `Settings.ofToml?`, `Settings.ofJson?`: settings from the text of a file.
* `FileTree.settings`: the settings for a path.
-/

namespace DeclaredDebt

/-- What a project sets. A value that is not set is left to the command. -/
structure Settings where
  /-- Patterns of files that are left out. -/
  exclude : List String := []
  format? : Option String := none
  workers? : Option Nat := none
  /-- The number of declared days from which on a run fails. -/
  failOn? : Option Nat := none
  /-- The cost below which diagnostics are hidden. -/
  minDays? : Option Nat := none
  /-- The severity of every diagnostic. -/
  severity? : Option Severity := none
  deriving DecidableEq

namespace Settings

/-- The name of the TOML file. -/
def tomlName : String := "manual-debt.toml"

/-- The name of the JSON file. -/
def jsonName : String := ".manualdebtrc.json"

/-- The records of a settings file. -/
def sections : List String := ["exclude", "defaults", "diagnostics"]

/-- The members of the record of excluded files. -/
def excludeMembers : List String := ["paths"]

/-- The members of the record of defaults. -/
def defaultMembers : List String := ["format", "workers", "fail_on", "min_days"]

/-- The members of the record about diagnostics. -/
def diagnosticMembers : List String := ["severity"]

/-- The limit of counts and of declared days. -/
def longLimit : Nat := Nat.pow 2 64

/-- The limit of the cost of a diagnostic. -/
def wordLimit : Nat := Nat.pow 2 32

/-! ## Settings in TOML -/

/-- A member that may be missing. -/
def tomlOption (f : Toml → Option α) : Option Toml → Option (Option α)
  | none => some none
  | some v => (f v).map some

/-- The record of excluded files. -/
def excludeOfToml? (v : Toml) : Option (List String) := do
  match ← Toml.record? excludeMembers v with
  | [paths] => return (← tomlOption (Toml.asList? Toml.asText?) paths).getD []
  | _ => none

/-- The record of defaults, added to settings. -/
def addDefaultsOfToml? (s : Settings) (v : Toml) : Option Settings := do
  match ← Toml.record? defaultMembers v with
  | [format, workers, failOn, minDays] =>
    return { s with
      format? := ← tomlOption Toml.asText? format
      workers? := ← tomlOption (Toml.asNat? longLimit) workers
      failOn? := ← tomlOption (Toml.asNat? longLimit) failOn
      minDays? := ← tomlOption (Toml.asNat? wordLimit) minDays }
  | _ => none

/-- The record about diagnostics. -/
def severityOfToml? (v : Toml) : Option (Option Severity) := do
  match ← Toml.record? diagnosticMembers v with
  | [severity] => tomlOption Toml.asSeverity? severity
  | _ => none

/-- The settings that a TOML value stands for. -/
def ofTomlValue? (v : Toml) : Option Settings := do
  match ← Toml.record? sections v with
  | [exclude, defaults, diagnostics] =>
    let exclude ← tomlOption excludeOfToml? exclude
    let severity ← tomlOption severityOfToml? diagnostics
    let s : Settings := { exclude := exclude.getD [], severity? := severity.getD none }
    match defaults with
    | none => return s
    | some v => addDefaultsOfToml? s v
  | _ => none

/-- The settings that a text in TOML stands for. -/
def ofToml? (text : List Char) : Option Settings := (Toml.read? text).bind ofTomlValue?

/-! ## Settings in JSON -/

/-- A value that may be missing, or null. -/
def jsonOption (f : Json → Option α) (member? : Option Json) : Option (Option α) :=
  Json.optional member? none (Json.asOption? f)

/-- The record of excluded files. -/
def excludeOfJson? (v : Json) : Option (List String) := do
  match ← Json.record? excludeMembers v with
  | [paths] => Json.optional paths [] (Json.asList? Json.asText?)
  | _ => none

/-- The record of defaults, added to settings. -/
def addDefaultsOfJson? (s : Settings) (v : Json) : Option Settings := do
  match ← Json.record? defaultMembers v with
  | [format, workers, failOn, minDays] =>
    return { s with
      format? := ← jsonOption Json.asText? format
      workers? := ← jsonOption (Json.asNat? longLimit) workers
      failOn? := ← jsonOption (Json.asNat? longLimit) failOn
      minDays? := ← jsonOption (Json.asNat? wordLimit) minDays }
  | _ => none

/-- The record about diagnostics. -/
def severityOfJson? (v : Json) : Option (Option Severity) := do
  match ← Json.record? diagnosticMembers v with
  | [severity] => jsonOption Json.asSeverity? severity
  | _ => none

/-- The settings that a JSON value stands for. -/
def ofJsonValue? (v : Json) : Option Settings := do
  match ← Json.record? sections v with
  | [exclude, defaults, diagnostics] =>
    let exclude ← Json.optional exclude [] excludeOfJson?
    let severity ← Json.optional diagnostics none severityOfJson?
    Json.optional defaults { exclude, severity? := severity }
      (addDefaultsOfJson? { exclude, severity? := severity })
  | _ => none

/-- The settings that a text in JSON stands for. -/
def ofJson? (text : List Char) : Option Settings := (Json.readText? text).bind ofJsonValue?

end Settings

namespace FileTree

/-- The directory whose settings count for a path: the path itself, or the directory of a file. -/
def settingsDirectory (t : FileTree) (path : Path) : Path :=
  if t.isFile path then path.parent?.getD path else path

/-- The settings in a file, if it can be read as settings. -/
def settingsIn? (t : FileTree) (file : Path) (ofText? : List Char → Option Settings) :
    Option Settings :=
  match t.readText file with
  | .ok text => ofText? text
  | .error _ => none

/-- The settings for a path. -/
def settings (t : FileTree) (path : Path) : Settings :=
  let directory := t.settingsDirectory path
  match t.settingsIn? (directory.join Settings.tomlName) Settings.ofToml? with
  | some s => s
  | none =>
    match t.settingsIn? (directory.join Settings.jsonName) Settings.ofJson? with
    | some s => s
    | none => {}

end FileTree

end DeclaredDebt
