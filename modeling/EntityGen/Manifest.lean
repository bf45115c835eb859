import EntityGen.Log.Level
import EntityGen.Path
import EntityGen.Schema
import EntityGen.Settings
import EntityGen.Text.Alphanumeric
import EntityGen.Toml.Decode
import EntityGen.Toml.Parser

/-! # Manifests

A manifest lists the targets of a project, with its directories and settings. Validation makes sure
that the names in it can stand in code and that no two targets share a file.
-/

namespace EntityGen

structure Project where
  schemaDir : String := "schemas"
  outputDir : String := "Generated"
  logLevel : Option String := none
  deriving Repr, DecidableEq

structure Manifest where
  project : Project := {}
  settings : Settings := {}
  targets : List Target := []
  deriving Repr, DecidableEq

/-! ## Reading -/

namespace Toml

open Value

def project? (v : Value) : Option Project := do
  let fields ← v.record? ["schema_dir", "output_dir", "log_level"]
  let default : Project := {}
  return {
    schemaDir := ← fields.withDefault? "schema_dir" default.schemaDir string?
    outputDir := ← fields.withDefault? "output_dir" default.outputDir string?
    logLevel := ← fields.withDefault? "log_level" none fun v => v.string?.map some }

def pairs? (v : Value) : Option (List (String × String)) := do
  let entries ← v.entries?
  entries.foldlM (fun pairs e => e.2.string?.map fun s => Inflections.insertPair e.1 s pairs) []

def inflections? (v : Value) : Option Inflections := do
  let fields ← v.record? ["irregular", "uncountable"]
  return {
    irregular := ← fields.withDefault? "irregular" [] pairs?
    uncountable := ← fields.withDefault? "uncountable" [] (list? string?) }

def settings? (v : Value) : Option Settings := do
  let fields ← v.record? ["navigation_suffix", "collection_type", "emit_header", "inflections"]
  let default : Settings := {}
  return {
    navigationSuffix := ← fields.withDefault? "navigation_suffix" default.navigationSuffix string?
    collectionType := ← fields.withDefault? "collection_type" default.collectionType string?
    emitHeader := ← fields.withDefault? "emit_header" default.emitHeader boolean?
    inflections := ← fields.withDefault? "inflections" default.inflections inflections? }

def target? (v : Value) : Option Target := do
  let fields ← v.record? ["class_name", "namespace", "source"]
  return {
    className := ← fields.required? "class_name" string?
    nameSpace := ← fields.withDefault? "namespace" "" string?
    source := ← fields.required? "source" string? }

end Toml

/-- Reads a manifest. A text that is no document of the right types is none. -/
def Manifest.ofToml? (text : String) : Option Manifest := do
  let fields ← Toml.parse? text
  return {
    project := ← fields.withDefault? "project" {} Toml.project?
    settings := ← fields.withDefault? "generator" {} Toml.settings?
    targets := ← fields.withDefault? "target" [] (Toml.Value.list? Toml.target?) }

/-! ## Validation -/

inductive ManifestError
  | noTargets
  | invalidCollectionType (name : String)
  | invalidSuffix (suffix : String)
  | invalidLevel (name : String)
  | emptyClassName
  | invalidClassName (name : String)
  | emptySource (className : String)
  | invalidNamespace (className nameSpace : String)
  | duplicateTarget (className nameSpace : String)
  deriving Repr, DecidableEq

def ManifestError.message : ManifestError → String
  | noTargets => "Manifest declares no [[target]] entries"
  | invalidCollectionType name => s!"Collection type is not a valid identifier: '{name}'"
  | invalidSuffix suffix =>
    s!"Navigation suffix may only contain letters, digits and '_': '{suffix}'"
  | invalidLevel name => LogLevel.invalidMessage name
  | emptyClassName => "Target class name cannot be empty"
  | invalidClassName name => s!"Target class name is not a valid identifier: '{name}'"
  | emptySource className => s!"Target '{className}' has an empty source"
  | invalidNamespace className nameSpace =>
    s!"Target '{className}' has an invalid namespace: '{nameSpace}'"
  | duplicateTarget className nameSpace =>
    s!"Duplicate target: '{className}' in namespace '{nameSpace}'"

/-- An identifier is made of ASCII letters, digits and underscores and starts with no digit. -/
def isIdentifier (cs : List Char) : Bool :=
  match cs with
  | [] => false
  | c :: rest => (c.isAlpha || c == '_') && rest.all fun d => d.isAlphanum || d == '_'

namespace Target

/-- What is wrong with a target on its own. -/
def error? (t : Target) : Option ManifestError :=
  if t.className.isEmpty then some .emptyClassName
  else if !isIdentifier t.className.toList then some (.invalidClassName t.className)
  else if (Text.trim t.source.toList).isEmpty then some (.emptySource t.className)
  else if !t.nameSpace.isEmpty && !(t.nameSpace.toList.splitOn '.').all isIdentifier then
    some (.invalidNamespace t.className t.nameSpace)
  else none

/-- The first error in a list of targets; `files` are the file names taken by earlier ones. -/
def firstError? (files : List String) : List Target → Option ManifestError
  | [] => none
  | t :: rest =>
    match t.error? with
    | some e => some e
    | none =>
      if files.contains t.fileName then some (.duplicateTarget t.className t.nameSpace)
      else firstError? (t.fileName :: files) rest

end Target

namespace Manifest

def fileName : String := "schemagen.toml"

/-- The first reason to reject a manifest. -/
def error? (m : Manifest) : Option ManifestError :=
  let isSuffixChar (c : Char) : Bool := Text.isAlphanumeric c || c == '_'
  if m.targets.isEmpty then some .noTargets
  else if !isIdentifier m.settings.collectionType.toList then
    some (.invalidCollectionType m.settings.collectionType)
  else if !m.settings.navigationSuffix.toList.all isSuffixChar then
    some (.invalidSuffix m.settings.navigationSuffix)
  else
    match m.project.logLevel.filter fun l => (LogLevel.ofName? l).isNone with
    | some level => some (.invalidLevel level)
    | none => Target.firstError? [] m.targets

/-- The schema directory, seen from where the directory of the manifest is. -/
def schemaDir (m : Manifest) (base : String) : String :=
  Path.join base m.project.schemaDir

def outputDir (m : Manifest) (base : String) : String :=
  Path.join base m.project.outputDir

end Manifest

end EntityGen
