import EntityGen.Json.Record
import EntityGen.Settings

/-! # The JSON form of settings

Every field of the settings has a default, and so has the whole text: an empty one stands for the
default settings.
-/

namespace EntityGen.Json

open Reader

structure InflectionsParts where
  irregular : Option (List (String × String)) := none
  uncountable : Option (List String) := none

def inflectionsRecord : Record InflectionsParts Inflections where
  name := "InflectionConfig"
  empty := {}
  fields := [
    .of "irregular" (·.irregular) (fun p x => { p with irregular := some x })
      (mapping Inflections.insertPair []),
    .of "uncountable" (·.uncountable) (fun p x => { p with uncountable := some x }) (list text)]
  build p := .ok { irregular := p.irregular.getD [], uncountable := p.uncountable.getD [] }

structure SettingsParts where
  navigationSuffix : Option String := none
  collectionType : Option String := none
  emitHeader : Option Bool := none
  inflections : Option Inflections := none

def settingsRecord : Record SettingsParts Settings where
  name := "GeneratorConfig"
  empty := {}
  fields := [
    .of "navigation_suffix" (·.navigationSuffix) (fun p x => { p with navigationSuffix := some x })
      text,
    .of "collection_type" (·.collectionType) (fun p x => { p with collectionType := some x }) text,
    .of "emit_header" (·.emitHeader) (fun p x => { p with emitHeader := some x }) flag,
    .of "inflections" (·.inflections) (fun p x => { p with inflections := some x })
      inflectionsRecord.read]
  build p :=
    let default : Settings := {}
    .ok {
      navigationSuffix := p.navigationSuffix.getD default.navigationSuffix
      collectionType := p.collectionType.getD default.collectionType
      emitHeader := p.emitHeader.getD default.emitHeader
      inflections := p.inflections.getD default.inflections }

end EntityGen.Json

namespace EntityGen

/-- Reads settings from their JSON form. -/
def Settings.ofJson (text : String) : Except Json.Error Settings :=
  if text.isEmpty then .ok {} else Json.settingsRecord.read.whole text

end EntityGen
