import MediaImport.Json.Fields
import MediaImport.Json.Reader
import MediaImport.Settings.Basic

/-!
# Configuration files

A configuration file is a JSON record in which every field has a default.  As
settings, its fields read back as the texts that a plain store would hold.
-/

namespace MediaImport

open Json (optional?)
open Media (EnabledServices OnlineService)

/-- The contents of a configuration file. -/
structure Configuration where
  commonScript : Option String := none
  filesystemCharset : String := "UTF-8"
  metadataCharset : String := "UTF-8"
  playlistCharset : String := "UTF-8"
  scriptCharset : String := "UTF-8"
  onlineServices : List OnlineService := []
  trustLevel : TrustLevel := .basic
  deriving DecidableEq

namespace Configuration

/-- The text that a setting reads back as. -/
def text (configuration : Configuration) : SettingKey → String
  | .commonScript => configuration.commonScript.getD ""
  | .filesystemCharset => configuration.filesystemCharset
  | .metadataCharset => configuration.metadataCharset
  | .playlistCharset => configuration.playlistCharset
  | .scriptCharset => configuration.scriptCharset
  | .onlineServices => ",".intercalate (configuration.onlineServices.map OnlineService.name)
  | .trustLevel => configuration.trustLevel.name

def settings (configuration : Configuration) : Settings where
  text := configuration.text
  services := EnabledServices.ofServices configuration.onlineServices
  trust := configuration.trustLevel

/-! ## The file format -/

/-- A service by its exact name. -/
def serviceOfJson? (json : Json) : Option OnlineService := do
  let name ← json.asName?
  OnlineService.all.find? fun service => service.name = name

/-- A trust level by its exact name. -/
def trustOfJson? (json : Json) : Option TrustLevel := do
  let name ← json.asName?
  [TrustLevel.basic, .fileRead, .elevated].find? fun level => level.name = name

/-- A script, or null for none. -/
def scriptOfJson? : Json → Option (Option String)
  | .null => some none
  | json => json.asText?.map some

/-- The names of the fields, in the order of the array form. -/
def fieldNames : List String :=
  ["common_script", "filesystem_charset", "metadata_charset", "playlist_charset",
    "script_charset", "online_services", "trust_level"]

def ofJson? (json : Json) : Option Configuration := do
  let default : Configuration := {}
  match ← json.fields? fieldNames with
  | [commonScript, filesystem, metadata, playlist, script, services, trust] =>
    return {
      commonScript := ← optional? scriptOfJson? default.commonScript commonScript
      filesystemCharset :=
        ← optional? Json.asText? default.filesystemCharset filesystem
      metadataCharset := ← optional? Json.asText? default.metadataCharset metadata
      playlistCharset := ← optional? Json.asText? default.playlistCharset playlist
      scriptCharset := ← optional? Json.asText? default.scriptCharset script
      onlineServices :=
        ← optional? (Json.asList? serviceOfJson?) default.onlineServices services
      trustLevel := ← optional? trustOfJson? default.trustLevel trust }
  | _ => none

/-- The configuration that a text spells. -/
def parse? (text : String) : Option Configuration :=
  (Json.parse? text).bind ofJson?

def toJson (configuration : Configuration) : Json :=
  .ofMembers [
    ("common_script", (configuration.commonScript.map Json.ofString).getD .null),
    ("filesystem_charset", .ofString configuration.filesystemCharset),
    ("metadata_charset", .ofString configuration.metadataCharset),
    ("online_services",
      .array (configuration.onlineServices.map fun service => .ofString service.name)),
    ("playlist_charset", .ofString configuration.playlistCharset),
    ("script_charset", .ofString configuration.scriptCharset),
    ("trust_level", .ofString configuration.trustLevel.name)]

end Configuration

end MediaImport
