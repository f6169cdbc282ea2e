/-!
# Setting keys

The settings that the import scripts depend on, and the dotted names under
which an application stores them.
-/

namespace MediaImport

/-- A setting. -/
inductive SettingKey where
  | commonScript
  | filesystemCharset
  | metadataCharset
  | playlistCharset
  | scriptCharset
  | onlineServices
  | trustLevel
  deriving DecidableEq

namespace SettingKey

/-- The dotted name of a setting. -/
def name : SettingKey → String
  | commonScript => "import.scripting.common_script"
  | filesystemCharset => "import.filesystem_charset"
  | metadataCharset => "import.metadata_charset"
  | playlistCharset => "import.playlist_charset"
  | scriptCharset => "import.scripting.script_charset"
  | onlineServices => "import.online_services"
  | trustLevel => "import.scripting.trust_level"

/-- Every setting. -/
def all : List SettingKey :=
  [commonScript, filesystemCharset, metadataCharset, playlistCharset, scriptCharset,
    onlineServices, trustLevel]

end SettingKey

end MediaImport
