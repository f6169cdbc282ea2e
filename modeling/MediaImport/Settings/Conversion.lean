import MediaImport.Failure
import MediaImport.Settings.Basic
import MediaImport.Settings.Charset

/-!
# Conversions

A script context reads bytes from several places, each with a character set of
its own: file names, embedded metadata, playlists and script files.  What
scripts hand back in an import context is internal text and always UTF-8.
-/

namespace MediaImport

/-- Where bytes come from. -/
inductive Flavor where
  | filesystem
  | metadata
  | playlist
  | script
  /-- Text that is already in the internal form. -/
  | internal
  deriving DecidableEq

/-- The character sets of a script context. -/
structure Conversions where
  filesystem : Charset
  metadata : Charset
  playlist : Charset
  script : Charset
  deriving DecidableEq

namespace Conversions

/-- The character set that a setting names; UTF-8 if it has no text. -/
def charsetOf (settings : Settings) (key : SettingKey) : Except SetupFailure Charset :=
  let text := settings.text key
  let label := if text.isEmpty then "UTF-8" else text
  match Charset.ofLabel? label with
  | some charset => .ok charset
  | none => .error (.unsupportedCharset label key)

/-- The character sets that settings name, or the first one that is unknown. -/
def ofSettings (settings : Settings) : Except SetupFailure Conversions := do
  let filesystem ← charsetOf settings .filesystemCharset
  let metadata ← charsetOf settings .metadataCharset
  let playlist ← charsetOf settings .playlistCharset
  let script ← charsetOf settings .scriptCharset
  return { filesystem, metadata, playlist, script }

/-- The character set of bytes from somewhere. -/
def charset (conversions : Conversions) : Flavor → Charset
  | .filesystem => conversions.filesystem
  | .metadata => conversions.metadata
  | .playlist => conversions.playlist
  | .script => conversions.script
  | .internal => .utf8

/-- The text of bytes from somewhere. -/
def convert (conversions : Conversions) (flavor : Flavor) (bytes : Bytes) :
    Except ConversionFailure String :=
  ((conversions.charset flavor).decode bytes).mapError ConversionFailure.mk

/-- The text of a script file. -/
def convertFile (conversions : Conversions) (bytes : Bytes) :
    Except ConversionFailure String :=
  (conversions.script.decodeFile bytes).mapError ConversionFailure.mk

end Conversions

/-- Where the texts come from that a script hands back: entries of a playlist
are still in the character set of playlists. -/
def Purpose.flavor : Purpose → Flavor
  | .layout => .internal
  | .playlist => .playlist

end MediaImport
