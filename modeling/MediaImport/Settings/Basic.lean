import MediaImport.Media.OnlineService
import MediaImport.Settings.Key
import MediaImport.Settings.Purpose

/-!
# Settings

What an application tells the scripting layer: a text for every setting, the
enabled online services, and the trust level.  An application that stores plain
texts only gets the last two by reading them (`Settings.ofTexts`).
-/

namespace MediaImport

open Media (EnabledServices)

/-- The settings of an application.  A setting that is not set has no text. -/
structure Settings where
  text : SettingKey → String
  services : EnabledServices
  trust : TrustLevel

namespace Settings

/-- The trust level that a text names, and the basic one if it names none. -/
def trustOf (text : String) : TrustLevel :=
  match TrustLevel.ofText text with
  | .ok level => level
  | .error _ => .basic

/-- Settings that are stored as plain texts. -/
def ofTexts (text : SettingKey → String) : Settings where
  text := text
  services := EnabledServices.ofList (text .onlineServices)
  trust := trustOf (text .trustLevel)

end Settings

end MediaImport
