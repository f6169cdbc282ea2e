import MediaImport.Text.Blank

/-!
# Online services

The integrations that scripts may ask about.  Which of them are enabled is a
matter of configuration: scripts see the identifier of an enabled service and
minus one for any other.

`EnabledServices.ofList` reads a comma-separated list.  An element counts if it
is the name of a service up to white space around it and ASCII case; others are
skipped, and a repeated service is kept where it first occurs.
-/

namespace MediaImport.Media

/-- A service whose contents can be imported. -/
inductive OnlineService where
  | youTube
  | sopCast
  | appleTrailers
  deriving DecidableEq

namespace OnlineService

/-- Every service, in the order in which scripts are told about them. -/
def all : List OnlineService := [.youTube, .sopCast, .appleTrailers]

/-- The identifier of an enabled service. -/
def id : OnlineService → Int32
  | .youTube => 1
  | .sopCast => 2
  | .appleTrailers => 4

/-- The name in configuration. -/
def name : OnlineService → String
  | .youTube => "youtube"
  | .sopCast => "sopcast"
  | .appleTrailers => "apple_trailers"

/-- The global variable that scripts read. -/
def globalName : OnlineService → String
  | .youTube => "ONLINE_SERVICE_YOUTUBE"
  | .sopCast => "ONLINE_SERVICE_SOPCAST"
  | .appleTrailers => "ONLINE_SERVICE_APPLE_TRAILERS"

/-- The service that a text names, white space around it and ASCII case aside. -/
def ofText? (text : String) : Option OnlineService :=
  all.find? fun service => Text.sameLetters service.name (Text.trim text)

end OnlineService

/-- The identifier of objects that come from no service. -/
def noServiceId : Int32 := 0

/-- The identifier that scripts see for a service that is not enabled. -/
def unsupportedServiceId : Int32 := -1

/-- The auxiliary text under which the service of an object is recorded. -/
def serviceKey : String := "os"

/-- The auxiliary text that holds the post date of a trailer. -/
def trailerPostDateKey : String := "T0"

/-- The services that are enabled, without repetitions. -/
structure EnabledServices where
  services : List OnlineService
  nodup : services.Nodup
  deriving DecidableEq

namespace EnabledServices

/-- Put a service behind the others unless it is among them. -/
def insert (enabled : EnabledServices) (service : OnlineService) : EnabledServices :=
  if known : service ∈ enabled.services then enabled
  else
    { services := enabled.services ++ [service]
      nodup := by
        simp only [List.nodup_append, enabled.nodup, List.mem_singleton, true_and]
        refine ⟨by simp, ?_⟩
        rintro earlier isEarlier _ rfl same
        exact known (same ▸ isEarlier) }

/-- No service. -/
def none : EnabledServices := ⟨[], List.nodup_nil⟩

/-- The services of a list, each where it first occurs. -/
def ofServices (services : List OnlineService) : EnabledServices :=
  services.foldl insert none

/-- The services that a comma-separated list names. -/
def ofList (text : String) : EnabledServices :=
  ofServices <|
    ((Text.split ',' text).map Text.trim).filterMap OnlineService.ofText?

def isEnabled (enabled : EnabledServices) (service : OnlineService) : Bool :=
  service ∈ enabled.services

/-- The identifier that scripts see for a service. -/
def scriptId (enabled : EnabledServices) (service : OnlineService) : Int32 :=
  if enabled.isEnabled service then service.id else unsupportedServiceId

end EnabledServices

end MediaImport.Media
