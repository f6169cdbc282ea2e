import Mathlib.Logic.Basic
import MediaImport.Importer.Context
import MediaImport.Proofs.Text.Separated
import MediaImport.Settings.Configuration

/-!
# Settings that are stored as texts

A configuration knows its online services and its trust level as data, and an application that
stores plain texts reads both from texts.  If the texts are those that the configuration reads
back as, it comes to the same: the names of services stand between commas and are found again, in
order, and so is the name of the trust level.
-/

namespace MediaImport

open Importer
open Media (EnabledServices OnlineService)

/-! ## Names -/

namespace Media

theorem OnlineService.ofText?_name (service : OnlineService) :
    OnlineService.ofText? (Text.trim service.name) = some service := by
  cases service <;> decide

theorem OnlineService.comma_notMem_name (service : OnlineService) :
    ',' ∉ service.name.toList := by
  cases service <;> decide

namespace EnabledServices

/-- What a list names is found again behind the names of its services. -/
theorem ofList_names (services : List OnlineService) :
    ofList (",".intercalate (services.map OnlineService.name)) = ofServices services := by
  by_cases none : services = []
  · subst none
    decide
  · have pieces : Text.split ',' (",".intercalate (services.map OnlineService.name)) =
        services.map OnlineService.name := by
      refine Text.split_intercalate (by simpa using none) ?_
      simpa using fun service _ => service.comma_notMem_name
    rw [ofList, pieces, List.filterMap_map, List.filterMap_map]
    have found : (OnlineService.ofText? ∘ Text.trim) ∘ OnlineService.name = some := by
      funext service
      rw [Function.comp_apply, Function.comp_apply, OnlineService.ofText?_name]
    rw [found, List.filterMap_some]

/-- Of a list, each service is enabled where it first occurs. -/
theorem services_ofServices (services : List OnlineService) :
    (ofServices services).services = services.eraseDups := by
  suffices behind : ∀ enabled : EnabledServices, (services.foldl insert enabled).services =
      enabled.services ++ (services.filter (· ∉ enabled.services)).eraseDups by
    have fromNone := behind none
    rwa [show none.services = [] from rfl, List.nil_append, List.filter_eq_self.mpr (by simp)]
      at fromNone
  induction services with
  | nil => simp
  | cons first rest ih =>
    intro enabled
    rw [List.foldl_cons, ih]
    by_cases known : first ∈ enabled.services
    · simp [insert, known]
    · simp [insert, known, List.eraseDups_cons, List.filter_filter, Bool.and_comm,
        beq_eq_decide]

end EnabledServices

end Media

theorem Settings.trustOf_name (level : TrustLevel) : trustOf level.name = level := by
  cases level <;> decide

/-! ## Configurations -/

namespace Configuration

/-- The settings of a configuration are those that its texts make. -/
theorem ofTexts_text (configuration : Configuration) :
    Settings.ofTexts configuration.text = configuration.settings := by
  rw [Settings.ofTexts, settings, text, text, EnabledServices.ofList_names, Settings.trustOf_name]

/-- An application that stores the texts of a configuration enables the same services in the same
order, each once, with the same identifiers for scripts, and has the same trust level and the same
character sets, or refuses the same one.  So a context has the same globals to begin with, and to
make it comes to the same whatever the application and the common script are. -/
theorem agrees_with_stored_texts (configuration : Configuration) :
    let stored := Settings.ofTexts configuration.settings.text
    stored.services.services = configuration.settings.services.services ∧
    stored.services.services = configuration.onlineServices.eraseDups ∧
    (∀ service, stored.services.scriptId service =
      configuration.settings.services.scriptId service) ∧
    stored.trust = configuration.settings.trust ∧
    Conversions.ofSettings stored = Conversions.ofSettings configuration.settings ∧
    (∀ world, prepared stored world = prepared configuration.settings world) ∧
    ∀ (importer : Importer) (shortage : Shortage) (source : ScriptSource) (name : String)
      (purpose : Purpose),
      importer.constructUnder shortage source stored name purpose =
        importer.constructUnder shortage source configuration.settings name purpose := by
  have same : Settings.ofTexts configuration.settings.text = configuration.settings :=
    configuration.ofTexts_text
  intro stored
  rw [show stored = configuration.settings from same]
  exact ⟨rfl, EnabledServices.services_ofServices _, fun _ => rfl, rfl, rfl,
    fun _ => rfl, fun _ _ _ _ _ => rfl⟩

/-- Services may be named in any order and more than once. -/
example : (Settings.ofTexts ({ onlineServices := [.sopCast, .youTube, .sopCast] } :
    Configuration).text).services.services = [.sopCast, .youTube] := by
  decide

end Configuration

end MediaImport
