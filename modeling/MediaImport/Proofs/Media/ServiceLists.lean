import MediaImport.Media.OnlineService
import MediaImport.Proofs.Text.Separated
import MediaImport.Proofs.Text.Trimmed
import Mathlib.Data.List.Induction

/-!
# Lists of services

A text enables the services that its elements name, each one where it is first named.  Elements are
what stands between commas; an element names a service if it is the name of it with blanks around
it, in whatever case its ASCII letters are (`Names`).

The list of a text grows element by element.  One that names a service not yet in the list puts it
behind the others, and any other element leaves the list as it is.  So two texts with a comma
between them enable what the first one enables, followed by what only the second one does, and
elements that name nothing might as well not be there.
-/

namespace MediaImport.Media

/-- An element of a list names a service. -/
def Names (element : String) (service : OnlineService) : Prop :=
  ∃ word, Text.IsPadded word element.toList ∧
    word.map Char.toLower = service.name.toList.map Char.toLower

/-- Of two services, one is named by an element of a list before any names the other. -/
def NamedBefore (elements : List String) (earlier later : OnlineService) : Prop :=
  ∃ before element after, elements = before ++ element :: after ∧ Names element earlier ∧
    ∀ other ∈ before ++ [element], ¬Names other later

theorem NamedBefore.concat {elements : List String}
    {earlier later : OnlineService} (before : NamedBefore elements earlier later)
    (element : String) : NamedBefore (elements ++ [element]) earlier later := by
  obtain ⟨front, names, back, rfl, first, others⟩ := before
  exact ⟨front, names, back ++ [element], by simp, first, others⟩

namespace OnlineService

variable {element : String} {service : OnlineService}

/-! ## Names -/

theorem lowercase_name_inj {service another : OnlineService}
    (same : Text.lowercase service.name = Text.lowercase another.name) : service = another := by
  cases service <;> cases another <;> first | rfl | exact absurd same (by decide)

theorem sameLetters_iff {left right : String} :
    Text.sameLetters left right = true ↔
      left.toList.map Char.toLower = right.toList.map Char.toLower := by
  rw [Text.sameLetters, beq_iff_eq, Text.lowercase, Text.lowercase, String.ofList_inj]

theorem mem_all (service : OnlineService) : service ∈ all := by
  cases service <;> decide

theorem sameLetters_of_ofText? {text : String} (found : ofText? text = some service) :
    Text.sameLetters service.name (Text.trim text) = true := by
  rw [ofText?] at found
  have holds := List.find?_some found
  exact holds

theorem ofText?_eq_some_iff {text : String} :
    ofText? text = some service ↔ Text.sameLetters service.name (Text.trim text) = true := by
  refine ⟨sameLetters_of_ofText?, ?_⟩
  intro same
  have found : (ofText? text).isSome = true := by
    rw [ofText?, List.find?_isSome]
    exact ⟨service, service.mem_all, same⟩
  obtain ⟨another, is⟩ := Option.isSome_iff_exists.mp found
  have other := sameLetters_of_ofText? is
  rw [Text.sameLetters, beq_iff_eq] at same other
  rw [is, lowercase_name_inj (other.trans same.symm)]

/-- No letter has a blank for its lower case. -/
theorem toLower_of_isBlank {character : Char} (blank : Text.isBlank character = true) :
    character.toLower = character := by
  unfold Char.toLower
  split
  · next upper =>
    exfalso
    have least : 65 ≤ character.toNat := UInt32.le_iff_toNat_le.mp upper.1
    have most : character.toNat ≤ 90 := UInt32.le_iff_toNat_le.mp upper.2
    simp only [Text.isBlank, Bool.or_eq_true, Bool.and_eq_true, decide_eq_true_eq,
      beq_iff_eq] at blank
    omega
  · rfl

theorem name_ne_empty (service : OnlineService) : service.name ≠ "" := by
  cases service <;> decide

theorem name_solid (service : OnlineService) :
    (service.name.toList.map Char.toLower).all (!Text.isBlank ·) = true := by
  cases service <;> rfl

/-- The word that names a service has no blanks of its own. -/
theorem solid_of_map_toLower {word : List Char}
    (same : word.map Char.toLower = service.name.toList.map Char.toLower) :
    word ≠ [] ∧ ∀ character ∈ word, Text.isBlank character = false := by
  refine ⟨?_, ?_⟩
  · rintro rfl
    refine service.name_ne_empty (String.toList_eq_nil_iff.mp ?_)
    simpa using same.symm
  · intro character member
    rw [Bool.eq_false_iff]
    intro blank
    have lower := List.mem_map_of_mem (f := Char.toLower) member
    rw [same, toLower_of_isBlank blank] at lower
    have solid := List.all_eq_true.mp service.name_solid character lower
    rw [blank] at solid
    cases solid

/-- The service that an element of a list names. -/
def named? (element : String) : Option OnlineService :=
  ofText? (Text.trim element)

theorem named?_eq_some_iff : named? element = some service ↔ Names element service := by
  rw [named?, ofText?_eq_some_iff, sameLetters_iff]
  constructor
  · intro same
    refine ⟨(Text.trim (Text.trim element)).toList, ?_, same.symm⟩
    simp only [Text.trim, String.toList_ofList]
    exact (Text.isPadded_trimChars _).trans (Text.isPadded_trimChars _)
  · rintro ⟨word, padded, same⟩
    obtain ⟨present, solid⟩ := solid_of_map_toLower same
    have once : Text.trimChars element.toList = word := padded.trimChars_eq present solid
    have twice : Text.trimChars word = word :=
      Text.IsPadded.trimChars_eq ⟨[], [], by simp, by simp, by simp⟩ present solid
    simp only [Text.trim, String.toList_ofList, once, twice, same]

theorem unique_of_names {another : OnlineService} (names : Names element service)
    (others : Names element another) : service = another :=
  Option.some.inj ((named?_eq_some_iff.mpr names).symm.trans (named?_eq_some_iff.mpr others))

theorem named?_eq_none_iff : named? element = none ↔ ∀ service, ¬Names element service := by
  simp only [Option.eq_none_iff_forall_ne_some, ne_eq, named?_eq_some_iff]

end OnlineService

namespace EnabledServices

open OnlineService

/-! ## Element by element -/

/-- The services that the elements of a list name. -/
def ofElements (elements : List String) : EnabledServices :=
  ofServices (elements.filterMap named?)

theorem ofList_eq (text : String) : ofList text = ofElements (Text.split ',' text) := by
  have trimmed : OnlineService.ofText? ∘ Text.trim = named? := by
    funext element
    rw [Function.comp_apply, named?]
  rw [ofList, List.filterMap_map, trimmed, ofElements]

theorem services_insert (enabled : EnabledServices) (service : OnlineService) :
    (enabled.insert service).services =
      if service ∈ enabled.services then enabled.services else enabled.services ++ [service] := by
  unfold insert
  split <;> rfl

/-- An element that names nothing is as good as no element. -/
theorem ofElements_skip {element : String} (unknown : ∀ service, ¬Names element service)
    (front back : List String) :
    ofElements (front ++ element :: back) = ofElements (front ++ back) := by
  have nothing := named?_eq_none_iff.mpr unknown
  simp only [ofElements, List.filterMap_append, List.filterMap_cons, nothing]

/-- One more element, which names a service. -/
theorem ofElements_concat {element : String} {service : OnlineService}
    (names : Names element service) (elements : List String) :
    ofElements (elements ++ [element]) = (ofElements elements).insert service := by
  have found := named?_eq_some_iff.mpr names
  simp only [ofElements, ofServices, List.filterMap_append, List.filterMap_cons, found,
    List.filterMap_nil, List.foldl_append, List.foldl_cons, List.foldl_nil]

/-- A property of lists of elements, and of what they enable, that holds for one more element
whether or not it names a service, holds for all lists. -/
theorem ofElements_induction {motive : List String → EnabledServices → Prop}
    (empty : motive [] none)
    (named : ∀ elements element service, Names element service →
      motive elements (ofElements elements) →
      motive (elements ++ [element]) ((ofElements elements).insert service))
    (unknown : ∀ elements element, (∀ service, ¬Names element service) →
      motive elements (ofElements elements) → motive (elements ++ [element]) (ofElements elements))
    (elements : List String) : motive elements (ofElements elements) := by
  induction elements using List.reverseRecOn with
  | nil => exact empty
  | append_singleton elements element ih =>
    cases found : named? element with
    | none =>
      have names := named?_eq_none_iff.mp found
      have same := ofElements_skip names elements []
      rw [List.append_nil] at same
      rw [same]
      exact unknown elements element names ih
    | some service =>
      have names := named?_eq_some_iff.mp found
      rw [ofElements_concat names]
      exact named elements element service names ih

theorem mem_services_insert {enabled : EnabledServices} {service other : OnlineService} :
    other ∈ (enabled.insert service).services ↔ other ∈ enabled.services ∨ other = service := by
  rw [services_insert]
  split
  · next known =>
    refine ⟨.inl, ?_⟩
    rintro (earlier | rfl)
    · exact earlier
    · exact known
  · rw [List.mem_append, List.mem_singleton]

/-- The services that are enabled are those that some element names. -/
theorem mem_services_ofElements (elements : List String) (service : OnlineService) :
    service ∈ (ofElements elements).services ↔ ∃ element ∈ elements, Names element service := by
  have concat (elements : List String) (element : String) :
      (∃ other ∈ elements ++ [element], Names other service) ↔
        (∃ other ∈ elements, Names other service) ∨ Names element service := by
    simp only [List.mem_append, List.mem_singleton, or_and_right, exists_or, exists_eq_left]
  refine ofElements_induction (motive := fun elements enabled =>
    service ∈ enabled.services ↔ ∃ element ∈ elements, Names element service) ?_ ?_ ?_ elements
  · simp [none]
  · intro elements element found names ih
    rw [mem_services_insert, ih, concat]
    refine or_congr_right ⟨?_, fun others => unique_of_names others names⟩
    rintro rfl
    exact names
  · intro elements element unknown ih
    rw [ih, concat, or_iff_left (unknown service)]

/-- Services are enabled in the order in which they are first named. -/
theorem pairwise_ofElements (elements : List String) :
    (ofElements elements).services.Pairwise (NamedBefore elements) := by
  refine ofElements_induction (motive := fun elements enabled =>
    enabled.services.Pairwise (NamedBefore elements)) ?_ ?_ ?_ elements
  · exact List.Pairwise.nil
  · intro elements element service _ ih
    have kept := ih.imp (·.concat element)
    rw [services_insert]
    split
    · exact kept
    · next new =>
      refine List.pairwise_append.mpr ⟨kept, List.pairwise_singleton _ _, ?_⟩
      intro earlier known later last
      obtain rfl := List.mem_singleton.mp last
      obtain ⟨first, member, names⟩ := (mem_services_ofElements elements earlier).mp known
      obtain ⟨front, back, rfl⟩ := List.append_of_mem member
      refine ⟨front, first, back ++ [element], by simp, names, ?_⟩
      intro other isBefore others
      refine new ((mem_services_ofElements _ _).mpr ⟨other, ?_, others⟩)
      rw [← List.singleton_append, ← List.append_assoc]
      exact List.mem_append_left _ isBefore
  · exact fun elements element _ ih => ih.imp (·.concat element)

/-- More elements enable more services, behind those that are enabled already. -/
theorem services_ofElements_append (left right : List String) :
    (ofElements (left ++ right)).services = (ofElements left).services ++
      (ofElements right).services.filter (· ∉ (ofElements left).services) := by
  refine ofElements_induction (motive := fun right enabled =>
    (ofElements (left ++ right)).services = (ofElements left).services ++
      enabled.services.filter (· ∉ (ofElements left).services)) ?_ ?_ ?_ right
  · simp [none]
  · intro right element service names ih
    rw [← List.append_assoc, ofElements_concat names, services_insert, services_insert, ih]
    by_cases first : service ∈ (ofElements left).services <;>
      by_cases second : service ∈ (ofElements right).services <;>
      simp [first, second]
  · intro right element unknown ih
    have same := ofElements_skip unknown (left ++ right) []
    rw [List.append_nil, List.append_assoc] at same
    rw [same, ih]

/-! ## Texts -/

theorem services_ofList_append (left right : String) :
    (ofList (left ++ "," ++ right)).services = (ofList left).services ++
      (ofList right).services.filter (· ∉ (ofList left).services) := by
  have pieces : Text.split ',' (left ++ "," ++ right) =
      Text.split ',' left ++ Text.split ',' right := Text.split_append left right
  simp only [ofList_eq, pieces, services_ofElements_append]

/-- A text is a list of elements in one way only, and enables the services that they name, each
once and in the order in which they are first named.  A script sees the identifier of a service if
it is enabled, and -1 if it is not.  Behind a comma another text enables what it would enable by
itself and is not enabled yet, and an element that names nothing may be left out. -/
theorem ofList_enables_named (text : String) :
    ∃ elements, Text.ArePieces ',' elements text ∧
      (∀ others, Text.ArePieces ',' others text → others = elements) ∧
      (∀ service, (ofList text).isEnabled service ↔ ∃ element ∈ elements, Names element service) ∧
      (ofList text).services.Nodup ∧
      (ofList text).services.Pairwise (NamedBefore elements) ∧
      (∀ service, service ∈ (ofList text).services ↔ (ofList text).isEnabled service) ∧
      (∀ service, (ofList text).scriptId service =
        if (ofList text).isEnabled service then service.id else -1) ∧
      (∀ other, (ofList (text ++ "," ++ other)).services = (ofList text).services ++
        (ofList other).services.filter (· ∉ (ofList text).services)) ∧
      ∀ front element back, elements = front ++ element :: back →
        (∀ service, ¬Names element service) → front ++ back ≠ [] →
        ofList (",".intercalate (front ++ back)) = ofList text := by
  have pieces := Text.arePieces_split ',' text
  refine ⟨Text.split ',' text, pieces, fun _ => Text.ArePieces.eq_split, ?_, (ofList text).nodup,
    ?_, ?_, fun _ => rfl, services_ofList_append text, ?_⟩
  · intro service
    rw [isEnabled, decide_eq_true_eq, ofList_eq, mem_services_ofElements]
  · rw [ofList_eq]
    exact pairwise_ofElements _
  · intro service
    rw [isEnabled, decide_eq_true_eq]
  · intro front element back cut unknown present
    have whole : ∀ piece ∈ front ++ back, ',' ∉ piece.toList := by
      intro piece member
      refine pieces.whole piece ?_
      rw [cut, List.mem_append, List.mem_cons]
      exact (List.mem_append.mp member).imp_right .inr
    have kept : Text.split ',' (",".intercalate (front ++ back)) = front ++ back :=
      Text.split_intercalate present whole
    rw [ofList_eq, ofList_eq, kept, cut, ofElements_skip unknown]

/-- A service that is named twice, and an element that names none. -/
example : (ofList " apple_trailers, bogus ,APPLE_TRAILERS,youtube").services =
    [.appleTrailers, .youTube] := by
  decide

end EnabledServices

end MediaImport.Media
