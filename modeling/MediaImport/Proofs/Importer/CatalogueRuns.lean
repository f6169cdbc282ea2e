import MediaImport.Proofs.Importer.History
import Mathlib.Data.List.Induction
import Mathlib.Data.List.Nodup
import Mathlib.Data.List.Range

/-!
# What a catalogue is after many calls

A catalogue keeps its entries and the next identifier apart.  After any sequence of calls that add
objects, refused ones among them, the two agree with the sequence (`Catalogue.Records`): there is
one entry for each call that named a container, in order, numbered from 1000 on, and the next
identifier is the one that follows.  One call keeps this, so every run of calls does.  Identifiers
are words of 32 bits, and all of them are positive as long as no more than 2 ^ 31 - 1000 calls are
accepted.

Whatever is done with an application, from any of its contexts, its catalogue comes to be what some
sequence of calls makes of it, and so it is at every moment while scripts run.
-/

namespace MediaImport.Importer

open MediaImport.Media MediaImport.Script

/-- A call that adds an object. -/
structure Submission where
  object : Object
  chain : String
  upnpClass : Option String

/-- The entry of a call under an identifier: apart from that, all is as it was passed. -/
def Submission.entry (call : Submission) (id : Int32) : CatalogueEntry :=
  ⟨{ call.object with id }, call.chain, call.upnpClass⟩

/-- The calls of a sequence that name a container. -/
def accepted (calls : List Submission) : List Submission :=
  calls.filter (·.chain ≠ "")

/-- The identifier of the entry with a number. -/
def idAt (number : Nat) : Int32 :=
  .ofNat (1000 + number)

namespace Catalogue

/-- What a call comes to, and the catalogue after it. -/
def submit (catalogue : Catalogue) (call : Submission) : Except Failure Int32 × Catalogue :=
  match catalogue.add call.object call.chain call.upnpClass with
  | .ok (id, later) => (.ok id, later)
  | .error failure => (.error failure, catalogue)

/-- The catalogue after a sequence of calls. -/
def after (catalogue : Catalogue) (calls : List Submission) : Catalogue :=
  calls.foldl (fun catalogue call => (catalogue.submit call).2) catalogue

/-- A catalogue agrees with the calls that were made. -/
structure Records (catalogue : Catalogue) (calls : List Submission) : Prop where
  entries : catalogue.entries = (accepted calls).mapIdx fun number call => call.entry (idAt number)
  nextId : catalogue.nextId = idAt (accepted calls).length

variable {catalogue : Catalogue} {call : Submission} {calls before later : List Submission}

/-! ## One call -/

theorem submit_of_refused (refused : call.chain = "") :
    catalogue.submit call = (.error .emptyContainerChain, catalogue) := by
  simp [submit, add, refused]

theorem submit_of_accepted (taken : call.chain ≠ "") :
    catalogue.submit call = (.ok catalogue.nextId,
      ⟨catalogue.entries ++ [call.entry catalogue.nextId], catalogue.nextId + 1⟩) := by
  simp [submit, add, taken, Submission.entry]

theorem idAt_succ (number : Nat) : idAt (number + 1) = idAt number + 1 :=
  Int32.ofNat_add (1000 + number) 1

/-- A call keeps a catalogue in agreement with the calls. -/
theorem Records.submit (records : catalogue.Records calls) (call : Submission) :
    (catalogue.submit call).2.Records (calls ++ [call]) := by
  by_cases refused : call.chain = ""
  · have same : accepted (calls ++ [call]) = accepted calls := by simp [accepted, refused]
    rw [submit_of_refused refused]
    exact ⟨same ▸ records.entries, same ▸ records.nextId⟩
  · have longer : accepted (calls ++ [call]) = accepted calls ++ [call] := by
      simp [accepted, refused]
    rw [submit_of_accepted refused]
    refine ⟨?_, ?_⟩
    · rw [longer, List.mapIdx_concat, records.entries, records.nextId]
    · rw [longer, List.length_append, List.length_singleton, idAt_succ, records.nextId]

/-! ## Runs of calls -/

theorem after_append (catalogue : Catalogue) (before later : List Submission) :
    catalogue.after (before ++ later) = (catalogue.after before).after later :=
  List.foldl_append

/-- A new catalogue agrees with the calls after any sequence of them. -/
theorem records_after (calls : List Submission) : (({} : Catalogue).after calls).Records calls := by
  induction calls using List.reverseRecOn with
  | nil => exact ⟨rfl, rfl⟩
  | append_singleton calls call ih =>
    rw [after_append]
    exact ih.submit call

theorem Records.getElem?_entries (records : catalogue.Records calls) (number : Nat) :
    catalogue.entries[number]? =
      (accepted calls)[number]?.map (·.entry (idAt number)) := by
  rw [records.entries, List.getElem?_mapIdx]

theorem Records.length_entries (records : catalogue.Records calls) :
    catalogue.entries.length = (accepted calls).length := by
  rw [records.entries, List.length_mapIdx]

theorem Records.ids (records : catalogue.Records calls) :
    catalogue.entries.map (·.object.id) = (List.range (accepted calls).length).map idAt := by
  refine List.ext_getElem? fun number => ?_
  rw [List.getElem?_map, records.getElem?_entries, List.getElem?_map]
  rcases Nat.lt_or_ge number (accepted calls).length with inside | outside
  · rw [List.getElem?_range inside, List.getElem?_eq_getElem inside]
    rfl
  · rw [List.getElem?_eq_none outside, List.getElem?_eq_none (by simpa using outside)]
    rfl

/-- What was recorded stays as it is. -/
theorem entries_prefix (before later : List Submission) :
    (({} : Catalogue).after before).entries <+:
      (({} : Catalogue).after (before ++ later)).entries := by
  have split : accepted (before ++ later) = accepted before ++ accepted later := by
    simp [accepted]
  rw [(records_after before).entries, (records_after (before ++ later)).entries, split,
    List.mapIdx_append]
  exact List.prefix_append ..

/-! ## Identifiers -/

theorem toInt_idAt {number : Nat} (few : number < 2147482648) :
    (idAt number).toInt = 1000 + number := by
  rw [idAt, Int32.toInt_ofNat_of_lt (by omega)]
  omega

theorem idAt_inj {left right : Nat} (leftFew : left < 2147482648) (rightFew : right < 2147482648)
    (same : idAt left = idAt right) : left = right := by
  have numbers := congrArg Int32.toInt same
  rw [toInt_idAt leftFew, toInt_idAt rightFew] at numbers
  omega

theorem Records.nodup_ids (records : catalogue.Records calls)
    (few : (accepted calls).length ≤ 2147482648) :
    (catalogue.entries.map (·.object.id)).Nodup := by
  rw [records.ids]
  refine List.Nodup.map_on ?_ List.nodup_range
  intro left isLeft right isRight same
  rw [List.mem_range] at isLeft isRight
  exact idAt_inj (by omega) (by omega) same

theorem Records.ids_ne_noId (records : catalogue.Records calls)
    (few : (accepted calls).length ≤ 2147482648) :
    ∀ entry ∈ catalogue.entries, entry.object.id ≠ noId := by
  intro entry member invalid
  have among : noId ∈ catalogue.entries.map (·.object.id) :=
    invalid ▸ List.mem_map_of_mem member
  rw [records.ids, List.mem_map] at among
  obtain ⟨number, inRange, same⟩ := among
  have value := toInt_idAt (Nat.lt_of_lt_of_le (List.mem_range.mp inRange) few)
  rw [same, show noId.toInt = -333 from rfl] at value
  omega

/-- One catalogue comes from another by a sequence of calls. -/
def Extends (earlier later : Catalogue) : Prop :=
  ∃ calls, later = earlier.after calls

theorem Extends.refl (catalogue : Catalogue) : catalogue.Extends catalogue :=
  ⟨[], rfl⟩

theorem Extends.trans {first second third : Catalogue} (left : first.Extends second)
    (right : second.Extends third) : first.Extends third := by
  obtain ⟨calls, rfl⟩ := left
  obtain ⟨others, rfl⟩ := right
  exact ⟨calls ++ others, (after_append ..).symm⟩

end Catalogue

/-! ## Calls from contexts -/

/-- The catalogue at a desk comes from another one. -/
def Desk.ComesFrom (catalogue : Catalogue) (desk : Desk) : Prop :=
  catalogue.Extends desk.catalogue

/-- What a script asks to be added is added by a call. -/
theorem Desk.answer_submit (desk : Desk) (call : Submission) :
    Desk.answer (.submit call.object call.chain call.upnpClass) desk =
      ((desk.catalogue.submit call).1,
        { desk with catalogue := (desk.catalogue.submit call).2 }) := by
  simp only [Desk.answer, Catalogue.submit]
  rcases desk.catalogue.add call.object call.chain call.upnpClass with failure | ⟨id, later⟩ <;> rfl

theorem Desk.comesFrom_answer {catalogue : Catalogue} (request : HostRequest) (desk : Desk)
    (comes : desk.ComesFrom catalogue) : (Desk.answer request desk).2.ComesFrom catalogue := by
  cases request with
  | surroundings => exact comes
  | log line =>
    simp only [Desk.answer, ComesFrom]
    exact comes
  | submit object chain upnpClass =>
    rw [desk.answer_submit ⟨object, chain, upnpClass⟩]
    exact Catalogue.Extends.trans comes ⟨[⟨object, chain, upnpClass⟩], rfl⟩

theorem extends_workOn {α : Type} (importer : Importer) (name : String)
    (course : Course (Except Failure α)) :
    importer.catalogue.Extends (importer.workOn name course.work).2.catalogue := by
  cases found : importer.interpreters[name]? with
  | none =>
    rw [workOn_of_missing found]
    exact .refl _
  | some slot =>
    have start : (importer.deskOf slot).ComesFrom importer.catalogue := .refl _
    rw [workOn_of_found found]
    exact course.holds_perform Desk.comesFrom_answer slot.interpreter start

theorem Passes.comesFrom {α : Type} {importer : Importer} {name : String} {course : Course α}
    {number : Nat} {config : Config Desk} (passes : importer.Passes name course number config) :
    config.state.ComesFrom importer.catalogue := by
  obtain ⟨slot, -, -, visits⟩ := passes
  have start : (importer.deskOf slot).ComesFrom importer.catalogue := .refl _
  exact course.holds_visits Desk.comesFrom_answer slot.interpreter start visits

/-- Whatever is done with an application, calls are all that changes its catalogue. -/
theorem Operation.extends_apply (operation : Operation) (importer : Importer) :
    importer.catalogue.Extends (operation.apply importer).catalogue := by
  cases operation with
  | setUp settings conversions name purpose =>
    by_cases taken : name ∈ importer.interpreters
    · rw [apply, locked_settingUp_of_taken taken]
      exact .refl _
    · rw [apply, locked_settingUp_of_new taken]
      exact .refl _
  | load source context path =>
    rw [apply, Importer.load]
    split
    · exact .refl _
    · next text read =>
      rw [← Course.work_load]
      exact extends_workOn { importer with lock := importer.lock.acquire } context.name
        (Course.load path text)
  | execute context =>
    rw [apply, Importer.execute, ← Course.work_runProgram]
    exact extends_workOn { importer with lock := importer.lock.acquire } context.name
      Course.runProgram
  | process context object =>
    rw [apply, Importer.process, locked]
    cases found : importer.interpreters[context.name]? with
    | none =>
      simp only [slot, found]
      exact .refl _
    | some slot =>
      simp only [Importer.slot, found]
      rw [← Course.work_processing]
      exact extends_workOn ({ importer with lock := importer.lock.acquire }.noteProcessed context
        object) context.name _
  | use context course =>
    exact extends_workOn { importer with lock := importer.lock.acquire } context.name course
  | drop context => exact .refl _
  | createBare name trust world =>
    rw [apply, Importer.createBare, locked]
    by_cases taken : name ∈ importer.interpreters
    · simp only [createInterpreter, taken, if_true]
      exact .refl _
    · simp only [createInterpreter, taken, if_false]
      exact .refl _
  | destroy name => exact .refl _

theorem Operation.comesFrom_visits {operation : Operation} {importer : Importer} {number : Nat}
    {config : Config Desk} (visits : operation.Visits importer number config) :
    config.state.ComesFrom importer.catalogue := by
  cases operation with
  | execute context => exact Passes.comesFrom visits
  | process context object =>
    have passes : (importer.noteProcessed context object).Passes context.name _ number config :=
      visits
    exact passes.comesFrom
  | use context course => exact Passes.comesFrom visits
  | _ => exact visits.elim

theorem extends_operations (operations : List Operation) (importer : Importer) :
    importer.catalogue.Extends (operations.foldl Operation.apply importer).catalogue := by
  induction operations generalizing importer with
  | nil => exact .refl _
  | cons operation operations ih => exact (operation.extends_apply importer).trans (ih _)

/-! ## All together -/

/-- No added object is lost, recorded twice or numbered anew.  In any sequence of calls of which
no more than 2 ^ 31 - 1000 are accepted, a call is refused if and only if its chain is empty, and
then changes nothing; any other call gets the next number from 1000 on.  At every moment the
entries are those of the calls that were accepted so far, in order, with these numbers and all else
as it was passed.  So identifiers are different from each other and from the invalid one, and what
was recorded stays as it is.  Whatever an application does in its contexts is such a sequence for
its catalogue. -/
theorem additions_are_kept (calls : List Submission)
    (few : (accepted calls).length ≤ 2147482648) :
    (∀ before call rest, calls = before ++ call :: rest →
      let catalogue := ({} : Catalogue).after before
      ((∃ failure, (catalogue.submit call).1 = .error failure) ↔ call.chain = "") ∧
      (call.chain = "" → catalogue.submit call = (.error .emptyContainerChain, catalogue)) ∧
      (call.chain ≠ "" → ∃ id, (catalogue.submit call).1 = .ok id ∧
        id.toInt = 1000 + (accepted before).length)) ∧
    (∀ before rest, calls = before ++ rest →
      let entries := (({} : Catalogue).after before).entries
      entries.length = (accepted before).length ∧
      (∀ (number : Nat) (call : Submission), (accepted before)[number]? = some call →
        ∃ id : Int32, id.toInt = 1000 + number ∧ entries[number]? = some (call.entry id)) ∧
      (entries.map (·.object.id)).Nodup ∧
      (∀ entry ∈ entries, entry.object.id ≠ noId) ∧
      entries <+: (({} : Catalogue).after calls).entries) ∧
    (∀ (importer : Importer) (operations : List Operation),
      importer.catalogue.Extends (operations.foldl Operation.apply importer).catalogue) ∧
    ∀ (importer : Importer) (operation : Operation) (number : Nat) (config : Config Desk),
      operation.Visits importer number config →
        importer.catalogue.Extends config.state.catalogue := by
  refine ⟨?_, ?_, fun importer operations => extends_operations operations importer,
    fun _ _ _ _ => Operation.comesFrom_visits⟩
  · rintro before call rest rfl catalogue
    have records : catalogue.Records before := Catalogue.records_after before
    have length : (accepted (before ++ call :: rest)).length =
        (accepted before).length + (accepted (call :: rest)).length := by
      rw [accepted, List.filter_append, List.length_append]
      rfl
    by_cases refused : call.chain = ""
    · rw [Catalogue.submit_of_refused refused]
      exact ⟨iff_of_true ⟨_, rfl⟩ refused, fun _ => rfl, fun taken => absurd refused taken⟩
    · have present : 1 ≤ (accepted (call :: rest)).length := by simp [accepted, refused]
      rw [Catalogue.submit_of_accepted refused]
      refine ⟨iff_of_false nofun refused, fun empty => absurd empty refused, fun _ => ⟨_, rfl, ?_⟩⟩
      rw [records.nextId]
      exact Catalogue.toInt_idAt (by omega)
  · rintro before rest rfl entries
    have records := Catalogue.records_after before
    have fewer : (accepted before).length ≤ 2147482648 := by
      rw [accepted, List.filter_append, List.length_append] at few
      exact Nat.le_trans (Nat.le_add_right _ _) few
    refine ⟨records.length_entries, ?_, records.nodup_ids fewer, records.ids_ne_noId fewer,
      Catalogue.entries_prefix before rest⟩
    intro number call found
    have inside : number < (accepted before).length := (List.getElem?_eq_some_iff.mp found).1
    refine ⟨idAt number, Catalogue.toInt_idAt (by omega), ?_⟩
    rw [records.getElem?_entries, found, Option.map_some]

/-- The calls of two contexts, one of which names no container. -/
theorem additions_are_kept_mixed :
    let item : Object := { title := "Song", kind := .item {} }
    let folder : Object := { id := 7, title := "Albums", kind := .container {} }
    let calls : List Submission :=
      [⟨item, "/Audio", none⟩, ⟨item, "", none⟩, ⟨folder, "/Audio/Albums", some "album"⟩]
    (accepted calls).length ≤ 2147482648 ∧
    (({} : Catalogue).after calls).entries =
      [⟨{ item with id := 1000 }, "/Audio", none⟩,
        ⟨{ folder with id := 1001 }, "/Audio/Albums", some "album"⟩] ∧
    ((({} : Catalogue).after calls).entries.map (·.object.id)).Nodup := by
  intro item folder calls
  have few : (accepted calls).length ≤ 2147482648 := by decide
  have entries : (({} : Catalogue).after calls).entries =
      [⟨{ item with id := 1000 }, "/Audio", none⟩,
        ⟨{ folder with id := 1001 }, "/Audio/Albums", some "album"⟩] := by decide
  have kept := (additions_are_kept calls few).2.1 calls [] (by simp)
  exact ⟨few, entries, kept.2.2.1⟩

end MediaImport.Importer
