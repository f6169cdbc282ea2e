import MediaImport.Proofs.Exchange.RoundTrip
import MediaImport.Proofs.Importer.Courses
import MediaImport.Proofs.Script.ReadingWork

/-!
# One call that adds an object

What a script's call of the function that adds an object does, from the moment the
function begins until the call is over, wherever in a run it stands.  The object is
what reading the table comes to, with the object that is being processed as the
previous one.  If the call succeeds, its last step but one appends one record, and the
number of the record is what the script gets.  If it fails, none of its own steps has
changed anything.

Metatables may run scripts while the table is read, and these may add objects of their
own; such a call is a call of its own.  If there are no metatables, nothing else happens
during the call.
-/

namespace MediaImport.Importer

open MediaImport.Exchange MediaImport.Media MediaImport.Script

/-- The text that an argument gives: none if it is nil. -/
inductive Gives : Value → Option String → Prop where
  | nothing : Gives .nil none
  | text {value : Value} {text : String} (given : value.asText? = some (Bytes.ofString text)) :
    Gives value (some text)

theorem textArgument?_of_present (index : Nat) {value : Value} (present : value ≠ .nil) :
    textArgument? index value =
      (bytesArgument index value "String").bind fun contents =>
        match Utf8.decodeText contents with
        | .ok text => .done (some text)
        | .error fault => refuseConversion index value "String" (faultText fault) := by
  cases value with
  | nil => exact absurd rfl present
  | _ => rfl

/-- An argument that is to be a text is a text or nil, or is refused. -/
theorem textArgument?_cases (index : Nat) (value : Value) :
    (∃ failure, textArgument? index value = .fail failure) ∨
      ∃ text, textArgument? index value = .done text ∧ Gives value text := by
  by_cases absent : value = .nil
  · subst absent
    exact .inr ⟨none, rfl, .nothing⟩
  rw [textArgument?_of_present index absent, bytesArgument]
  cases given : value.asText? with
  | none => exact .inl ⟨_, rfl⟩
  | some contents =>
    change (∃ failure, (match Utf8.decodeText contents with | .ok text => _ | .error fault => _) =
      Behaviour.fail failure) ∨ ∃ text, (match Utf8.decodeText contents with
        | .ok text => _ | .error fault => _) = Behaviour.done text ∧ _
    cases read : Utf8.decodeText contents with
    | error fault => exact .inl ⟨_, rfl⟩
    | ok text =>
      refine .inr ⟨some text, rfl, .text ?_⟩
      rw [given, Utf8.ofString_of_decodeText read]

theorem textArgument?_of_gives (index : Nat) {value : Value} {text : Option String}
    (gives : Gives value text) : textArgument? index value = .done text := by
  cases gives with
  | nothing => rfl
  | text given =>
    have present : value ≠ .nil := by
      rintro rfl
      cases given
    rw [textArgument?_of_present index present, bytesArgument, given]
    change (match Utf8.decodeText (Bytes.ofString _) with | .ok text => _ | .error fault => _) = _
    rw [Utf8.decodeText_ofString]

theorem Gives.unique {value : Value} {first second : Option String} (left : Gives value first)
    (right : Gives value second) : first = second := by
  have same := (textArgument?_of_gives 0 left).symm.trans (textArgument?_of_gives 0 right)
  injection same

/-- The texts of a call: a chain of containers that is not empty, and maybe a class. -/
structure Texts (arguments : List Value) (chain : String) (upnpClass : Option String) : Prop where
  chainGiven : Gives (Value.first (arguments.drop 1)) (some chain)
  chainPresent : chain ≠ ""
  classGiven : ∃ given, Gives (Value.first (arguments.drop 2)) given ∧
    upnpClass = given.filter (· ≠ "")

theorem Texts.unique {arguments : List Value} {chain other : String}
    {upnpClass otherClass : Option String} (left : Texts arguments chain upnpClass)
    (right : Texts arguments other otherClass) : chain = other ∧ upnpClass = otherClass := by
  obtain ⟨given, classGiven, rfl⟩ := left.classGiven
  obtain ⟨otherGiven, otherClassGiven, rfl⟩ := right.classGiven
  rw [classGiven.unique otherClassGiven]
  exact ⟨Option.some.inj (left.chainGiven.unique right.chainGiven), rfl⟩

/-- The reference of an added object: a plain or active item refers to the processed
object, if there is one and it has an identifier. -/
def referenceOf (processed : Option Object) (object : Object) : Int32 :=
  match processed, object.kind with
  | some source, .item { variant := .plain, .. } =>
    if source.id = noId then object.refId else source.id
  | some source, .item { variant := .active _, .. } =>
    if source.id = noId then object.refId else source.id
  | _, _ => object.refId

theorem linkBack_eq (processed : Option Object) (object : Object) :
    linkBack processed object = { object with refId := referenceOf processed object } := by
  cases processed with
  | none => rfl
  | some source =>
    by_cases known : source.id = noId
    · have unchanged : referenceOf (some source) object = object.refId := by
        unfold referenceOf
        split <;> simp_all
      rw [unchanged]
      simp [linkBack, known]
    · obtain ⟨id, parentId, refId, title, upnpClass, restricted, isVirtual, location, mtime, size,
        metadata, auxiliary, resources, flags, kind⟩ := object
      cases kind with
      | container contents => rfl
      | item contents =>
        obtain ⟨mimeType, serviceId, trackNumber, variant⟩ := contents
        cases variant <;>
          simp [linkBack, referenceOf, known, Object.item?, Kind.item?, Kind.isUrl, Variant.isUrl]

/-! ## The function as a piece of work -/

/-- The reading of the object that a call is about. -/
def readingOf (surroundings : Surroundings) (arguments : List Value) : Reading (Option Object) :=
  (Reader.ofConversions surroundings.purpose surroundings.conversions).object
    surroundings.processed (Value.first arguments).propertyTable?

/-- What the script gets back from the catalogue. -/
def handBack : Except Failure Int32 → Behaviour Signal
  | .ok id => .done (.result [.ofInt32 id])
  | .error failure => .fail failure

/-- What is done with the object that a table describes. -/
def submitting (processed : Option Object) (chain : String) (upnpClass : Option String) :
    Option Object → Behaviour Signal
  | none => .fail (.script (runtimeError "addCdsObject: object has no objectType"))
  | some object =>
    .host (.submit (linkBack processed object) chain upnpClass) handBack

/-- With arguments that are texts, the function asks for what surrounds the script, reads
the table, and submits what it read. -/
theorem addObject_eq (arguments : List Value) (chain upnpClass : Option String)
    (chainRead : textArgument? 2 (Value.first (arguments.drop 1)) = .done chain)
    (classRead : textArgument? 3 (Value.first (arguments.drop 2)) = .done upnpClass) :
    Signal.result <$> addObject arguments =
      .host .surroundings fun surroundings =>
        (readingOf surroundings arguments).behaviour.bind
          (submitting surroundings.processed (chain.getD "") (upnpClass.filter (!·.isEmpty))) := by
  unfold addObject
  rw [chainRead, classRead]
  refine congrArg (Behaviour.host .surroundings) (funext fun surroundings => ?_)
  change Behaviour.bind (Behaviour.bind (Behaviour.bind (Reading.behaviour _) _) _) _ = _
  rw [Behaviour.bind_assoc, Behaviour.bind_assoc]
  refine congrArg (Behaviour.bind _) (funext fun described => ?_)
  cases described with
  | none => rfl
  | some object =>
    refine congrArg (Behaviour.host _) (funext fun reply => ?_)
    cases reply <;> rfl

/-! ## The call -/

/-- The function that adds objects begins to work on some arguments. -/
def Begins (call : Config Desk) (arguments : List Value) : Prop :=
  call.focus = Signal.result <$> addObject arguments

/-- Whoever calls the function, if there is room for the call. -/
theorem begins_of_call {config : Config Desk} (room : config.HasRoom) {site : Option Site}
    {arguments : List Value} {next : List Value → Behaviour Signal}
    (focus : config.focus = .call site (.native (.host .addObject)) arguments next) :
    config.step host = { config.push (.call site next) with
      focus := Signal.result <$> addObject arguments } :=
  Config.step_call_of_room host room focus

/-- A call adds one object: the first of its steps asks for the surroundings, then it
reads the table for so many steps, and its last step appends the record.  No other step
of its own changes anything. -/
structure Adds (call : Config Desk) (surroundings : Surroundings) (arguments : List Value)
    (read : Nat) (object : Object) (chain : String) (upnpClass : Option String) : Prop where
  reads : Config.Follows host (readingOf surroundings arguments) (call.after host 1) read
    (.done (some object))
  calm : call.Calm host (1 + read)
  texts : Texts arguments chain upnpClass
  appends : (call.after host (1 + read + 1)).state =
    let before := (call.after host (1 + read)).state
    { before with
      catalogue := {
        entries := before.catalogue.entries ++ [{
          object := { object with
            id := before.catalogue.nextId
            refId := referenceOf surroundings.processed object }
          chain
          upnpClass }]
        nextId := before.catalogue.nextId + 1 } }
  answers : (call.after host (1 + read + 1)).focus =
    .done (.result [.ofInt32 (call.after host (1 + read)).state.catalogue.nextId])

theorem answer_submit_empty (object : Object) (upnpClass : Option String) (desk : Desk) :
    Desk.answer (.submit object "" upnpClass) desk = (.error .emptyContainerChain, desk) := by
  simp [Desk.answer, Catalogue.add]

theorem answer_submit (object : Object) {chain : String} (present : chain ≠ "")
    (upnpClass : Option String) (desk : Desk) :
    Desk.answer (.submit object chain upnpClass) desk =
      (.ok desk.catalogue.nextId, { desk with
        catalogue := {
          entries := desk.catalogue.entries ++
            [⟨{ object with id := desk.catalogue.nextId }, chain, upnpClass⟩]
          nextId := desk.catalogue.nextId + 1 } }) := by
  simp [Desk.answer, Catalogue.add, present]

theorem filter_isEmpty (given : Option String) :
    given.filter (!·.isEmpty) = given.filter (· ≠ "") := by
  congr 1
  funext text
  by_cases empty : text = "" <;> simp [empty]

/-- What is left when the table has been read. -/
theorem submitting_work {processed : Option Object} {chain upnpClass : Option String}
    {described : Option Object} {config : Config Desk} {steps : Nat}
    (isOver : config.OverAfter host steps)
    (focus : config.focus = submitting processed (chain.getD "")
      (upnpClass.filter (!·.isEmpty)) described) :
    (config.Fails host steps ∧ (config.after host steps).state = config.state) ∨
      ∃ object text, steps = 1 ∧ described = some object ∧ chain = some text ∧ text ≠ "" ∧
        (config.step host).state = { config.state with
          catalogue := {
            entries := config.state.catalogue.entries ++ [{
              object := { object with
                id := config.state.catalogue.nextId
                refId := referenceOf processed object }
              chain := text
              upnpClass := upnpClass.filter (· ≠ "") }]
            nextId := config.state.catalogue.nextId + 1 } } ∧
        (config.step host).focus = .done (.result [.ofInt32 config.state.catalogue.nextId]) := by
  cases described with
  | none => exact .inl (Config.fails_of_fail isOver focus)
  | some object =>
    have asks : config.focus = .host (.submit (linkBack processed object) (chain.getD "")
        (upnpClass.filter (!·.isEmpty))) handBack := focus
    have busy : ¬Config.Ended config.focus := by
      rw [asks]
      exact id
    have stepped : config.step host = { config with
        focus := handBack (Desk.answer (.submit (linkBack processed object) (chain.getD "")
          (upnpClass.filter (!·.isEmpty))) config.state).1
        state := (Desk.answer (.submit (linkBack processed object) (chain.getD "")
          (upnpClass.filter (!·.isEmpty))) config.state).2 } := by
      simp only [Config.step, asks]
      rfl
    by_cases empty : chain.getD "" = ""
    · rw [empty, answer_submit_empty] at stepped
      obtain ⟨positive, calm, rest⟩ := isOver.step busy (by rw [stepped]) (by rw [stepped])
      have refused : (config.step host).focus = .fail .emptyContainerChain := by
        rw [stepped]
        rfl
      obtain ⟨fails, keeps⟩ := Config.fails_of_fail rest refused
      refine .inl ⟨.after_calm positive calm fails, ?_⟩
      rw [← Nat.add_sub_cancel' positive, Config.after_add]
      change ((config.step host).after host (steps - 1)).state = _
      rw [keeps, stepped]
    · cases chain with
      | none => exact absurd rfl empty
      | some text =>
        have present : text ≠ "" := empty
        rw [Option.getD_some, answer_submit _ present] at stepped
        have positive : 1 ≤ steps := isOver.pos busy
        have level : (config.after host 1).frames = config.frames := by
          change (config.step host).frames = _
          rw [stepped]
        have last := (isOver.rest level positive).of_ended (by
          change Config.Ended (config.step host).focus
          rw [stepped]
          trivial)
        refine .inr ⟨object, text, Nat.le_antisymm (Nat.le_of_sub_eq_zero last) positive, rfl, rfl,
          present, ?_, ?_⟩
        · rw [stepped, linkBack_eq, filter_isEmpty]
        · rw [stepped]
          rfl

/-- With arguments that are texts, the first step of a call goes on to read the table. -/
theorem Begins.step {call : Config Desk} {arguments : List Value} {surroundings : Surroundings}
    (begins : Begins call arguments) (surrounds : call.state.Surrounds surroundings)
    {chain upnpClass : Option String}
    (chainRead : textArgument? 2 (Value.first (arguments.drop 1)) = .done chain)
    (classRead : textArgument? 3 (Value.first (arguments.drop 2)) = .done upnpClass) :
    ¬Config.Ended call.focus ∧
      call.step host = { call with
        focus := (readingOf surroundings arguments).behaviour.bind
          (submitting surroundings.processed (chain.getD "")
            (upnpClass.filter (!·.isEmpty))) } := by
  have asks := begins.trans (addObject_eq arguments chain upnpClass chainRead classRead)
  obtain rfl := surrounds
  constructor
  · rw [asks]
    exact id
  · simp only [Config.step, asks]
    rfl

/-- The first step of a call: it stops, or goes on to read the table. -/
theorem Begins.cases {call : Config Desk} {arguments : List Value} {surroundings : Surroundings}
    (begins : Begins call arguments) (surrounds : call.state.Surrounds surroundings) :
    (∃ failure, call.focus = .fail failure) ∨
      ∃ chain upnpClass, Gives (Value.first (arguments.drop 1)) chain ∧
        Gives (Value.first (arguments.drop 2)) upnpClass ∧
        ¬Config.Ended call.focus ∧
        call.step host = { call with
          focus := (readingOf surroundings arguments).behaviour.bind
            (submitting surroundings.processed (chain.getD "")
              (upnpClass.filter (!·.isEmpty))) } := by
  rcases textArgument?_cases 2 (Value.first (arguments.drop 1)) with
    ⟨failure, refused⟩ | ⟨chain, chainRead, chainGiven⟩
  · refine .inl ⟨failure, ?_⟩
    rw [begins, addObject, refused]
    rfl
  rcases textArgument?_cases 3 (Value.first (arguments.drop 2)) with
    ⟨failure, refused⟩ | ⟨upnpClass, classRead, classGiven⟩
  · refine .inl ⟨failure, ?_⟩
    rw [begins, addObject, chainRead, refused]
    rfl
  · exact .inr ⟨chain, upnpClass, chainGiven, classGiven,
      begins.step surrounds chainRead classRead⟩

variable {call : Config Desk} {surroundings : Surroundings} {arguments : List Value}

/-- The rest of a call, when its table has been read. -/
theorem read_cases {steps read : Nat} {chain upnpClass : Option String}
    {described : Option Object} (isOver : call.OverAfter host steps) (within : 1 + read ≤ steps)
    (chainGiven : Gives (Value.first (arguments.drop 1)) chain)
    (classGiven : Gives (Value.first (arguments.drop 2)) upnpClass)
    (reads : Config.Follows host (readingOf surroundings arguments) (call.after host 1) read
      (.done described))
    (gets : call.GetsTo host (1 + read) (submitting surroundings.processed
      (chain.getD "") (upnpClass.filter (!·.isEmpty)) described)) :
    (call.Fails host steps ∧
        (call.after host steps).state = (call.after host (1 + read)).state) ∨
      ∃ object text given, described = some object ∧ steps = 1 + read + 1 ∧
        Adds call surroundings arguments read object text given := by
  rcases submitting_work (isOver.rest gets.calm.level within) gets.focus with
    ⟨fails, keeps⟩ | ⟨object, text, last, rfl, rfl, present, appends, answers⟩
  · left
    refine ⟨.after_calm within gets.calm fails, ?_⟩
    rw [← keeps, ← Config.after_add, Nat.add_sub_cancel' within]
  · right
    have texts : Texts arguments text (upnpClass.filter (· ≠ "")) :=
      ⟨chainGiven, present, upnpClass, classGiven, rfl⟩
    refine ⟨object, text, upnpClass.filter (· ≠ ""), rfl, ?_, reads, gets.calm, texts, ?_, ?_⟩
    · exact (Nat.sub_eq_iff_eq_add' within).mp last
    · rw [Config.after_succ]
      exact appends
    · rw [Config.after_succ]
      exact answers

/-- A call that adds an object either fails, and has changed nothing by itself, or adds
the object that its table describes. -/
theorem addObject_work {steps : Nat} (begins : Begins call arguments)
    (surrounds : call.state.Surrounds surroundings) (isOver : call.OverAfter host steps) :
    call.Fails host steps ∨ ∃ read object chain upnpClass, steps = 1 + read + 1 ∧
      Adds call surroundings arguments read object chain upnpClass := by
  rcases begins.cases surrounds with
    ⟨failure, stops⟩ | ⟨chain, upnpClass, chainGiven, classGiven, busy, stepped⟩
  · exact .inl (Config.fails_of_fail isOver stops).1
  obtain ⟨positive, calm, rest⟩ := isOver.step busy (by rw [stepped]) (by rw [stepped])
  rcases Config.reading_work _ _ rest (by rw [stepped]) with
    fails | ⟨read, within, described, reads, gets⟩
  · exact .inl (.after_calm positive calm fails)
  rcases read_cases isOver (Nat.add_le_of_le_sub' positive within) chainGiven classGiven reads
    (.after_calm calm gets) with ⟨fails, -⟩ | ⟨object, text, given, -, last, adds⟩
  · exact .inl fails
  · exact .inr ⟨read, object, text, given, last, adds⟩

/-! ## Calls without metatables -/

/-- The table of a call is plain: what stands in it is all that is read. -/
def TableIsPlain (call : Config Desk) (arguments : List Value) : Prop :=
  ∀ table ∈ (Value.first arguments).propertyTable?, IsPlain call.heap table

theorem asks_readingOf (plain : TableIsPlain call arguments) :
    (readingOf surroundings arguments).Asks
      (fun table key value => value = call.heap.property table key)
      (fun table => (call.heap.table table).metatable = none) Reader.askedNames := by
  unfold readingOf
  cases given : (Value.first arguments).propertyTable? with
  | none => trivial
  | some table => exact Reader.asks_of_isPlain _ _ (plain table given)

/-- If there are no metatables, a call that adds an object changes nothing else: it fails,
and everything is as before, or it adds the object that stands in its table. -/
theorem addObject_work_of_plain {steps : Nat} (begins : Begins call arguments)
    (surrounds : call.state.Surrounds surroundings) (isOver : call.OverAfter host steps)
    (plain : TableIsPlain call arguments) :
    (call.Fails host steps ∧ (call.after host steps).state = call.state) ∨
      ∃ read object chain upnpClass, steps = 1 + read + 1 ∧
        Adds call surroundings arguments read object chain upnpClass ∧
        (readingOf surroundings arguments).under call.heap.property = .ok (some object) ∧
        (call.after host (1 + read)).state = call.state := by
  rcases begins.cases surrounds with
    ⟨failure, stops⟩ | ⟨chain, upnpClass, chainGiven, classGiven, busy, stepped⟩
  · exact .inl (Config.fails_of_fail isOver stops)
  obtain ⟨positive, calm, rest⟩ := isOver.step busy (by rw [stepped]) (by rw [stepped])
  have asks : (readingOf surroundings arguments).Asks _ _ _ := asks_readingOf plain
  have sameHeap : (call.step host).heap = call.heap := by rw [stepped]
  have sameState : (call.step host).state = call.state := by rw [stepped]
  rw [← sameHeap] at asks
  rcases Config.reading_work_of_plain _ _ _ asks rest (by rw [stepped]) with
    ⟨fails, keeps⟩ | ⟨read, within, described, reads, comes, gets, keeps⟩
  · refine .inl ⟨.after_calm positive calm fails, ?_⟩
    rw [← Nat.add_sub_cancel' positive, Config.after_add]
    exact keeps.trans sameState
  have unchanged : (call.after host (1 + read)).state = call.state := by
    rw [Config.after_add]
    exact keeps.trans sameState
  rcases read_cases isOver (Nat.add_le_of_le_sub' positive within) chainGiven classGiven reads
    (.after_calm calm gets) with ⟨fails, keeps⟩ | ⟨object, text, given, rfl, last, adds⟩
  · exact .inl ⟨fails, keeps.trans unchanged⟩
  · rw [sameHeap] at comes
    exact .inr ⟨read, object, text, given, last, adds, comes, unchanged⟩

/-- The last step of a call whose table was read. -/
theorem submitting_ends {config : Config Desk} {processed : Option Object} {object : Object}
    {chain : String} {upnpClass : Option String} (present : chain ≠ "")
    (focus : config.focus = submitting processed chain upnpClass (some object)) :
    config.Busy host 1 ∧ (config.after host 1).frames = config.frames ∧
      (config.after host 1).focus = .done (.result [.ofInt32 config.state.catalogue.nextId]) := by
  have asks : config.focus = .host (.submit (linkBack processed object) chain upnpClass)
      handBack := focus
  have stepped : config.after host 1 = { config with
      focus := handBack (Desk.answer (.submit (linkBack processed object) chain upnpClass)
        config.state).1
      state := (Desk.answer (.submit (linkBack processed object) chain upnpClass)
        config.state).2 } := by
    change config.step host = _
    simp only [Config.step, asks]
    rfl
  rw [answer_submit _ present] at stepped
  refine ⟨.one ?_, by rw [stepped], ?_⟩
  · rw [asks]
    exact id
  · rw [stepped]
    rfl

/-- If there are no metatables, and there is room for the look-ups, a call with a good chain
and a table that describes an object succeeds. -/
theorem addObject_succeeds_of_plain (begins : Begins call arguments)
    (surrounds : call.state.Surrounds surroundings) (plain : TableIsPlain call arguments)
    (room : call.HasRoom) {chain : String} {upnpClass : Option String}
    (texts : Texts arguments chain upnpClass) {object : Object}
    (described : (readingOf surroundings arguments).under call.heap.property =
      .ok (some object)) :
    ∃ read, call.OverAfter host (1 + read + 1) ∧
      Adds call surroundings arguments read object chain upnpClass := by
  obtain ⟨given, classGiven, -⟩ := texts.classGiven
  obtain ⟨busy, stepped⟩ := begins.step surrounds
    (textArgument?_of_gives 2 texts.chainGiven) (textArgument?_of_gives 3 classGiven)
  have first : call.after host 1 = _ := stepped
  have asks : (readingOf surroundings arguments).Asks _ _ _ := asks_readingOf plain
  have sameHeap : (call.after host 1).heap = call.heap := by rw [first]
  have roomLeft : (call.after host 1).HasRoom := by
    rw [first]
    exact ⟨room.depth, room.nesting⟩
  rw [← sameHeap] at asks
  obtain ⟨read, reading, -, readAll⟩ := Config.reading_ends_of_plain _ _ _ roomLeft asks
    (by rw [first]) (sameHeap ▸ described)
  have reached := (Config.after_add host 1 read call).trans readAll
  have level : (call.after host 1).frames = call.frames := by rw [first]
  have levelRead : (call.after host (1 + read)).frames = call.frames := by
    rw [reached]
    exact level
  obtain ⟨submits, levelled, answered⟩ :=
    submitting_ends texts.chainPresent (congrArg Config.focus reached)
  have isOver : call.OverAfter host (1 + read + 1) := by
    constructor
    · rw [Config.after_add, levelled, levelRead]
    · rw [Config.after_add, answered]
      trivial
    · exact ((Config.Busy.one busy).trans level reading).trans levelRead submits
  refine ⟨read, isOver, ?_⟩
  rcases addObject_work_of_plain begins surrounds isOver plain with
    ⟨⟨⟨error, stopped⟩, -⟩, -⟩ | ⟨other, found, text, itsClass, same, adds, comes, -⟩
  · rw [Config.after_add, answered] at stopped
    cases stopped
  · obtain rfl : read = other := Nat.add_left_cancel (Nat.add_right_cancel same)
    obtain rfl : object = found := Option.some.inj (Except.ok.inj (described.symm.trans comes))
    obtain ⟨rfl, rfl⟩ := texts.unique adds.texts
    exact adds

end MediaImport.Importer
