import MediaImport.Proofs.Script.Levels
import MediaImport.Proofs.Script.PropertyReads

/-!
# Reading a table as a part of a running script

A function of the application reads the table that it was given while the script is
running.  Each property is looked up under protection: whatever a metatable does runs
above, and comes back with values or with an error.  So a reading in a script is a walk
through the questions of the reading, from one look-up that came back to the next.

Such a walk ends with what the reading comes to, or the work stops with an error.
Either way the work itself has changed nothing in the host; only what metatables did
may have.  Where there are no metatables nothing changes at all.
-/

namespace MediaImport.Script

open MediaImport.Exchange

namespace Behaviour

variable {α β γ : Type}

theorem bind_assoc (first : Behaviour α) (second : α → Behaviour β) (third : β → Behaviour γ) :
    (first.bind second).bind third = first.bind fun value => (second value).bind third := by
  induction first with
  | done value => rfl
  | raise error => rfl
  | fail failure => rfl
  | halt how => rfl
  | tailCall site function arguments => rfl
  | jump code scope => rfl
  | read next ih => exact congrArg Behaviour.read (funext ih)
  | write change next ih => exact congrArg (Behaviour.write change) (funext ih)
  | call site function arguments next ih =>
    exact congrArg (Behaviour.call site function arguments) (funext ih)
  | attempt trial next ih => exact congrArg (Behaviour.attempt trial) (funext ih)
  | caller level next ih => exact congrArg (Behaviour.caller level) (funext ih)
  | enter code scope next ih => exact congrArg (Behaviour.enter code scope) (funext ih)
  | spawn function next ih => exact congrArg (Behaviour.spawn function) (funext ih)
  | resume thread arguments next ih =>
    exact congrArg (Behaviour.resume thread arguments) (funext ih)
  | yield values next ih => exact congrArg (Behaviour.yield values) (funext ih)
  | status thread next ih => exact congrArg (Behaviour.status thread) (funext ih)
  | close thread next ih => exact congrArg (Behaviour.close thread) (funext ih)
  | running next ih => exact congrArg Behaviour.running (funext ih)
  | host request next ih => exact congrArg (Behaviour.host request) (funext ih)

theorem map_bind (first : Behaviour α) (second : α → Behaviour β) (change : β → γ) :
    change <$> first.bind second = first.bind fun value => change <$> second value :=
  bind_assoc first second fun value => done (change value)

end Behaviour

namespace Config

variable {σ α : Type} {host : Host σ}

/-! ## Work that stops with an error -/

/-- A piece of work stops with an error after so many steps, and has changed nothing by
itself. -/
structure Fails (host : Host σ) (config : Config σ) (steps : Nat) : Prop where
  stopped : ∃ error, (config.after host steps).focus = .raise error
  calm : config.Calm host steps

theorem Fails.after_calm {config : Config σ} {steps done : Nat} (within : done ≤ steps)
    (calm : config.Calm host done) (fails : (config.after host done).Fails host (steps - done)) :
    config.Fails host steps := by
  obtain ⟨error, stopped⟩ := fails.stopped
  have all := calm.trans fails.calm
  rw [← after_add, Nat.add_sub_cancel' within] at stopped
  rw [Nat.add_sub_cancel' within] at all
  exact ⟨⟨error, stopped⟩, all⟩

theorem fails_of_raise {config : Config σ} {steps : Nat} (isOver : config.OverAfter host steps)
    {error : Value} (focus : config.focus = .raise error) : config.Fails host steps := by
  obtain rfl := isOver.of_ended (by rw [focus]; trivial)
  exact ⟨⟨error, focus⟩, .zero config⟩

/-- One step of a piece of work that is not over. -/
theorem OverAfter.step {config : Config σ} {steps : Nat} (isOver : config.OverAfter host steps)
    (busy : ¬Ended config.focus) (level : (config.step host).frames = config.frames)
    (keeps : (config.step host).state = config.state) :
    1 ≤ steps ∧ config.Calm host 1 ∧ (config.step host).OverAfter host (steps - 1) := by
  have positive : 1 ≤ steps := isOver.pos busy
  have calm : config.Calm host 1 := .one level keeps
  exact ⟨positive, calm, isOver.rest calm.level positive⟩

theorem fails_of_step {config : Config σ} {steps : Nat} (isOver : config.OverAfter host steps)
    (busy : ¬Ended config.focus) (level : (config.step host).frames = config.frames)
    (keeps : (config.step host).state = config.state)
    (fails : ∀ later, (config.step host).OverAfter host later →
      (config.step host).Fails host later) : config.Fails host steps := by
  obtain ⟨positive, calm, rest⟩ := isOver.step busy level keeps
  exact .after_calm positive calm (fails _ rest)

/-- The next step stops the work. -/
theorem fails_at_once {config : Config σ} {steps : Nat} (isOver : config.OverAfter host steps)
    (busy : ¬Ended config.focus) (level : (config.step host).frames = config.frames)
    (keeps : (config.step host).state = config.state) {error : Value}
    (raised : (config.step host).focus = .raise error) :
    config.Fails host steps ∧ (config.after host steps).state = config.state := by
  obtain ⟨positive, calm, rest⟩ := isOver.step busy level keeps
  have last : steps - 1 = 0 := rest.of_ended (by rw [raised]; trivial)
  obtain rfl : steps = 1 := Nat.le_antisymm (Nat.le_of_sub_eq_zero last) positive
  exact ⟨⟨⟨error, raised⟩, calm⟩, keeps⟩

theorem fails_of_fail {config : Config σ} {steps : Nat} (isOver : config.OverAfter host steps)
    {failure : Failure} (focus : config.focus = .fail failure) :
    config.Fails host steps ∧ (config.after host steps).state = config.state := by
  have next : config.step host = { config with
      heap := (config.heap.newFault failure).1
      focus := .raise (.fault (config.heap.newFault failure).2) } := by
    simp only [Config.step, focus]
  exact fails_at_once isOver (by rw [focus]; exact id) (by rw [next]) (by rw [next]) (by rw [next])

/-- A piece of work gets to some behaviour after so many steps, at its own level, and has
changed nothing by itself. -/
structure GetsTo (host : Host σ) (config : Config σ) (steps : Nat) (focus : Behaviour Signal) :
    Prop where
  calm : config.Calm host steps
  focus : (config.after host steps).focus = focus

theorem GetsTo.after_calm {config : Config σ} {first second : Nat} {focus : Behaviour Signal}
    (calm : config.Calm host first) (gets : (config.after host first).GetsTo host second focus) :
    config.GetsTo host (first + second) focus := by
  refine ⟨calm.trans gets.calm, ?_⟩
  rw [after_add, gets.focus]

theorem GetsTo.fails {config : Config σ} {steps done : Nat} {focus : Behaviour Signal}
    (gets : config.GetsTo host done focus) (within : done ≤ steps)
    (isOver : config.OverAfter host steps)
    (fails : ∀ {later : Config σ} {left : Nat}, later.focus = focus →
      later.OverAfter host left → later.Fails host left) : config.Fails host steps :=
  .after_calm within gets.calm (fails gets.focus (isOver.rest gets.calm.level within))

/-- What was tried has come back with some values. -/
structure ComesBackWith (host : Host σ) (config : Config σ)
    (next : Except Value (List Value) → Behaviour Signal) (steps : Nat) (values : List Value) :
    Prop where
  back : config.ComesBack host next steps
  ended : ∃ signal : Signal, (config.after host steps).focus = .done signal ∧
    signal.values = values

/-- Something is tried in a piece of work: the work stops at once, or goes on with the
values or the error that come back. -/
theorem attempt_work {config : Config σ} {steps : Nat} (isOver : config.OverAfter host steps)
    {trial : Trial} {next : Except Value (List Value) → Behaviour Signal}
    (focus : config.focus = .attempt trial next) :
    config.Fails host steps ∨ ∃ inside, inside + 1 ≤ steps ∧
      ((∃ values, config.ComesBackWith host next inside values ∧
          config.GetsTo host (inside + 1) (next (.ok values))) ∨
        ∃ error, config.GetsTo host (inside + 1) (next (.error error))) := by
  rcases attempt_comes_back isOver focus with ⟨refusal, refused⟩ | ⟨inside, within, back, calm⟩
  · left
    exact (fails_at_once isOver (by rw [focus]; exact id) (by rw [refused]) (by rw [refused])
      (by rw [refused])).1
  · refine .inr ⟨inside, within, ?_⟩
    rcases back.returns.cases with ⟨signal, ended, last⟩ | ⟨error, stopped, last⟩
    · exact .inl ⟨signal.values, ⟨back, signal, ended, rfl⟩, calm, by rw [last]; rfl⟩
    · exact .inr ⟨error, calm, by rw [last]; rfl⟩

/-! ## Errors on their way out -/

/-- How an error is settled when its description comes back. -/
def described (limit : Nat) : Except Value (List Value) → Behaviour Value
  | .ok values => .done (Value.first values)
  | .error later => settleWithin limit later

theorem settleWithin_work (limit : Nat) (error : Value) (goOn : Value → Behaviour Signal)
    {config : Config σ} {steps : Nat} (isOver : config.OverAfter host steps)
    (focus : config.focus = (settleWithin limit error).bind goOn) :
    config.Fails host steps ∨
      ∃ done ≤ steps, ∃ settled, config.GetsTo host done (goOn settled) := by
  induction limit generalizing error config steps with
  | zero => exact .inr ⟨0, Nat.zero_le _, _, .zero config, focus⟩
  | succ limit ih =>
    have tried : (∃ id, error = .fault id) ∨
        config.focus = .attempt (.describe error) fun answer =>
          (described limit answer).bind goOn := by
      cases error with
      | fault id => exact .inl ⟨id, rfl⟩
      | _ => exact .inr focus
    rcases tried with ⟨id, rfl⟩ | tried
    · exact .inr ⟨0, Nat.zero_le _, _, .zero config, focus⟩
    · rcases attempt_work isOver tried with
        fails | ⟨inside, within, ⟨values, -, gets⟩ | ⟨later, gets⟩⟩
      · exact .inl fails
      · exact .inr ⟨inside + 1, within, Value.first values, gets⟩
      · rcases ih later (isOver.rest gets.calm.level within) gets.focus with
          fails | ⟨more, withinMore, settled, further⟩
        · exact .inl (.after_calm within gets.calm fails)
        · exact .inr ⟨inside + 1 + more, Nat.add_le_of_le_sub' within withinMore, settled,
            .after_calm gets.calm further⟩

/-- An error on its way out of a piece of work stops the work. -/
theorem surface_work (error : Value) (goOn : α → Behaviour Signal)
    {config : Config σ} {steps : Nat} (isOver : config.OverAfter host steps)
    (focus : config.focus = (surface error).bind goOn) : config.Fails host steps := by
  have settling := focus.trans (Behaviour.bind_assoc (settle error) _ goOn)
  rcases settleWithin_work describeLimit error _ isOver settling with
    fails | ⟨done, within, settled, gets⟩
  · exact fails
  · refine gets.fails within isOver ?_
    intro later left focus isOver
    have stops : (∃ id, later.focus = .raise (.fault id)) ∨
        later.focus = .read fun heap => .fail (failureOf heap settled) := by
      cases settled with
      | fault id => exact .inl ⟨id, focus⟩
      | _ => exact .inr focus
    rcases stops with ⟨id, raised⟩ | looks
    · exact fails_of_raise isOver raised
    · have next : later.step host =
          { later with focus := .fail (failureOf later.heap settled) } := by
        simp only [Config.step, looks]
      refine fails_of_step isOver (by rw [looks]; exact id) (by rw [next]) (by rw [next]) ?_
      intro more rest
      exact (fails_of_fail rest (by rw [next])).1

/-! ## Reading -/

/-- In so many steps a reading gets from a configuration to what is left of it, with the
answers that came back from its look-ups. -/
inductive Follows (host : Host σ) : Reading α → Config σ → Nat → Reading α → Prop where
  | start (reading : Reading α) (config : Config σ) : Follows host reading config 0 reading
  | answer {table : Nat} {key : String} {next : Value → Reading α} {config : Config σ}
    {goOn : Except Value (List Value) → Behaviour Signal} {inside more : Nat}
    {values : List Value} {rest : Reading α}
    (asks : config.focus = .attempt (.index (.table table) (.ofString key)) goOn)
    (answered : config.ComesBackWith host goOn inside values)
    (follows : Follows host (next (Value.first values)) (config.after host (inside + 1)) more
      rest) :
    Follows host (.get table key next) config (inside + 1 + more) rest

theorem behaviour_get (table : Nat) (key : String) (next : Value → Reading α)
    (goOn : α → Behaviour Signal) :
    (Reading.get table key next).behaviour.bind goOn =
      .attempt (.index (.table table) (.ofString key)) fun answer =>
        Behaviour.bind
          (match answer with
            | .ok values => (next (Value.first values)).behaviour
            | .error error => surface error) goOn := by
  rw [Reading.behaviour]
  rfl

/-- Reading as a part of a script: it comes to a value, or the work stops. -/
theorem reading_work (reading : Reading α) (goOn : α → Behaviour Signal)
    {config : Config σ} {steps : Nat} (isOver : config.OverAfter host steps)
    (focus : config.focus = reading.behaviour.bind goOn) :
    config.Fails host steps ∨ ∃ done ≤ steps, ∃ value,
      Follows host reading config done (.done value) ∧ config.GetsTo host done (goOn value) := by
  induction reading generalizing config steps with
  | done value => exact .inr ⟨0, Nat.zero_le _, value, .start _ _, .zero config, focus⟩
  | fail failure => exact .inl (fails_of_fail isOver focus).1
  | get table key next ih =>
    have asks := focus.trans (behaviour_get table key next goOn)
    rcases attempt_work isOver asks with
      fails | ⟨inside, within, ⟨values, back, gets⟩ | ⟨error, gets⟩⟩
    · exact .inl fails
    · rcases ih (Value.first values) (isOver.rest gets.calm.level within) gets.focus with
        fails | ⟨more, withinMore, value, follows, further⟩
      · exact .inl (.after_calm within gets.calm fails)
      · exact .inr ⟨inside + 1 + more, Nat.add_le_of_le_sub' within withinMore, value,
          .answer asks back follows, .after_calm gets.calm further⟩
    · left
      refine gets.fails within isOver ?_
      intro later left focus isOver
      exact surface_work error goOn isOver focus

theorem ComesBackWith.unique {config : Config σ}
    {next : Except Value (List Value) → Behaviour Signal} {first second : Nat}
    {values others : List Value} (left : config.ComesBackWith host next first values)
    (right : config.ComesBackWith host next second others) : first = second ∧ values = others := by
  have ordered : ∀ {one two : Nat}, config.ComesBack host next one →
      config.ComesBack host next two → ¬one < two := by
    intro one two back later before
    exact not_above_self back.returns.level (later.inside (one + 1) before (Nat.succ_pos one))
  obtain rfl : first = second :=
    Nat.le_antisymm (Nat.le_of_not_lt (ordered right.back left.back))
      (Nat.le_of_not_lt (ordered left.back right.back))
  obtain ⟨signal, ended, rfl⟩ := left.ended
  obtain ⟨other, again, rfl⟩ := right.ended
  rw [ended] at again
  cases again
  exact ⟨rfl, rfl⟩

/-- From one configuration a reading comes to one value. -/
theorem Follows.unique {reading : Reading α} {config : Config σ} {first second : Nat}
    {value other : α} (left : Follows host reading config first (.done value))
    (right : Follows host reading config second (.done other)) :
    first = second ∧ value = other := by
  induction reading generalizing config first second with
  | done found =>
    cases left
    cases right
    exact ⟨rfl, rfl⟩
  | fail failure => cases left
  | get table key next ih =>
    cases left with
    | answer asks answered follows =>
      cases right with
      | answer asksToo answeredToo followsToo =>
        rw [asks] at asksToo
        cases asksToo
        obtain ⟨rfl, rfl⟩ := answered.unique answeredToo
        obtain ⟨rfl, rfl⟩ := ih _ follows followsToo
        exact ⟨rfl, rfl⟩

/-- As `Follows`, where every answer is the value in a view. -/
inductive FollowsIn (host : Host σ) (view : Nat → String → Value) :
    Reading α → Config σ → Nat → Reading α → Prop where
  | start (reading : Reading α) (config : Config σ) : FollowsIn host view reading config 0 reading
  | answer {table : Nat} {key : String} {next : Value → Reading α} {config : Config σ}
    {goOn : Except Value (List Value) → Behaviour Signal} {inside more : Nat}
    {values : List Value} {rest : Reading α}
    (asks : config.focus = .attempt (.index (.table table) (.ofString key)) goOn)
    (answered : config.ComesBackWith host goOn inside values)
    (seen : Value.first values = view table key)
    (follows : FollowsIn host view (next (view table key)) (config.after host (inside + 1)) more
      rest) :
    FollowsIn host view (.get table key next) config (inside + 1 + more) rest

/-- What a reading comes to depends on the answers alone. -/
theorem FollowsIn.under {view : Nat → String → Value} {reading rest : Reading α}
    {config : Config σ} {steps : Nat} (follows : FollowsIn host view reading config steps rest) :
    reading.under view = rest.under view := by
  induction follows with
  | start reading config => rfl
  | answer asks answered seen follows ih => exact ih

theorem FollowsIn.follows {view : Nat → String → Value} {reading rest : Reading α}
    {config : Config σ} {steps : Nat} (inView : FollowsIn host view reading config steps rest) :
    Follows host reading config steps rest := by
  induction inView with
  | start reading config => exact .start reading config
  | answer asks answered seen rest ih =>
    rw [← seen] at ih
    exact .answer asks answered ih

/-- A reading that asks for nothing twice sees one answer for each property. -/
theorem Follows.inView {reading rest : Reading α} {config : Config σ} {steps : Nat}
    (follows : Follows host reading config steps rest) {names : List String}
    (asks : reading.Asks (fun _ _ _ => True) (fun _ => True) names) (distinct : names.Nodup)
    (base : Nat → String → Value) :
    ∃ view, FollowsIn host view reading config steps rest ∧
      ∀ table key, key ∉ names → view table key = base table key := by
  induction follows generalizing names base with
  | start reading config => exact ⟨base, .start reading config, fun _ _ _ => rfl⟩
  | @answer table key next config goOn inside more values rest looks answered follows ih =>
    obtain ⟨-, before, after, split, later⟩ := asks
    subst split
    obtain ⟨-, distinct, apart⟩ := List.nodup_append.mp distinct
    obtain ⟨fresh, distinct⟩ := List.nodup_cons.mp distinct
    obtain ⟨view, inView, agrees⟩ := ih (later _ trivial) distinct
      fun table other => if other = key then Value.first values else base table other
    have own : view table key = Value.first values := by
      rw [agrees table key fresh, if_pos rfl]
    refine ⟨view, .answer looks answered own.symm (own ▸ inView), ?_⟩
    intro table other notAsked
    rw [List.mem_append, List.mem_cons, not_or, not_or] at notAsked
    rw [agrees table other notAsked.2.2, if_neg notAsked.2.1]

theorem Follows.exists_inView {reader : Reader} {previous : Option Media.Object} {table : Nat}
    {rest : Reading (Option Media.Object)} {config : Config σ} {steps : Nat}
    (follows : Follows host (reader.object previous (some table)) config steps rest) :
    ∃ view, FollowsIn host view (reader.object previous (some table)) config steps rest := by
  obtain ⟨view, inView, -⟩ :=
    follows.inView (reader.asks_object trivial (fun _ _ => trivial) previous)
      Reader.nodup_askedNames fun _ _ => .nil
  exact ⟨view, inView⟩

/-! ## Tables without a metatable -/

/-- Looking a property up in a table without a metatable takes three steps, and changes
nothing. -/
theorem comesBackWith_of_plain {config : Config σ} {table : Nat} {key : String}
    {next : Except Value (List Value) → Behaviour Signal}
    (plain : (config.heap.table table).metatable = none)
    (begun : config.step host = { config.push (.attempt next) with
      focus := Signal.result <$> (Trial.index (.table table) (.ofString key)).behaviour }) :
    config.ComesBackWith host next 2 [config.heap.property table key] ∧
      config.after host 3 =
        { config with focus := next (.ok [config.heap.property table key]) } := by
  obtain ⟨goOn, request, look⟩ := map_index_table (fun value => Signal.result [value]) none table
    (.ofString key) []
  have asked : Signal.result <$> (Trial.index (.table table) (.ofString key)).behaviour =
      .read goOn := by
    rw [← request]
    exact Behaviour.map_bind _ _ _
  rw [asked] at begun
  have second : config.after host 2 = { config.push (.attempt next) with
      focus := .done (.result [config.heap.property table key]) } := by
    change (config.step host).step host = _
    rw [begun]
    simp only [Config.step, push]
    rw [look config.heap plain]
    rfl
  have third : config.after host 3 =
      { config with focus := next (.ok [config.heap.property table key]) } := by
    rw [after_succ, second]
    simp [Config.step, finish, push, pop, Signal.values]
  have returned : Returns next config.frames (config.after host 2) (config.after host 3) := by
    rw [after_succ host 2, second]
    exact .values (.result _) rfl
  have inside : ∀ earlier ≤ 2, 0 < earlier →
      (config.after host earlier).Above (.attempt next :: config.frames) := by
    intro earlier within positive
    have either : earlier = 1 ∨ earlier = 2 := by omega
    rcases either with rfl | rfl
    · change (config.step host).Above _
      rw [begun]
      exact ⟨[], rfl⟩
    · rw [second]
      exact ⟨[], rfl⟩
  exact ⟨⟨⟨inside, by rw [second]; rfl, returned⟩, _, by rw [second], rfl⟩, third⟩

/-- Reading tables without a metatable as a part of a script comes to what stands in
them, and changes nothing. -/
theorem reading_work_of_plain (reading : Reading α) (names : List String)
    (goOn : α → Behaviour Signal) {config : Config σ} {steps : Nat}
    (asks : reading.Asks (fun table key value => value = config.heap.property table key)
      (fun table => (config.heap.table table).metatable = none) names)
    (isOver : config.OverAfter host steps) (focus : config.focus = reading.behaviour.bind goOn) :
    (config.Fails host steps ∧ (config.after host steps).state = config.state) ∨
      ∃ done ≤ steps, ∃ value, Follows host reading config done (.done value) ∧
        reading.under config.heap.property = .ok value ∧
        config.GetsTo host done (goOn value) ∧
        (config.after host done).state = config.state := by
  induction reading generalizing names config steps with
  | done value =>
    exact .inr ⟨0, Nat.zero_le _, value, .start _ _, rfl, ⟨.zero config, focus⟩, rfl⟩
  | fail failure => exact .inl (fails_of_fail isOver focus)
  | get table key next ih =>
    obtain ⟨plain, before, after, -, later⟩ := asks
    have looks := focus.trans (behaviour_get table key next goOn)
    have busy : ¬Ended config.focus := by
      rw [looks]
      exact id
    rcases step_attempt host looks with ⟨refusal, refused⟩ | begun
    · exact .inl (fails_at_once isOver busy (by rw [refused]) (by rw [refused]) (by rw [refused]))
    · obtain ⟨answered, third⟩ := comesBackWith_of_plain plain begun
      have within : 2 + 1 ≤ steps := by
        by_contra short
        have early : steps ≤ 2 := by omega
        exact not_above_self isOver.level
          (answered.back.inside steps early (isOver.pos busy))
      have calm : config.Calm host (2 + 1) := answered.back.calm (by rw [begun]; rfl)
      have looked : (config.after host (2 + 1)).heap = config.heap := by rw [third]
      have kept : (config.after host (2 + 1)).state = config.state := by rw [third]
      have asksOn := later _ rfl
      rw [← looked] at asksOn
      rcases ih _ after asksOn (isOver.rest calm.level within) (by rw [third]; rfl) with
        ⟨fails, keeps⟩ | ⟨more, withinMore, value, follows, comes, gets, keeps⟩
      · refine .inl ⟨.after_calm within calm fails, ?_⟩
        rwa [← after_add, Nat.add_sub_cancel' within, kept] at keeps
      · rw [looked] at comes follows
        refine .inr ⟨2 + 1 + more, Nat.add_le_of_le_sub' within withinMore, value,
          .answer looks answered follows, comes, .after_calm calm gets, ?_⟩
        rw [after_add, keeps, kept]

/-- If there is room for the look-ups, reading tables without a metatable gets to the end, and
sees what stands in them. -/
theorem reading_ends_inView_of_plain (reading : Reading α) (names : List String)
    (goOn : α → Behaviour Signal) {config : Config σ} (room : config.HasRoom)
    (asks : reading.Asks (fun table key value => value = config.heap.property table key)
      (fun table => (config.heap.table table).metatable = none) names)
    (focus : config.focus = reading.behaviour.bind goOn) {value : α}
    (comes : reading.under config.heap.property = .ok value) :
    ∃ steps, config.Busy host steps ∧
      FollowsIn host config.heap.property reading config steps (.done value) ∧
      config.after host steps = { config with focus := goOn value } := by
  induction reading generalizing names config with
  | done found =>
    obtain rfl := Except.ok.inj comes
    refine ⟨0, fun earlier before => absurd before (Nat.not_lt_zero earlier), .start _ _, ?_⟩
    rw [after]
    obtain ⟨_, _, _, _, _, _, _, _⟩ := config
    obtain rfl := focus
    rfl
  | fail failure => cases comes
  | get table key next ih =>
    obtain ⟨plain, before, after, -, later⟩ := asks
    have looks := focus.trans (behaviour_get table key next goOn)
    have busy : ¬Ended config.focus := by
      rw [looks]
      exact id
    obtain ⟨answered, third⟩ :=
      comesBackWith_of_plain plain (step_attempt_of_room host room looks)
    have asksOn := later _ rfl
    have again : (config.after host 3).HasRoom := by
      rw [third]
      exact ⟨room.depth, room.nesting⟩
    have looked : (config.after host 3).heap = config.heap := by rw [third]
    rw [← looked] at asksOn
    obtain ⟨more, inside, follows, last⟩ := ih _ after again asksOn (by rw [third]; rfl)
      (by rw [looked]; exact comes)
    rw [looked] at follows
    refine ⟨3 + more, (answered.back.busy busy).trans answered.back.returns.level inside,
      .answer looks answered rfl follows, ?_⟩
    rw [after_add, last, third]

/-- On any heap, tables without a metatable can be read by some running script. -/
theorem exists_followsIn_of_plain (heap : Heap) (state : σ) (reading : Reading α)
    (names : List String)
    (asks : reading.Asks (fun table key value => value = heap.property table key)
      (fun table => (heap.table table).metatable = none) names) {value : α}
    (comes : reading.under heap.property = .ok value) :
    ∃ (config : Config σ) (steps : Nat), config.heap = heap ∧
      FollowsIn host heap.property reading config steps (.done value) := by
  let config : Config σ := {
    focus := reading.behaviour.bind fun _ => .done (.result [])
    heap
    threads := ∅
    state }
  have room : config.HasRoom := ⟨Nat.zero_lt_succ _, Nat.zero_lt_succ _⟩
  obtain ⟨steps, -, inView, -⟩ :=
    reading_ends_inView_of_plain reading names _ room asks rfl comes
  exact ⟨config, steps, rfl, inView⟩

theorem reading_ends_of_plain (reading : Reading α) (names : List String)
    (goOn : α → Behaviour Signal) {config : Config σ} (room : config.HasRoom)
    (asks : reading.Asks (fun table key value => value = config.heap.property table key)
      (fun table => (config.heap.table table).metatable = none) names)
    (focus : config.focus = reading.behaviour.bind goOn) {value : α}
    (comes : reading.under config.heap.property = .ok value) :
    ∃ steps, config.Busy host steps ∧ Follows host reading config steps (.done value) ∧
      config.after host steps = { config with focus := goOn value } := by
  obtain ⟨steps, busy, inView, last⟩ :=
    reading_ends_inView_of_plain reading names goOn room asks focus comes
  exact ⟨steps, busy, inView.follows, last⟩

end Config

end MediaImport.Script
