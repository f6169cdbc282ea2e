import Mathlib.Data.List.TakeDrop
import MediaImport.Script.Machine

/-!
# What a machine does above a frame

While something runs under protection, its frame and all frames below it stay where
they are.  Whatever happens above, calls, coroutines and errors, ends there or goes on
for ever: the frame is only ever taken off by the end of what was protected, with its
values or its error, and a coroutine cannot be suspended across it.

So the steps of a piece of work are of two kinds.  Its *own* steps are those that are
made when nothing waits above it; all others belong to something that it started.
-/

namespace MediaImport.Script.Config

variable {σ : Type} (host : Host σ)

/-- The configuration after so many steps. -/
def after : Nat → Config σ → Config σ
  | 0, config => config
  | steps + 1, config => after steps (config.step host)

theorem after_add (first second : Nat) (config : Config σ) :
    config.after host (first + second) = (config.after host first).after host second := by
  induction first generalizing config with
  | zero => rw [Nat.zero_add]; rfl
  | succ first ih =>
    rw [Nat.succ_add]
    exact ih (config.step host)

theorem after_succ (steps : Nat) (config : Config σ) :
    config.after host (steps + 1) = (config.after host steps).step host :=
  after_add host steps 1 config

/-! ## One step -/

/-- Some frames stand on top of others. -/
def Above (below : List Frame) (config : Config σ) : Prop :=
  ∃ inner, config.frames = inner ++ below

/-- What was protected by the top frame has ended, and the frame is taken off. -/
inductive Returns (next : Except Value (List Value) → Behaviour Signal)
    (below : List Frame) (config : Config σ) : Config σ → Prop where
  | values (signal : Signal) (ended : config.focus = .done signal) :
    Returns next below config (config.pop (.attempt next) below (next (.ok signal.values)))
  | error (error : Value) (stopped : config.focus = .raise error) :
    Returns next below config (config.pop (.attempt next) below (next (.error error)))

theorem Returns.level {next : Except Value (List Value) → Behaviour Signal}
    {below : List Frame} {config last : Config σ} (returns : Returns next below config last) :
    last.frames = below := by
  cases returns <;> rfl

theorem Returns.state {next : Except Value (List Value) → Behaviour Signal}
    {below : List Frame} {config last : Config σ} (returns : Returns next below config last) :
    last.state = config.state := by
  cases returns <;> rfl

theorem Returns.cases {next : Except Value (List Value) → Behaviour Signal}
    {below : List Frame} {config last : Config σ} (returns : Returns next below config last) :
    (∃ signal, config.focus = .done signal ∧
      last = config.pop (.attempt next) below (next (.ok signal.values))) ∨
    ∃ error, config.focus = .raise error ∧
      last = config.pop (.attempt next) below (next (.error error)) := by
  cases returns with
  | values signal ended => exact .inl ⟨signal, ended, rfl⟩
  | error error stopped => exact .inr ⟨error, stopped, rfl⟩

theorem dropWhile_isCode_above {below : List Frame} {frame : Frame}
    (notCode : frame.isCode = false) (inner : List Frame) :
    ∃ inner', (inner ++ frame :: below).dropWhile Frame.isCode = inner' ++ frame :: below := by
  induction inner with
  | nil => exact ⟨[], by simp [notCode]⟩
  | cons top rest ih =>
    cases code : top.isCode with
    | true => simpa [code] using ih
    | false => exact ⟨top :: rest, by simp [code]⟩

/-- Either a coroutine was resumed above a frame, or the frame itself is met before any
that resumes one. -/
theorem span_isResume_above {below : List Frame} {frame : Frame}
    (notResume : frame.isResume = false) (inner : List Frame) :
    (∃ resumed rest,
      (inner ++ frame :: below).dropWhile (fun frame => !frame.isResume) =
        resumed :: (rest ++ frame :: below)) ∨
    frame ∈ (inner ++ frame :: below).takeWhile fun frame => !frame.isResume := by
  induction inner with
  | nil => exact .inr (by simp [notResume])
  | cons top rest ih =>
    cases resume : top.isResume with
    | true => exact .inl ⟨top, rest, by simp [resume]⟩
    | false =>
      rcases ih with ⟨resumed, later, split⟩ | met
      · exact .inl ⟨resumed, later, by simpa [resume] using split⟩
      · exact .inr (by simp [resume, met])

theorem above_push {below : List Frame} {config : Config σ} (above : config.Above below)
    (frame : Frame) : (config.push frame).Above below := by
  obtain ⟨inner, split⟩ := above
  exact ⟨frame :: inner, congrArg (frame :: ·) split⟩

theorem above_beginWith {below : List Frame} {config : Config σ} (above : config.Above below)
    (site : Option Site) (frame : Frame) (focus : Behaviour Signal) :
    (config.beginWith site frame focus).Above below := by
  unfold beginWith
  split
  · exact above
  · split
    · exact above
    · exact above_push above frame

theorem above_resumeThread {below : List Frame} {config : Config σ} (above : config.Above below)
    (thread : Nat) (arguments : List Value)
    (next : Except Value (List Value) → Behaviour Signal) :
    (config.resumeThread host thread arguments next).Above below := by
  have pushed := above_push above (.resume thread config.running next)
  unfold resumeThread
  split
  · exact above
  · dsimp only
    split
    · exact pushed
    · obtain ⟨inner, split⟩ := pushed
      rename_i frames goOn found
      exact ⟨frames ++ inner, by simp [setThread, withFrames, split]⟩
    · exact above
    · exact above

/-- A coroutine that was resumed below a nested frame is not suspended. -/
theorem above_yieldValues {below : List Frame} {frame : Frame} {config : Config σ}
    (above : config.Above (frame :: below)) (notResume : frame.isResume = false)
    (nested : frame.isNested = true) (values : List Value)
    (next : List Value → Behaviour Signal) :
    (config.yieldValues values next).Above (frame :: below) := by
  obtain ⟨inner, frames⟩ := above
  unfold yieldValues
  rw [List.span_eq_takeWhile_dropWhile]
  dsimp only
  split
  · next thread previous goOn rest outer =>
    split
    · exact ⟨inner, frames⟩
    · next notNested =>
      rw [frames] at outer notNested
      rcases span_isResume_above notResume inner with ⟨resumed, later, split⟩ | met
      · rw [split] at outer
        injection outer with _ same
        exact ⟨later, same.symm⟩
      · exact absurd (List.any_eq_true.mpr ⟨frame, met, nested⟩) notNested
  · exact ⟨inner, frames⟩

theorem above_replaceBy {below : List Frame} {frame : Frame} {config : Config σ}
    (above : config.Above (frame :: below)) (notCode : frame.isCode = false) (site : Site)
    (function : Value) (arguments : List Value) :
    (config.replaceBy host site function arguments).Above (frame :: below) := by
  unfold replaceBy
  cases function with
  | closure id =>
    obtain ⟨inner, frames⟩ := above
    obtain ⟨left, dropped⟩ := dropWhile_isCode_above notCode inner
    exact ⟨left, by rw [← dropped, ← frames]⟩
  | _ => exact above_beginWith above _ _ _

theorem above_finish {next : Except Value (List Value) → Behaviour Signal} {below : List Frame}
    {config : Config σ} (above : config.Above (.attempt next :: below)) (signal : Signal) :
    (config.finish signal).Above (.attempt next :: below) ∨
      config.frames = .attempt next :: below ∧
        config.finish signal = config.pop (.attempt next) below (next (.ok signal.values)) := by
  obtain ⟨inner, frames⟩ := above
  cases inner with
  | nil =>
    right
    refine ⟨frames, ?_⟩
    rw [finish, frames]
    rfl
  | cons top rest =>
    left
    refine ⟨rest, ?_⟩
    rw [finish, frames]
    cases top <;> rfl

theorem above_abandon {next : Except Value (List Value) → Behaviour Signal} {below : List Frame}
    {config : Config σ} (above : config.Above (.attempt next :: below)) (error : Value) :
    (config.abandon error).Above (.attempt next :: below) ∨
      config.frames = .attempt next :: below ∧
        config.abandon error = config.pop (.attempt next) below (next (.error error)) := by
  obtain ⟨inner, frames⟩ := above
  cases inner with
  | nil =>
    right
    refine ⟨frames, ?_⟩
    rw [abandon, frames]
    rfl
  | cons top rest =>
    left
    refine ⟨rest, ?_⟩
    rw [abandon, frames]
    cases top <;> rfl

/-- One step above a frame that protects something: the frame stays, unless what it
protects has ended. -/
theorem step_above {next : Except Value (List Value) → Behaviour Signal} {below : List Frame}
    {config : Config σ} (above : config.Above (.attempt next :: below)) :
    (config.step host).Above (.attempt next :: below) ∨
      config.frames = .attempt next :: below ∧ Returns next below config (config.step host) := by
  cases focus : config.focus with
  | done signal =>
    simp only [step, focus]
    rcases above_finish above signal with stays | ⟨top, finished⟩
    · exact .inl stays
    · rw [finished]
      exact .inr ⟨top, .values signal focus⟩
  | raise error =>
    simp only [step, focus]
    rcases above_abandon above error with stays | ⟨top, abandoned⟩
    · exact .inl stays
    · rw [abandoned]
      exact .inr ⟨top, .error error focus⟩
  | fail failure =>
    left
    simp only [step, focus]
    exact above
  | halt how =>
    left
    simp only [step, focus]
    exact above
  | read goOn =>
    left
    simp only [step, focus]
    exact above
  | write change goOn =>
    left
    simp only [step, focus]
    exact above
  | call site function arguments goOn =>
    left
    simp only [step, focus]
    exact above_beginWith above _ _ _
  | tailCall site function arguments =>
    left
    simp only [step, focus]
    exact above_replaceBy host above rfl _ _ _
  | attempt trial goOn =>
    left
    simp only [step, focus]
    exact above_beginWith above _ _ _
  | caller level goOn =>
    left
    simp only [step, focus]
    exact above
  | enter code scope goOn =>
    left
    simp only [step, focus]
    exact above_push above _
  | jump code scope =>
    left
    simp only [step, focus]
    exact above
  | spawn function goOn =>
    left
    simp only [step, focus]
    exact above
  | resume thread arguments goOn =>
    left
    simp only [step, focus]
    exact above_resumeThread host above _ _ _
  | yield values goOn =>
    left
    simp only [step, focus]
    exact above_yieldValues above rfl rfl _ _
  | status thread goOn =>
    left
    simp only [step, focus]
    exact above
  | close thread goOn =>
    left
    simp only [step, focus]
    exact above
  | running goOn =>
    left
    simp only [step, focus]
    exact above
  | host request goOn =>
    left
    simp only [step, focus]
    exact above

/-! ## A piece of work -/

/-- A behaviour that has nothing left to do. -/
def Ended : Behaviour Signal → Prop
  | .done _ => True
  | .raise _ => True
  | _ => False

/-- What was begun in a configuration is not over before so many steps. -/
def Busy (config : Config σ) (steps : Nat) : Prop :=
  ∀ earlier < steps, (config.after host earlier).frames = config.frames →
    ¬Ended (config.after host earlier).focus

/-- What was begun in a configuration is over after so many steps, and not before. -/
structure OverAfter (config : Config σ) (steps : Nat) : Prop where
  level : (config.after host steps).frames = config.frames
  ended : Ended (config.after host steps).focus
  first : config.Busy host steps

/-- So many steps lead back to the level of a configuration, and none of the steps made
at that level changes the state of the host. -/
structure Calm (config : Config σ) (steps : Nat) : Prop where
  level : (config.after host steps).frames = config.frames
  keeps : ∀ earlier < steps, (config.after host earlier).frames = config.frames →
    (config.after host (earlier + 1)).state = (config.after host earlier).state

variable {host}

theorem Calm.zero (config : Config σ) : config.Calm host 0 where
  level := rfl
  keeps earlier before := absurd before (Nat.not_lt_zero earlier)

theorem Calm.one {config : Config σ} (level : (config.step host).frames = config.frames)
    (keeps : (config.step host).state = config.state) : config.Calm host 1 where
  level := level
  keeps earlier before _ := by
    obtain rfl : earlier = 0 := Nat.lt_one_iff.mp before
    exact keeps

theorem Calm.trans {config : Config σ} {first second : Nat} (left : config.Calm host first)
    (right : (config.after host first).Calm host second) :
    config.Calm host (first + second) := by
  constructor
  · rw [after_add, right.level, left.level]
  · intro earlier before level
    rcases Nat.lt_or_ge earlier first with inFirst | inSecond
    · exact left.keeps earlier inFirst level
    · obtain ⟨more, rfl⟩ := Nat.exists_eq_add_of_le inSecond
      rw [after_add] at level
      rw [Nat.add_assoc, after_add host first (more + 1), after_add host first more]
      exact right.keeps more (Nat.lt_of_add_lt_add_left before) (level.trans left.level.symm)

/-- What is left of a piece of work. -/
theorem OverAfter.rest {config : Config σ} {steps done : Nat} (isOver : config.OverAfter host steps)
    (level : (config.after host done).frames = config.frames) (within : done ≤ steps) :
    (config.after host done).OverAfter host (steps - done) := by
  constructor
  · rw [← after_add, Nat.add_sub_cancel' within, isOver.level, level]
  · rw [← after_add, Nat.add_sub_cancel' within]
    exact isOver.ended
  · intro earlier before same
    rw [← after_add] at same ⊢
    exact isOver.first (done + earlier) (Nat.add_lt_of_lt_sub' before) (same.trans level)

theorem Busy.one {config : Config σ} (busy : ¬Ended config.focus) : config.Busy host 1 := by
  intro earlier before _
  obtain rfl : earlier = 0 := Nat.lt_one_iff.mp before
  exact busy

theorem Busy.trans {config : Config σ} {first second : Nat} (left : config.Busy host first)
    (level : (config.after host first).frames = config.frames)
    (right : (config.after host first).Busy host second) :
    config.Busy host (first + second) := by
  intro earlier before same
  rcases Nat.lt_or_ge earlier first with inFirst | inSecond
  · exact left earlier inFirst same
  · obtain ⟨more, rfl⟩ := Nat.exists_eq_add_of_le inSecond
    rw [after_add] at same ⊢
    exact right more (Nat.lt_of_add_lt_add_left before) (same.trans level.symm)

theorem OverAfter.pos {config : Config σ} {steps : Nat} (isOver : config.OverAfter host steps)
    (busy : ¬Ended config.focus) : 0 < steps := by
  cases steps with
  | zero => exact absurd isOver.ended busy
  | succ steps => exact Nat.succ_pos steps

theorem OverAfter.of_ended {config : Config σ} {steps : Nat}
    (isOver : config.OverAfter host steps) (ended : Ended config.focus) : steps = 0 := by
  cases steps with
  | zero => rfl
  | succ steps => exact absurd ended (isOver.first 0 (Nat.succ_pos steps) rfl)

/-! ## Protected work -/

theorem not_above_self {frame : Frame} {below : List Frame} {config : Config σ}
    (level : config.frames = below) : ¬config.Above (frame :: below) := by
  rintro ⟨inner, frames⟩
  have lengths := congrArg List.length (level.symm.trans frames)
  rw [List.length_append, List.length_cons] at lengths
  omega

/-- What was protected comes back after so many steps and one more, with values or with
an error. -/
structure ComesBack (host : Host σ) (config : Config σ)
    (next : Except Value (List Value) → Behaviour Signal) (steps : Nat) : Prop where
  inside : ∀ earlier ≤ steps, 0 < earlier →
    (config.after host earlier).Above (.attempt next :: config.frames)
  top : (config.after host steps).frames = .attempt next :: config.frames
  returns : Returns next config.frames (config.after host steps) (config.after host (steps + 1))

/-- Whatever was tried, trying it has not changed the state. -/
theorem ComesBack.calm {config : Config σ} {next : Except Value (List Value) → Behaviour Signal}
    {steps : Nat} (back : config.ComesBack host next steps)
    (keeps : (config.step host).state = config.state) : config.Calm host (steps + 1) := by
  refine ⟨back.returns.level, ?_⟩
  intro earlier before level
  cases earlier with
  | zero => exact keeps
  | succ earlier =>
    exact absurd (back.inside (earlier + 1) (Nat.le_of_lt_succ before) (Nat.succ_pos earlier))
      (not_above_self level)

/-- From above a frame, the way back to the level below it leads through the frame. -/
theorem comes_back_from {next : Except Value (List Value) → Behaviour Signal}
    {below : List Frame} (steps : Nat) {config : Config σ}
    (above : config.Above (.attempt next :: below))
    (level : (config.after host steps).frames = below) :
    ∃ inside < steps,
      (∀ earlier ≤ inside, (config.after host earlier).Above (.attempt next :: below)) ∧
      (config.after host inside).frames = .attempt next :: below ∧
      Returns next below (config.after host inside) (config.after host (inside + 1)) := by
  induction steps generalizing config with
  | zero => exact absurd above (not_above_self level)
  | succ steps ih =>
    rcases step_above host above with stays | ⟨top, returns⟩
    · obtain ⟨inside, before, path, top, returns⟩ := ih stays level
      refine ⟨inside + 1, Nat.succ_lt_succ before, ?_, top, returns⟩
      intro earlier within
      cases earlier with
      | zero => exact above
      | succ earlier => exact path earlier (Nat.le_of_succ_le_succ within)
    · refine ⟨0, Nat.succ_pos steps, ?_, top, returns⟩
      intro earlier within
      obtain rfl : earlier = 0 := Nat.le_zero.mp within
      exact above

/-- While something is tried, the work is not over. -/
theorem ComesBack.busy {config : Config σ} {next : Except Value (List Value) → Behaviour Signal}
    {steps : Nat} (back : config.ComesBack host next steps) (busy : ¬Ended config.focus) :
    config.Busy host (steps + 1) := by
  intro earlier before level
  cases earlier with
  | zero => exact busy
  | succ earlier =>
    exact absurd (back.inside (earlier + 1) (Nat.le_of_lt_succ before) (Nat.succ_pos earlier))
      (not_above_self level)

/-- Beginning something under protection fails at once if too much is waiting already. -/
theorem step_attempt (host : Host σ) {config : Config σ} {trial : Trial}
    {next : Except Value (List Value) → Behaviour Signal}
    (focus : config.focus = .attempt trial next) :
    (∃ error, config.step host = { config with focus := .raise error }) ∨
      config.step host =
        { config.push (.attempt next) with focus := Signal.result <$> trial.behaviour } := by
  simp only [step, focus, beginWith]
  by_cases deep : depthLimit ≤ config.depth
  · rw [if_pos deep]
    exact .inl ⟨_, rfl⟩
  · rw [if_neg deep]
    split
    · exact .inl ⟨_, rfl⟩
    · exact .inr rfl

/-- There is room for one more frame. -/
structure HasRoom (config : Config σ) : Prop where
  depth : config.depth < depthLimit
  nesting : config.nesting < nestingLimit

theorem step_attempt_of_room (host : Host σ) {config : Config σ} (room : config.HasRoom)
    {trial : Trial} {next : Except Value (List Value) → Behaviour Signal}
    (focus : config.focus = .attempt trial next) :
    config.step host =
      { config.push (.attempt next) with focus := Signal.result <$> trial.behaviour } := by
  simp only [step, focus, beginWith]
  rw [if_neg (Nat.not_le_of_gt room.depth), if_neg]
  simp [Nat.not_le_of_gt room.nesting]

theorem step_call_of_room (host : Host σ) {config : Config σ} (room : config.HasRoom)
    {site : Option Site} {which : Native} {arguments : List Value}
    {next : List Value → Behaviour Signal}
    (focus : config.focus = .call site (.native which) arguments next) :
    config.step host = { config.push (.call site next) with
      focus := Signal.result <$> host.apply which arguments } := by
  simp only [step, focus, beginWith]
  rw [if_neg (Nat.not_le_of_gt room.depth), if_neg]
  · rfl
  · simp [Nat.not_le_of_gt room.nesting]

/-- What is tried either fails at once or comes back, if the work is ever over. -/
theorem attempt_comes_back {config : Config σ} {steps : Nat}
    (isOver : config.OverAfter host steps) {trial : Trial}
    {next : Except Value (List Value) → Behaviour Signal}
    (focus : config.focus = .attempt trial next) :
    (∃ error, config.step host = { config with focus := .raise error }) ∨
      ∃ inside, inside + 1 ≤ steps ∧ config.ComesBack host next inside ∧
        config.Calm host (inside + 1) := by
  rcases step_attempt host focus with refused | begun
  · exact .inl refused
  right
  have busy : ¬Ended config.focus := by
    rw [focus]
    exact id
  obtain ⟨later, rfl⟩ := Nat.exists_eq_succ_of_ne_zero (Nat.ne_of_gt (isOver.pos busy))
  have above : (config.step host).Above (.attempt next :: config.frames) := by
    rw [begun]
    exact ⟨[], rfl⟩
  obtain ⟨inside, before, path, top, returns⟩ := comes_back_from later above isOver.level
  have within : ∀ earlier ≤ inside + 1, 0 < earlier →
      (config.after host earlier).Above (.attempt next :: config.frames) := by
    intro earlier within positive
    obtain ⟨earlier, rfl⟩ := Nat.exists_eq_succ_of_ne_zero (Nat.ne_of_gt positive)
    exact path earlier (Nat.le_of_succ_le_succ within)
  have back : config.ComesBack host next (inside + 1) := ⟨within, top, returns⟩
  exact ⟨inside + 1, Nat.succ_le_succ before, back, back.calm (by rw [begun]; rfl)⟩

/-- What came back had room. -/
theorem ComesBack.hasRoom {config : Config σ} {trial : Trial}
    {next : Except Value (List Value) → Behaviour Signal} {steps : Nat}
    (focus : config.focus = .attempt trial next) (back : config.ComesBack host next steps) :
    config.HasRoom := by
  have positive : 1 ≤ steps := by
    by_contra none
    obtain rfl : steps = 0 := Nat.lt_one_iff.mp (Nat.lt_of_not_le none)
    exact not_above_self rfl ⟨[], back.top⟩
  have above : (config.step host).Above (.attempt next :: config.frames) :=
    back.inside 1 positive Nat.one_pos
  -- A step that was refused would have stayed at its level.
  simp only [step, focus, beginWith] at above
  constructor
  · by_contra deep
    rw [if_pos (Nat.le_of_not_lt deep)] at above
    exact not_above_self rfl above
  · by_contra deep
    split at above
    · exact not_above_self rfl above
    · rw [if_pos (by simpa using ⟨rfl, Nat.le_of_not_lt deep⟩)] at above
      exact not_above_self rfl above

end MediaImport.Script.Config
