import MediaImport.Script.Evaluation

/-!
# The machine

Runs behaviours.  What is being done is a behaviour; what waits for its end
is a list of frames, innermost first; all coroutines share that list, each above
the frame of whoever resumed it.

`Config.step` answers one request.  A configuration is final if its behaviour has
ended with no frame left, or has brought everything to a stop, and a step leaves it
alone.  `run` repeats steps; its number of steps is limited only so that it is a
total function.

What the script library does and what the application answers is given as a
`Host`, so the machine knows neither.
-/

namespace MediaImport.Script

open Behaviour

/-- What a machine needs from outside: what functions do that are not written in a
script, and what the application answers, given and changing a state. -/
structure Host (σ : Type) where
  apply : Native → List Value → Behaviour (List Value)
  answer : (request : HostRequest) → σ → request.Reply × σ

/-- How a machine comes to its end. -/
inductive Ending where
  /-- With values, or with an error. -/
  | ended (result : Except Value (List Value))
  /-- By stopping on the way. -/
  | halted (how : Halt)

/-- What waits for a behaviour to end. -/
inductive Frame where
  /-- A call, with the place it stands at. -/
  | call (site : Option Site) (next : List Value → Behaviour Signal)
  /-- A piece of program. -/
  | code (next : Signal → Behaviour Signal)
  /-- Something done under protection. -/
  | attempt (next : Except Value (List Value) → Behaviour Signal)
  /-- Resuming a coroutine, with the one that was running before. -/
  | resume (thread : Nat) (previous : Option Nat)
      (next : Except Value (List Value) → Behaviour Signal)

namespace Frame

/-- Whether a frame is a call. -/
def isCall : Frame → Bool
  | call _ _ => true
  | _ => false

def isCode : Frame → Bool
  | code _ => true
  | _ => false

def isResume : Frame → Bool
  | resume _ _ _ => true
  | _ => false

/-- Whether a frame belongs to a library function that called back. -/
def isNested : Frame → Bool
  | call none _ => true
  | call (some _) _ => false
  | code _ => false
  | attempt _ => true
  | resume _ _ _ => true

end Frame

/-- A coroutine. -/
inductive Thread where
  | fresh (function : Value)
  | suspended (frames : List Frame) (next : List Value → Behaviour Signal)
  /-- Running, or waiting for one that it resumed. -/
  | active
  /-- At its end, or stopped with an error. -/
  | dead (error : Option Value)

/-- Everything a machine works on. -/
structure Config (σ : Type) where
  focus : Behaviour Signal
  frames : List Frame := []
  /-- The number of frames that are calls. -/
  depth : Nat := 0
  /-- The number of frames in which a library function called back. -/
  nesting : Nat := 0
  running : Option Nat := none
  heap : Heap
  threads : Std.TreeMap Nat Thread
  state : σ

namespace Config

variable {σ : Type}

/-- How many calls may wait for each other. -/
def depthLimit : Nat := 199990

/-- How many library functions that call back may wait for each other. -/
def nestingLimit : Nat := 196

/-- How many metamethods a call may pass through. -/
def callChainLimit : Nat := 200

/-- Put a frame on top. -/
def push (config : Config σ) (frame : Frame) : Config σ :=
  { config with
    frames := frame :: config.frames
    depth := config.depth + frame.isCall.toNat
    nesting := config.nesting + frame.isNested.toNat }

/-- Replace the frames. -/
def withFrames (config : Config σ) (frames : List Frame) : Config σ :=
  { config with
    frames
    depth := frames.countP Frame.isCall
    nesting := frames.countP Frame.isNested }

/-- Take the top frame off, and go on with a behaviour. -/
def pop (config : Config σ) (frame : Frame) (rest : List Frame) (focus : Behaviour Signal) :
    Config σ :=
  { config with
    focus
    frames := rest
    depth := config.depth - frame.isCall.toNat
    nesting := config.nesting - frame.isNested.toNat }

/-- Change what a coroutine is. -/
def setThread (config : Config σ) (id : Nat) (thread : Thread) : Config σ :=
  { config with threads := config.threads.insert id thread }

/-- The place that the function so many levels up was called from. -/
def callerIn : Nat → List Frame → Option Site
  | _, [] => none
  | _, .resume _ _ _ :: _ => none
  | 0, .call site _ :: _ => site
  | level + 1, .call _ _ :: rest => callerIn level rest
  | level, _ :: rest => callerIn level rest

/-- What calling a value does; what is no function may have a metamethod for it. -/
def applyThrough (host : Host σ) (heap : Heap) (site : Option Site) :
    Nat → Value → List Value → Behaviour Signal
  | 0, _, _ => complain none (Bytes.ofString "C stack overflow")
  | steps + 1, function, arguments =>
    match function with
    | .closure id =>
      match heap.closures.get? id with
      | some closure => closure.behaviour arguments
      | none => done (.result [])
    | .native which => Signal.result <$> host.apply which arguments
    | _ =>
      match heap.metamethod function "__call" with
      | .nil =>
        refuseType site "call" function ((site.map (·.subject)).getD [])
      | handler => applyThrough host heap site steps handler (function :: arguments)

/-- What calling a value does. -/
def apply (config : Config σ) (host : Host σ) (site : Option Site) (function : Value)
    (arguments : List Value) : Behaviour Signal :=
  applyThrough host config.heap site callChainLimit function arguments

/-- Begin something that waits in a frame, unless too much is waiting already. -/
def beginWith (config : Config σ) (site : Option Site) (frame : Frame)
    (focus : Behaviour Signal) : Config σ :=
  if depthLimit ≤ config.depth then
    { config with focus := complain site (Bytes.ofString "stack overflow") }
  else if frame.isNested && nestingLimit ≤ config.nesting then
    { config with focus := complain none (Bytes.ofString "C stack overflow") }
  else { config.push frame with focus }

/-- The innermost behaviour has ended. -/
def finish (config : Config σ) (signal : Signal) : Config σ :=
  match config.frames with
  | [] => config
  | frame :: rest =>
    match frame with
    | .call _ next => config.pop frame rest (next signal.values)
    | .code next => config.pop frame rest (next signal)
    | .attempt next => config.pop frame rest (next (.ok signal.values))
    | .resume thread previous next =>
      { (config.pop frame rest (next (.ok signal.values))).setThread thread (.dead none) with
        running := previous }

/-- The innermost behaviour has stopped with an error. -/
def abandon (config : Config σ) (error : Value) : Config σ :=
  match config.frames with
  | [] => config
  | frame :: rest =>
    match frame with
    | .call _ _ => config.pop frame rest config.focus
    | .code _ => config.pop frame rest config.focus
    | .attempt next => config.pop frame rest (next (.error error))
    | .resume thread previous next =>
      { (config.pop frame rest (next (.error error))).setThread thread (.dead (some error)) with
        running := previous }

/-- A reason why a coroutine cannot be resumed. -/
def refusal (reason : String) : Except Value (List Value) :=
  .error (.ofString reason)

/-- Resume a coroutine. -/
def resumeThread (config : Config σ) (host : Host σ) (thread : Nat) (arguments : List Value)
    (next : Except Value (List Value) → Behaviour Signal) : Config σ :=
  if nestingLimit ≤ config.nesting then
    { config with focus := next (refusal "C stack overflow") }
  else
    let waiting : Config σ :=
      { config.push (.resume thread config.running next) with running := some thread }
    match config.threads.get? thread with
    | some (.fresh function) =>
      { waiting.setThread thread .active with
        focus := config.apply host none function arguments }
    | some (.suspended frames goOn) =>
      { (waiting.withFrames (frames ++ waiting.frames)).setThread thread .active with
        focus := goOn arguments }
    | some .active =>
      { config with focus := next (refusal "cannot resume non-suspended coroutine") }
    | _ => { config with focus := next (refusal "cannot resume dead coroutine") }

/-- Hand values to whoever resumed the running coroutine, and suspend it. -/
def yieldValues (config : Config σ) (values : List Value)
    (next : List Value → Behaviour Signal) : Config σ :=
  let (inner, outer) := config.frames.span fun frame => !frame.isResume
  match outer with
  | .resume thread previous goOn :: rest =>
    if inner.any Frame.isNested then
      { config with
        focus := complain none (Bytes.ofString "attempt to yield across a C-call boundary") }
    else
      { (config.withFrames rest).setThread thread (.suspended inner next) with
        focus := goOn (.ok values)
        running := previous }
  | _ =>
    { config with
      focus := complain none (Bytes.ofString "attempt to yield from outside a coroutine") }

/-- The state of a coroutine. -/
def statusOf (config : Config σ) (thread : Nat) : ThreadStatus :=
  match config.threads.get? thread with
  | some (.fresh _) => .suspended
  | some (.suspended _ _) => .suspended
  | some .active => if config.running = some thread then .running else .normal
  | _ => .dead

/-- The error that a coroutine stopped with. -/
def deathOf (config : Config σ) (thread : Nat) : Option Value :=
  match config.threads.get? thread with
  | some (.dead error) => error
  | _ => none

/-- Give a coroutine up. -/
def closeThread (config : Config σ) (thread : Nat) (next : Option Value → Behaviour Signal) :
    Config σ :=
  { config.setThread thread (.dead none) with focus := next (config.deathOf thread) }

/-- Make a coroutine. -/
def spawnThread (config : Config σ) (function : Value) (next : Nat → Behaviour Signal) :
    Config σ :=
  let id := config.heap.fresh
  { config.setThread id (.fresh function) with
    focus := next id
    heap := { config.heap with fresh := id + 1 } }

/-- Call a function in the place of the running one. -/
def replaceBy (config : Config σ) (host : Host σ) (site : Site) (function : Value)
    (arguments : List Value) : Config σ :=
  let focus := config.apply host (some site) function arguments
  match function with
  | .closure _ =>
    { config with focus, frames := config.frames.dropWhile Frame.isCode }
  | _ => config.beginWith (some site) (.call (some site) fun values => done (.result values)) focus

/-- Answer one request. -/
def step (host : Host σ) (config : Config σ) : Config σ :=
  match config.focus with
  | .done signal => config.finish signal
  | .raise error => config.abandon error
  | .fail failure =>
    let (heap, id) := config.heap.newFault failure
    { config with heap, focus := raise (.fault id) }
  | .halt _ => config
  | .read next => { config with focus := next config.heap }
  | .write change next => { config with focus := next (), heap := change config.heap }
  | .call site function arguments next =>
    config.beginWith site (.call site next) (config.apply host site function arguments)
  | .tailCall site function arguments => config.replaceBy host site function arguments
  | .attempt trial next =>
    config.beginWith none (.attempt next) (Signal.result <$> trial.behaviour)
  | .caller level next => { config with focus := next (callerIn level config.frames) }
  | .enter code scope next => { config.push (.code next) with focus := code.behaviour scope }
  | .jump code scope => { config with focus := code.behaviour scope }
  | .spawn function next => config.spawnThread function next
  | .resume thread arguments next => config.resumeThread host thread arguments next
  | .yield values next => config.yieldValues values next
  | .status thread next => { config with focus := next (config.statusOf thread) }
  | .close thread next => config.closeThread thread next
  | .running next => { config with focus := next config.running }
  | .host request next =>
    let (reply, state) := host.answer request config.state
    { config with focus := next reply, state }

/-- How a final configuration has ended. -/
def ending? (config : Config σ) : Option Ending :=
  match config.focus, config.frames with
  | .halt how, _ => some (.halted how)
  | .done signal, [] => some (.ended (.ok signal.values))
  | .raise error, [] => some (.ended (.error error))
  | _, _ => none

/-- Take at most so many steps, as far as they lead. -/
def run (host : Host σ) : Nat → Config σ → Config σ
  | 0, config => config
  | steps + 1, config =>
    match config.ending? with
    | some _ => config
    | none => run host steps (config.step host)

end Config

end MediaImport.Script
