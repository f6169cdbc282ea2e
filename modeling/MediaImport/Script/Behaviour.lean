import MediaImport.Media.Object
import MediaImport.Script.Heap

/-!
# Behaviours

What a script or a library function does, as a tree of requests to whoever runs
it.  A behaviour is done, stops with an error, or asks for something and says
how it goes on with the answer: to look at the heap or change it, to call a
value, to run a piece of program, to switch between coroutines, to involve the
importing application, or to bring everything to a stop.

Calls and pieces of program are requests and not recursion.  So evaluating an
expression is recursion on the expression alone, and the only place where a
program may run for ever is the loop in `MediaImport.Script.Machine` that
answers the requests.
-/

namespace MediaImport.Script

/-- A place in a script from which something is called, with the words by which
an error message refers to what is called there. -/
structure Site where
  chunk : Bytes
  line : Nat
  subject : Bytes := []

/-- How a piece of program ended. -/
inductive Signal where
  /-- At its end, with the variables in scope there. -/
  | normal (scope : Scope)
  /-- By leaving the innermost loop. -/
  | leave
  /-- By jumping to a label outside. -/
  | goto (label : String)
  /-- By returning from the function. -/
  | result (values : List Value)

/-- What a function gives back when its body ended in some way. -/
def Signal.values : Signal → List Value
  | .result values => values
  | _ => []

/-- A piece of program that may be run again. -/
inductive Code where
  /-- The rest of a block that has labels, with the number of variables around
  the block. -/
  | statements (block : Block) (outer : Nat) (rest : Block)
  | whileLoop (condition : Expr) (body : Block)
  | repeatLoop (body : Block) (condition : Expr)
  /-- A loop over integers: the next one, and how many follow it. -/
  | countWords (name : String) (value step : Int64) (remaining : Nat) (body : Block)
  | countDoubles (name : String) (value limit step : Double) (body : Block)
  | eachLoop (names : List String) (iterator state control : Value) (site : Site)
      (body : Block)

/-- Something that is done under protection, so that an error in it is an answer. -/
inductive Trial where
  | call (function : Value) (arguments : List Value)
  | index (subject key : Value)
  | store (subject key value : Value)
  | describe (value : Value)

/-- What surrounds the running script. -/
structure Surroundings where
  purpose : Purpose
  conversions : Conversions
  /-- The object that the script was started for. -/
  processed : Option Media.Object

/-- A request to the importing application. -/
inductive HostRequest where
  | surroundings
  /-- Keep a line that shows some values. -/
  | log (values : List Value)
  /-- Put an object into the catalogue. -/
  | submit (object : Media.Object) (chain : String) (upnpClass : Option String)

/-- What the application answers. -/
def HostRequest.Reply : HostRequest → Type
  | .surroundings => Surroundings
  | .log _ => Unit
  | .submit _ _ _ => Except Failure Int32

/-- The state of a coroutine as scripts see it. -/
inductive ThreadStatus where
  | suspended
  | running
  | normal
  | dead
  deriving DecidableEq

def ThreadStatus.name : ThreadStatus → String
  | suspended => "suspended"
  | running => "running"
  | normal => "normal"
  | dead => "dead"

/-- What a script or a library function does. -/
inductive Behaviour (α : Type) : Type where
  | done (value : α)
  /-- Stop with an error. -/
  | raise (error : Value)
  /-- Stop with a failure of the application. -/
  | fail (failure : Failure)
  /-- Bring everything to a stop. -/
  | halt (how : Halt)
  | read (next : Heap → Behaviour α)
  | write (change : Heap → Heap) (next : Unit → Behaviour α)
  /-- Call a value, from a place in a script or from a library function. -/
  | call (site : Option Site) (function : Value) (arguments : List Value)
      (next : List Value → Behaviour α)
  /-- End the running function with what another one returns. -/
  | tailCall (site : Site) (function : Value) (arguments : List Value)
  | attempt (trial : Trial) (next : Except Value (List Value) → Behaviour α)
  /-- The place from which the function so many levels up was called; none if it
  was not called from a script. -/
  | caller (level : Nat) (next : Option Site → Behaviour α)
  /-- Run a piece of program to its end. -/
  | enter (code : Code) (scope : Scope) (next : Signal → Behaviour α)
  /-- Go on with another piece in the place of the one that was entered last. -/
  | jump (code : Code) (scope : Scope)
  | spawn (function : Value) (next : Nat → Behaviour α)
  | resume (thread : Nat) (arguments : List Value)
      (next : Except Value (List Value) → Behaviour α)
  | yield (values : List Value) (next : List Value → Behaviour α)
  | status (thread : Nat) (next : ThreadStatus → Behaviour α)
  /-- Give a coroutine up that is not running; the answer is the error it stopped with. -/
  | close (thread : Nat) (next : Option Value → Behaviour α)
  /-- The running coroutine, if any. -/
  | running (next : Option Nat → Behaviour α)
  | host (request : HostRequest) (next : request.Reply → Behaviour α)

namespace Behaviour

/-- Go on with another behaviour. -/
def bind {α β : Type} (first : Behaviour α) (rest : α → Behaviour β) : Behaviour β :=
  match first with
  | done value => rest value
  | raise error => raise error
  | fail failure => fail failure
  | halt how => halt how
  | read next => read fun heap => (next heap).bind rest
  | write change next => write change fun answer => (next answer).bind rest
  | call site function arguments next =>
    call site function arguments fun answer => (next answer).bind rest
  | tailCall site function arguments => tailCall site function arguments
  | attempt trial next => attempt trial fun answer => (next answer).bind rest
  | caller level next => caller level fun answer => (next answer).bind rest
  | enter code scope next => enter code scope fun answer => (next answer).bind rest
  | jump code scope => jump code scope
  | spawn function next => spawn function fun answer => (next answer).bind rest
  | resume thread arguments next =>
    resume thread arguments fun answer => (next answer).bind rest
  | yield values next => yield values fun answer => (next answer).bind rest
  | status thread next => status thread fun answer => (next answer).bind rest
  | close thread next => close thread fun answer => (next answer).bind rest
  | running next => running fun answer => (next answer).bind rest
  | host request next => host request fun answer => (next answer).bind rest

instance : Monad Behaviour where
  pure := done
  bind := bind

/-! ## Requests as behaviours -/

/-- The heap as it is. -/
def heap : Behaviour Heap :=
  read done

/-- Something that the heap determines. -/
def look {α : Type} (view : Heap → α) : Behaviour α :=
  read fun heap => done (view heap)

/-- Make something new on the heap; its number is the first that is not in use. -/
def make (create : Heap → Heap × Nat) : Behaviour Nat :=
  read fun heap =>
    let id := heap.fresh
    write (fun heap => (create heap).1) fun _ => done id

def newTable (table : Table) : Behaviour Value :=
  Value.table <$> make fun heap => heap.newTable table

def newCell (value : Value) : Behaviour Nat :=
  make fun heap => heap.newCell value

def newClosure (closure : Closure) : Behaviour Value :=
  Value.closure <$> make fun heap => heap.newClosure closure

def setCell (id : Nat) (value : Value) : Behaviour Unit :=
  write (fun heap => { heap with cells := heap.cells.insert id value }) done

def rawSet (table : Nat) (key value : Value) : Behaviour Unit :=
  write (fun heap => heap.rawSet table key value) done

/-- Call a value from a library function. -/
def callValue (function : Value) (arguments : List Value) : Behaviour (List Value) :=
  call none function arguments done

/-- Ask the application. -/
def ask (request : HostRequest) : Behaviour request.Reply :=
  host request done

/-! ## Errors -/

/-- A place as an error message names it; nothing for no place. -/
def placeText : Option Site → Bytes
  | some site => site.chunk ++ Bytes.ofString (":" ++ toString site.line ++ ": ")
  | none => []

/-- Stop with an error message of the interpreter, at a place if there is one. -/
def complain {α : Type} (site : Option Site) (message : Bytes) : Behaviour α :=
  raise (.str (placeText site ++ message))

/-- Stop with an error message of a library function, which names the place from
which the function was called. -/
def refuse {α : Type} (message : Bytes) : Behaviour α :=
  caller 0 fun site => complain site message

/-- The name by which a function was called, from the words that describe it. -/
def calledName (subject : Bytes) : Option Bytes :=
  match subject.dropWhile (· != 0x27) with
  | _ :: rest => some (rest.takeWhile (· != 0x27))
  | [] => none

/-- Stop with the message about an argument of a library function.  In a method
call the object is not counted among the arguments. -/
def refuseArgument {α : Type} (index : Nat) (function reason : String) : Behaviour α :=
  caller 0 fun site =>
    let subject := (site.map (·.subject)).getD []
    let name := (calledName subject).getD (Bytes.ofString function)
    let isMethod := (Bytes.ofString "method ").isPrefixOf subject
    let index := if isMethod then index - 1 else index
    complain site <|
      if index = 0 then
        Bytes.ofString "calling '" ++ name ++ Bytes.ofString "' on bad self (" ++
          Bytes.ofString reason ++ Bytes.ofString ")"
      else
        Bytes.ofString ("bad argument #" ++ toString index ++ " to '") ++ name ++
          Bytes.ofString ("' (" ++ reason ++ ")")

end Behaviour

end MediaImport.Script
