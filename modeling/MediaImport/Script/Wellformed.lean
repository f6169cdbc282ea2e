import MediaImport.Script.Parser

/-!
# Static rules of programs

What a program has to satisfy beyond its grammar: constants are not assigned,
extra arguments are used only where a function takes them, a loop is left only
from inside one, and every jump has a label to go to.

A label can be reached from its own block and the blocks inside it, except by
jumping forward over the declaration of a local variable that would be in scope
at the label.  At the end of a block no variable is in scope any more, unless
the condition of a `repeat` loop still follows.
-/

namespace MediaImport.Script.Wellformed

/-- What can be referred to at some place in a program. -/
structure Context where
  /-- The local variables in scope, innermost first; `true` marks constants. -/
  locals : List (String × Bool)
  /-- Whether the function takes extra arguments. -/
  hasVarargs : Bool
  /-- Whether the place is inside a loop of the function. -/
  inLoop : Bool
  /-- The labels that a jump can reach. -/
  reachable : List String
  /-- The labels already declared in this block and around it. -/
  declared : List String

namespace Context

/-- The beginning of a function inside some context. -/
def function (context : Context) (parameters : List String) (hasVarargs : Bool) : Context where
  locals := parameters.reverse.map (·, false) ++ context.locals
  hasVarargs := hasVarargs
  inLoop := false
  reachable := []
  declared := []

/-- The body of a loop with control variables. -/
def loop (context : Context) (names : List String) : Context :=
  { context with
    locals := names.reverse.map (·, false) ++ context.locals
    inLoop := true }

def declare (context : Context) (names : List (String × Bool)) : Context :=
  { context with locals := names.reverse ++ context.locals }

/-- Whether a name can be assigned. -/
def isAssignable (context : Context) (name : String) : Bool :=
  match context.locals.find? fun entry => entry.1 == name with
  | some (_, constant) => !constant
  | none => true

end Context

/-- The labels that stand at the end of a block. -/
def finalLabels (block : Block) : List String :=
  (block.reverse.takeWhile fun statement => statement.label?.isSome).filterMap Stmt.label?

/-- The labels that a jump can reach forward, over the given statements. -/
def forwardLabels (conditionFollows : Bool) : Block → List String
  | [] => []
  | statement :: rest =>
    match statement.label? with
    | some label => label :: forwardLabels conditionFollows rest
    | none =>
      if statement.declared = 0 then forwardLabels conditionFollows rest
      else if conditionFollows then []
      else finalLabels rest

/-- The variables that the statements of a block add to it. -/
def declarations : Block → List (String × Bool)
  | [] => []
  | .declare names _ _ :: rest => names ++ declarations rest
  | .declareFunction name _ :: rest => (name, false) :: declarations rest
  | _ :: rest => declarations rest

/-- The context behind a statement. -/
def after (context : Context) : Stmt → Context
  | .declare names _ _ => context.declare names
  | .declareFunction name _ => context.declare [(name, false)]
  | .label name =>
    { context with
      reachable := name :: context.reachable
      declared := name :: context.declared }
  | _ => context

mutual

def expression (context : Context) : Expr → Bool
  | .varargs => context.hasVarargs
  | .index table key _ => expression context table && expression context key
  | .call function arguments _ =>
    expression context function && expressions context arguments
  | .method object _ arguments _ =>
    expression context object && expressions context arguments
  | .function body => function context body
  | .unary _ operand _ => expression context operand
  | .binary _ left right _ => expression context left && expression context right
  | .table entries _ => fields context entries
  | .single inner => expression context inner
  | _ => true

def expressions (context : Context) : List Expr → Bool
  | [] => true
  | first :: rest => expression context first && expressions context rest

def field (context : Context) : Field → Bool
  | .item value => expression context value
  | .entry key value => expression context key && expression context value

def fields (context : Context) : List Field → Bool
  | [] => true
  | first :: rest => field context first && fields context rest

def function (context : Context) : Function → Bool
  | .mk parameters hasVarargs body =>
    statements (context.function parameters hasVarargs) false body

/-- A single statement; the variables it declares are not in scope in it. -/
def statement (context : Context) : Stmt → Bool
  | .declare _ values _ => expressions context values
  | .assign targets values _ =>
    expressions context targets && expressions context values &&
      targets.all fun target =>
        match target with
        | .name name => context.isAssignable name
        | _ => true
  | .call call => expression context call
  | .block body => statements context false body
  | .whileLoop condition body =>
    expression context condition && statements (context.loop []) false body
  | .repeatLoop body condition =>
    statements (context.loop []) true body &&
      expression (context.declare (declarations body)) condition
  | .branch condition whenTrue whenFalse =>
    expression context condition && statements context false whenTrue &&
      statements context false whenFalse
  | .countLoop name first last step body _ =>
    expression context first && expression context last &&
      (match step with
        | some step => expression context step
        | none => true) &&
      statements (context.loop [name]) false body
  | .eachLoop names values body _ =>
    expressions context values && statements (context.loop names) false body
  | .declareFunction name body => function (context.declare [(name, false)]) body
  | .result values _ => expressions context values
  | .leave => context.inLoop
  | .goto label => label ∈ context.reachable
  | .label name => name ∉ context.declared

/-- The statements of a block from some place on.  The flag says whether the
condition of a loop follows the block. -/
def statements (context : Context) (conditionFollows : Bool) : List Stmt → Bool
  | [] => true
  | first :: rest =>
    let reachable := forwardLabels conditionFollows rest ++ context.reachable
    statement { context with reachable } first &&
      statements (after context first) conditionFollows rest

end

/-- The static rules for a whole program, which takes extra arguments. -/
def program (body : Block) : Bool :=
  statements ⟨[], true, false, [], []⟩ false body

end MediaImport.Script.Wellformed

namespace MediaImport.Script

/-- The program that the bytes of a script spell, if it obeys all rules. -/
def compile? (bytes : Bytes) : Option Function := do
  let body ← parse? bytes
  if Wellformed.program body then return .mk [] true body else none

end MediaImport.Script
