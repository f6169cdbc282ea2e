import MediaImport.Script.Operation

/-!
# What programs do

Expressions and statements as behaviours.  Every expression has a list of
values; where one value is wanted the first one counts, and a missing one is nil.

Calls, loops and blocks with labels become requests, so that everything here is
recursion on the program text.  `Code.behaviour` says what happens when such a
piece of program is run: once through the loop, and then a jump to run again.
-/

namespace MediaImport.Script

open Behaviour

namespace Scope

/-- A place in the running script. -/
def site (scope : Scope) (line : Nat) (subject : Bytes := []) : Site :=
  ⟨scope.chunk, line, subject⟩

/-- Whether a name is a local variable of the running function itself. -/
def isOwn (scope : Scope) (name : String) : Bool :=
  (scope.find? name).any fun binding => binding.level == scope.level

/-- A kind of thing with its name in quotes. -/
def quoted (kind : String) (name : Bytes) : Bytes :=
  Bytes.ofString (kind ++ " '") ++ name ++ [0x27]

/-- The words by which error messages refer to an expression. -/
def subject (scope : Scope) : Expr → Bytes
  | .name name =>
    match scope.find? name with
    | some binding =>
      quoted (if binding.level = scope.level then "local" else "upvalue") (Bytes.ofString name)
    | none => quoted "global" (Bytes.ofString name)
  | .index _ (.text key) _ => quoted "field" key
  | .index _ (.int _) _ => quoted "field" (Bytes.ofString "integer index")
  | .index _ _ _ => quoted "field" [0x3f]
  | .text value => quoted "constant" value
  | .single inner => subject scope inner
  | _ => []

end Scope

/-- The name of the variable that holds the global variables, if a script
declares it. -/
def environmentName : String := "_ENV"

/-- The table of global variables in a scope. -/
def environment (scope : Scope) : Behaviour Value :=
  match scope.find? environmentName with
  | some binding => look fun heap => heap.cell binding.cell
  | none => look fun heap => .table heap.globals

/-- The value of a name. -/
def readName (scope : Scope) (name : String) (line : Nat) : Behaviour Value :=
  match scope.find? name with
  | some binding => look fun heap => heap.cell binding.cell
  | none => do
    let globals ← environment scope
    index (some (scope.site line)) globals (.ofString name)
      (Scope.quoted "upvalue" (Bytes.ofString environmentName))

/-- Values with nil added or the rest cut off, to a given number. -/
def adjust : Nat → List Value → List Value
  | 0, _ => []
  | count + 1, values => Value.first values :: adjust count (values.drop 1)

/-- Declare local variables with their values. -/
def declareAll (scope : Scope) : List String → List Value → Behaviour Scope
  | [], _ => done scope
  | name :: rest, values => do
    let cell ← newCell (Value.first values)
    declareAll (scope.bind name cell) rest (values.drop 1)

/-- Store the items of a table constructor, counting from an index. -/
def storeItems (table : Nat) : Int64 → List Value → Behaviour Unit
  | _, [] => done ()
  | key, value :: rest => do
    rawSet table (.int key) value
    storeItems table (key + 1) rest

/-- Apply an operator to two values. -/
def applyBinary (operands : Operands) (operator : BinaryOperator) (left right : Value) :
    Behaviour Value :=
  match operator with
  | .concatenate => concatenate operands left right
  | .equal => Value.bool <$> equalValues operands.site left right
  | .unequal => (fun same => .bool (!same)) <$> equalValues operands.site left right
  | .less => Value.bool <$> compareValues operands.site false left right
  | .lessEqual => Value.bool <$> compareValues operands.site true left right
  | .greater => Value.bool <$> compareValues operands.site false right left
  | .greaterEqual => Value.bool <$> compareValues operands.site true right left
  | operator =>
    if operator.isBitwise then bitOperation operands operator left right
    else arithmetic operands operator left right

/-- Apply an operator to one value. -/
def applyUnary (operands : Operands) (operator : UnaryOperator) (value : Value) :
    Behaviour Value :=
  match operator with
  | .negate => negate operands value
  | .not => done (.bool !value.isTrue)
  | .length => lengthOf operands value
  | .bitNot => bitNot operands value

/-- Whether an operator looks at a local variable on its left only after the
operand on its right has been evaluated. -/
def readsLeftLast (scope : Scope) (operator : BinaryOperator) (left : Expr) : Bool :=
  match operator, left with
  | .concatenate, _ => false
  | _, .name name => scope.isOwn name
  | _, _ => false

mutual

/-- The values of an expression. -/
def evaluate (scope : Scope) : Expr → Behaviour (List Value)
  | .nil => done [.nil]
  | .bool value => done [.bool value]
  | .int value => done [.int value]
  | .float value => done [.float value]
  | .text value => done [.str value]
  | .varargs => done scope.varargs
  | .name name => do return [← readName scope name 0]
  | .index table key line => do
    let tableValue ← Value.first <$> evaluate scope table
    let keyValue ← Value.first <$> evaluate scope key
    return [← index (some (scope.site line)) tableValue keyValue (scope.subject table)]
  | .call function arguments line => do
    let functionValue ← Value.first <$> evaluate scope function
    let values ← evaluateAll scope arguments
    call (some (scope.site line (scope.subject function))) functionValue values done
  | .method object name arguments line => do
    let objectValue ← Value.first <$> evaluate scope object
    let key := Bytes.ofString name
    let functionValue ←
      index (some (scope.site line)) objectValue (.str key) (scope.subject object)
    let values ← evaluateAll scope arguments
    call (some (scope.site line (Scope.quoted "method" key))) functionValue
      (objectValue :: values) done
  | .function body => do
    return [← newClosure ⟨body, scope⟩]
  | .unary operator operand line => do
    let value ← Value.first <$> evaluate scope operand
    return [← applyUnary ⟨some (scope.site line), scope.subject operand, []⟩ operator value]
  | .binary operator left right line => do
    let operands : Operands :=
      ⟨some (scope.site line), scope.subject left, scope.subject right⟩
    match operator with
    | .and =>
      let value ← Value.first <$> evaluate scope left
      if value.isTrue then return [Value.first (← evaluate scope right)] else return [value]
    | .or =>
      let value ← Value.first <$> evaluate scope left
      if value.isTrue then return [value] else return [Value.first (← evaluate scope right)]
    | operator =>
      if readsLeftLast scope operator left then
        let rightValue ← Value.first <$> evaluate scope right
        let leftValue ← Value.first <$> evaluate scope left
        return [← applyBinary operands operator leftValue rightValue]
      else
        let leftValue ← Value.first <$> evaluate scope left
        let rightValue ← Value.first <$> evaluate scope right
        return [← applyBinary operands operator leftValue rightValue]
  | .table fields line => do
    let id ← make fun heap => heap.newTable {}
    let items ← evaluateFields scope (scope.site line) id fields
    storeItems id 1 items
    return [.table id]
  | .single inner => do return [Value.first (← evaluate scope inner)]

/-- The values of a list of expressions: one of each, and all of the last. -/
def evaluateAll (scope : Scope) : List Expr → Behaviour (List Value)
  | [] => done []
  | [last] => evaluate scope last
  | first :: rest => do
    let value ← Value.first <$> evaluate scope first
    let values ← evaluateAll scope rest
    return value :: values

/-- Store the entries of a table constructor and collect its items. -/
def evaluateFields (scope : Scope) (site : Site) (table : Nat) :
    List Field → Behaviour (List Value)
  | [] => done []
  | .item value :: rest => do
    let values ← evaluate scope value
    match rest with
    | [] => return values
    | rest => return Value.first values :: (← evaluateFields scope site table rest)
  | .entry key value :: rest => do
    let keyValue ← Value.first <$> evaluate scope key
    let stored ← Value.first <$> evaluate scope value
    match badKey? keyValue with
    | some reason => complain (some site) (Bytes.ofString reason)
    | none => rawSet table keyValue stored
    evaluateFields scope site table rest

end

/-- The first value of an expression. -/
def evaluateOne (scope : Scope) (expression : Expr) : Behaviour Value :=
  Value.first <$> evaluate scope expression

/-! ## Assignment -/

/-- Something that a value can be stored in. -/
inductive Place where
  | cell (id : Nat)
  | entry (table key : Value) (subject : Bytes)

/-- The place that an expression on the left of an assignment refers to. -/
def place (scope : Scope) : Expr → Behaviour Place
  | .name name =>
    match scope.find? name with
    | some binding => done (.cell binding.cell)
    | none => do return .entry (← environment scope) (.ofString name) []
  | .index table key _ => do
    let tableValue ← evaluateOne scope table
    let keyValue ← evaluateOne scope key
    return .entry tableValue keyValue (scope.subject table)
  | _ => done (.entry .nil .nil [])

def places (scope : Scope) : List Expr → Behaviour (List Place)
  | [] => done []
  | first :: rest => do
    let place ← place scope first
    return place :: (← places scope rest)

/-- Store a value in a place. -/
def storeAt (site : Site) (place : Place) (value : Value) : Behaviour Unit :=
  match place with
  | .cell id => setCell id value
  | .entry table key subject => store (some site) table key value subject

/-- Store values in places, the last one first. -/
def storeAll (site : Site) : List Place → List Value → Behaviour Unit
  | place :: places, value :: values => do
    storeAll site places values
    storeAt site place value
  | _, _ => done ()

/-! ## Loops over numbers -/

/-- The last integer that a loop may reach, or `none` if it does not run at all. -/
def wordLimit? (ascending : Bool) (limit : Numeral.Number) : Option Int :=
  match limit with
  | .int value => some value.toInt
  | .float value =>
    if value.isNaN then none
    else
      match if ascending then value.floor? else value.ceiling? with
      | some whole =>
        if whole < -9223372036854775808 then
          if ascending then none else some (-9223372036854775808)
        else if 9223372036854775807 < whole then
          if ascending then some 9223372036854775807 else none
        else some whole
      | none =>
        if value.isNegative then if ascending then none else some (-9223372036854775808)
        else if ascending then some 9223372036854775807 else none

/-- How often a loop over integers runs after its first time, or `none` if it
does not run at all. -/
def remainingCount? (first limit step : Int) : Option Nat :=
  if 0 < step then
    if limit < first then none else some ((limit - first) / step).toNat
  else
    if first < limit then none else some ((first - limit) / -step).toNat

/-- Stop because a bound of a loop is not a number. -/
def refuseBound {α : Type} (site : Site) (what : String) (value : Value) : Behaviour α := do
  let type ← look fun heap => value.typeNameIn heap
  complain (some site) <|
    Bytes.ofString ("bad 'for' " ++ what ++ " (number expected, got ") ++ type ++
      Bytes.ofString ")"

/-- The loop over numbers with the given bounds, or `none` if it does not run. -/
def countLoop (site : Site) (name : String) (body : Block) (first last step : Value) :
    Behaviour (Option Code) := do
  match first, step with
  | .int firstWord, .int stepWord =>
    if stepWord = 0 then complain (some site) (Bytes.ofString "'for' step is zero")
    else
      match last.asNumber? with
      | none => refuseBound site "limit" last
      | some limit =>
        return (wordLimit? (0 < stepWord) limit).bind fun limit =>
          (remainingCount? firstWord.toInt limit stepWord.toInt).map fun remaining =>
            .countWords name firstWord stepWord remaining body
  | _, _ =>
    match last.asNumber?, step.asNumber?, first.asNumber? with
    | none, _, _ => refuseBound site "limit" last
    | _, none, _ => refuseBound site "step" step
    | _, _, none => refuseBound site "initial value" first
    | some last, some step, some first =>
      let limit := Value.toDouble last
      let step := Value.toDouble step
      let first := Value.toDouble first
      let zero := Double.ofInt 0
      if step.sameNumber zero then complain (some site) (Bytes.ofString "'for' step is zero")
      else
        let beyond := if zero.lt step then limit.lt first else first.lt limit
        return if beyond then none else some (.countDoubles name first limit step body)

/-! ## Statements -/

/-- Run a block whose labels, if it has any, are in reach of its own jumps. -/
def runLabelled (scope : Scope) (body : Block) : Behaviour Signal :=
  enter (.statements body scope.bindings.length body) scope done

/-- A signal from inside a block, as its surroundings see it. -/
def Signal.outside (scope : Scope) : Signal → Signal
  | .normal _ => .normal scope
  | signal => signal

/-- The end of the running function by the values of a list of expressions; a
single call takes the place of the function. -/
def runResult (scope : Scope) : List Expr → Behaviour Signal
  | [.call function arguments line] => do
    let functionValue ← evaluateOne scope function
    let values ← evaluateAll scope arguments
    tailCall (scope.site line (scope.subject function)) functionValue values
  | [.method object name arguments line] => do
    let objectValue ← evaluateOne scope object
    let key := Bytes.ofString name
    let functionValue ←
      index (some (scope.site line)) objectValue (.str key) (scope.subject object)
    let values ← evaluateAll scope arguments
    tailCall (scope.site line (Scope.quoted "method" key)) functionValue
      (objectValue :: values)
  | values => Signal.result <$> evaluateAll scope values

mutual

/-- Run a statement. -/
def runStatement (scope : Scope) : Stmt → Behaviour Signal
  | .declare names values _ => do
    let values ← evaluateAll scope values
    .normal <$> declareAll scope (names.map (·.1)) values
  | .assign targets values line => do
    let places ← places scope targets
    let values ← evaluateAll scope values
    storeAll (scope.site line) places (adjust places.length values)
    return .normal scope
  | .call invocation => do
    let _ ← evaluate scope invocation
    return .normal scope
  | .block body =>
    Signal.outside scope <$>
      if hasLabels body then runLabelled scope body else runStatements scope body
  | .whileLoop condition body => enter (.whileLoop condition body) scope done
  | .repeatLoop body condition => enter (.repeatLoop body condition) scope done
  | .branch condition whenTrue whenFalse => do
    let value ← evaluateOne scope condition
    Signal.outside scope <$>
      if value.isTrue then
        if hasLabels whenTrue then runLabelled scope whenTrue
        else runStatements scope whenTrue
      else
        if hasLabels whenFalse then runLabelled scope whenFalse
        else runStatements scope whenFalse
  | .countLoop name first last step body line => do
    let first ← evaluateOne scope first
    let last ← evaluateOne scope last
    let step ←
      match step with
      | some step => evaluateOne scope step
      | none => done (.int 1)
    match ← countLoop (scope.site line) name body first last step with
    | some code => enter code scope done
    | none => return .normal scope
  | .eachLoop names values body line => do
    let values ← evaluateAll scope values
    let site := scope.site line (Scope.quoted "for iterator" (Bytes.ofString "for iterator"))
    enter
      (.eachLoop names (Value.first values) (Value.first (values.drop 1))
        (Value.first (values.drop 2)) site body)
      scope done
  | .declareFunction name body => do
    let cell ← newCell .nil
    let inner := scope.bind name cell
    setCell cell (← newClosure ⟨body, inner⟩)
    return .normal inner
  | .result values _ => runResult scope values
  | .leave => done .leave
  | .goto label => done (.goto label)
  | .label _ => done (.normal scope)

/-- Run statements in order, as far as they end normally. -/
def runStatements (scope : Scope) : List Stmt → Behaviour Signal
  | [] => done (.normal scope)
  | first :: rest => do
    match ← runStatement scope first with
    | .normal scope => runStatements scope rest
    | signal => return signal

end

/-- Run a block. -/
def runBlock (scope : Scope) (body : Block) : Behaviour Signal :=
  if hasLabels body then runLabelled scope body else runStatements scope body

/-- Run the rest of a block with labels.  A jump to one of them goes on there,
with the variables that were declared before the label. -/
def runRest (block : Block) (outer : Nat) (scope : Scope) : List Stmt → Behaviour Signal
  | [] => done (.normal scope)
  | first :: rest => do
    match ← runStatement scope first with
    | .normal scope => runRest block outer scope rest
    | .goto label =>
      match findLabel? label block with
      | some (declared, target) =>
        jump (.statements block outer target) (scope.truncate (outer + declared))
      | none => return .goto label
    | signal => return signal

/-- After the body of a loop: go on with the loop, or end it. -/
def afterBody (scope : Scope) (again : Behaviour Signal) : Signal → Behaviour Signal
  | .normal _ => again
  | .leave => done (.normal scope)
  | signal => done signal

/-- What a piece of program does when it is run. -/
def Code.behaviour (scope : Scope) : Code → Behaviour Signal
  | .statements block outer rest => runRest block outer scope rest
  | .whileLoop condition body => do
    let value ← evaluateOne scope condition
    if value.isTrue then
      afterBody scope (jump (.whileLoop condition body) scope) (← runBlock scope body)
    else return .normal scope
  | .repeatLoop body condition => do
    match ← runBlock scope body with
    | .normal inner =>
      let value ← evaluateOne inner condition
      if value.isTrue then return .normal scope
      else jump (.repeatLoop body condition) scope
    | signal => afterBody scope (done signal) signal
  | .countWords name value step remaining body => do
    let cell ← newCell (.int value)
    let again :=
      if remaining = 0 then done (.normal scope)
      else jump (.countWords name (value + step) step (remaining - 1) body) scope
    afterBody scope again (← runBlock (scope.bind name cell) body)
  | .countDoubles name value limit step body => do
    let cell ← newCell (.float value)
    let next := value.add step
    let isLast := if (Double.ofInt 0).lt step then limit.lt next else next.lt limit
    let again :=
      if isLast || next.isNaN then done (.normal scope)
      else jump (.countDoubles name next limit step body) scope
    afterBody scope again (← runBlock (scope.bind name cell) body)
  | .eachLoop names iterator state control site body => do
    let values ← call (some site) iterator [state, control] done
    match Value.first values with
    | .nil => return .normal scope
    | control =>
      let inner ← declareAll scope names values
      afterBody scope (jump (.eachLoop names iterator state control site body) scope)
        (← runBlock inner body)

/-- What a function of a script does with its arguments. -/
def Closure.behaviour (closure : Closure) (arguments : List Value) : Behaviour Signal := do
  let parameters := closure.function.parameters
  let scope : Scope :=
    { closure.scope with
      varargs :=
        if closure.function.hasVarargs then arguments.drop parameters.length else []
      level := closure.scope.level + 1 }
  let inner ← declareAll scope parameters (adjust parameters.length arguments)
  runBlock inner closure.function.body

end MediaImport.Script
