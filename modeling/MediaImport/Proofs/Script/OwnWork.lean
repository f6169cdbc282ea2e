import MediaImport.Script.Interpreter

/-!
# What behaviours ask of the application

A behaviour may ask the application for something at any point, and go on with the answer.
`Behaviour.AsksOnly` says of a behaviour that all it ever asks for is allowed, whatever the answers
to its requests are.  Sequences of such behaviours are such behaviours.

Operations on values and programs ask for nothing at all: what a program wants of the application
it gets by calling functions.
-/

namespace MediaImport.Script

variable {allowed : HostRequest → Prop} {α β : Type}

namespace Behaviour

/-- Whatever the answers are, a behaviour asks the application only for what is allowed. -/
@[grind =]
def AsksOnly (allowed : HostRequest → Prop) : Behaviour α → Prop
  | .done _ => True
  | .raise _ => True
  | .fail _ => True
  | .halt _ => True
  | .read next => ∀ heap, (next heap).AsksOnly allowed
  | .write _ next => (next ()).AsksOnly allowed
  | .call _ _ _ next => ∀ values, (next values).AsksOnly allowed
  | .tailCall _ _ _ => True
  | .attempt _ next => ∀ result, (next result).AsksOnly allowed
  | .caller _ next => ∀ site, (next site).AsksOnly allowed
  | .enter _ _ next => ∀ signal, (next signal).AsksOnly allowed
  | .jump _ _ => True
  | .spawn _ next => ∀ id, (next id).AsksOnly allowed
  | .resume _ _ next => ∀ result, (next result).AsksOnly allowed
  | .yield _ next => ∀ values, (next values).AsksOnly allowed
  | .status _ next => ∀ status, (next status).AsksOnly allowed
  | .close _ next => ∀ error, (next error).AsksOnly allowed
  | .running next => ∀ thread, (next thread).AsksOnly allowed
  | .host request next => allowed request ∧ ∀ reply, (next reply).AsksOnly allowed

theorem AsksOnly.bind {first : Behaviour α} (asks : first.AsksOnly allowed)
    {rest : α → Behaviour β} (goesOn : ∀ value, (rest value).AsksOnly allowed) :
    (first.bind rest).AsksOnly allowed := by
  induction first with
  | done value => exact goesOn value
  | raise | fail | halt | tailCall | jump => trivial
  | read next ih => exact fun heap => ih heap (asks heap)
  | write change next ih => exact ih () asks
  | call site function arguments next ih => exact fun values => ih values (asks values)
  | attempt trial next ih => exact fun result => ih result (asks result)
  | caller level next ih => exact fun site => ih site (asks site)
  | enter code scope next ih => exact fun signal => ih signal (asks signal)
  | spawn function next ih => exact fun id => ih id (asks id)
  | resume thread arguments next ih => exact fun result => ih result (asks result)
  | yield values next ih => exact fun values => ih values (asks values)
  | status thread next ih => exact fun status => ih status (asks status)
  | close thread next ih => exact fun error => ih error (asks error)
  | running next ih => exact fun thread => ih thread (asks thread)
  | host request next ih => exact ⟨asks.1, fun reply => ih reply (asks.2 reply)⟩

/-! ### Rules for what behaviours are built from -/

@[grind .]
theorem asksOnly_pure (value : α) : (pure value : Behaviour α).AsksOnly allowed :=
  trivial

@[grind ←]
theorem asksOnly_bind {first : Behaviour α} {rest : α → Behaviour β}
    (asks : first.AsksOnly allowed) (goesOn : ∀ value, (rest value).AsksOnly allowed) :
    (first >>= rest).AsksOnly allowed :=
  asks.bind goesOn

@[grind ←]
theorem asksOnly_map {behaviour : Behaviour α} (change : α → β)
    (asks : behaviour.AsksOnly allowed) : (change <$> behaviour).AsksOnly allowed :=
  asks.bind fun _ => trivial

@[grind .]
theorem asksOnly_look (view : Heap → α) : (look view).AsksOnly allowed :=
  fun _ => trivial

@[grind .]
theorem asksOnly_make (create : Heap → Heap × Nat) : (make create).AsksOnly allowed :=
  fun _ => trivial

@[grind .]
theorem asksOnly_newTable (table : Table) : (newTable table).AsksOnly allowed :=
  asksOnly_map _ (asksOnly_make _)

@[grind .]
theorem asksOnly_newCell (value : Value) : (newCell value).AsksOnly allowed :=
  asksOnly_make _

@[grind .]
theorem asksOnly_newClosure (closure : Closure) : (newClosure closure).AsksOnly allowed :=
  asksOnly_map _ (asksOnly_make _)

@[grind .]
theorem asksOnly_setCell (id : Nat) (value : Value) : (setCell id value).AsksOnly allowed :=
  trivial

@[grind .]
theorem asksOnly_rawSet (table : Nat) (key value : Value) :
    (rawSet table key value).AsksOnly allowed :=
  trivial

theorem asksOnly_ask {request : HostRequest} (may : allowed request) :
    (ask request).AsksOnly allowed :=
  ⟨may, fun _ => trivial⟩

@[grind .]
theorem asksOnly_callValue (function : Value) (arguments : List Value) :
    (callValue function arguments).AsksOnly allowed :=
  fun _ => trivial

@[grind .]
theorem asksOnly_complain (site : Option Site) (message : Bytes) :
    (complain site message : Behaviour α).AsksOnly allowed :=
  trivial

@[grind .]
theorem asksOnly_refuse (message : Bytes) : (refuse message : Behaviour α).AsksOnly allowed :=
  fun _ => trivial

@[grind .]
theorem asksOnly_refuseArgument (index : Nat) (function reason : String) :
    (refuseArgument index function reason : Behaviour α).AsksOnly allowed :=
  fun _ => trivial

end Behaviour

open Behaviour

/-! ## Operations on values -/

@[grind .]
theorem asksOnly_refuseType (site : Option Site) (operation : String) (value : Value)
    (subject : Bytes) :
    (refuseType site operation value subject : Behaviour α).AsksOnly allowed := by
  unfold refuseType
  grind

theorem asksOnly_indexFrom (site : Option Site) (steps : Nat) (value key : Value)
    (subject : Bytes) : (indexFrom site steps value key subject).AsksOnly allowed := by
  induction steps generalizing value subject with
  | zero => trivial
  | succ steps ih =>
    unfold indexFrom
    grind

@[grind .]
theorem asksOnly_index (site : Option Site) (value key : Value) (subject : Bytes) :
    (index site value key subject).AsksOnly allowed :=
  asksOnly_indexFrom site chainLimit value key subject

theorem asksOnly_storeFrom (site : Option Site) (steps : Nat) (value key stored : Value)
    (subject : Bytes) : (storeFrom site steps value key stored subject).AsksOnly allowed := by
  induction steps generalizing value subject with
  | zero => trivial
  | succ steps ih =>
    unfold storeFrom
    grind

@[grind .]
theorem asksOnly_store (site : Option Site) (value key stored : Value) (subject : Bytes) :
    (store site value key stored subject).AsksOnly allowed :=
  asksOnly_storeFrom site chainLimit value key stored subject

@[grind .]
theorem asksOnly_binaryHandler (event : String) (left right : Value) :
    (binaryHandler event left right).AsksOnly allowed :=
  asksOnly_look _

@[grind .]
theorem asksOnly_refuseOperands (operands : Operands) (operation : String) (left right : Value) :
    (refuseOperands operands operation left right : Behaviour α).AsksOnly allowed := by
  unfold refuseOperands
  grind

@[grind .]
theorem asksOnly_bitOperation (operands : Operands) (operator : BinaryOperator)
    (left right : Value) : (bitOperation operands operator left right).AsksOnly allowed := by
  unfold bitOperation
  grind [refuseFraction]

@[grind .]
theorem asksOnly_arithmeticByHandler (operands : Operands) (event : String)
    (left right : Value) : (arithmeticByHandler operands event left right).AsksOnly allowed := by
  unfold arithmeticByHandler
  grind [refuseStrings]

@[grind .]
theorem asksOnly_arithmetic (operands : Operands) (operator : BinaryOperator)
    (left right : Value) : (arithmetic operands operator left right).AsksOnly allowed := by
  unfold arithmetic
  grind

@[grind .]
theorem asksOnly_concatenate (operands : Operands) (left right : Value) :
    (concatenate operands left right).AsksOnly allowed := by
  unfold concatenate
  grind

@[grind .]
theorem asksOnly_compareValues (site : Option Site) (orEqual : Bool) (left right : Value) :
    (compareValues site orEqual left right).AsksOnly allowed := by
  unfold compareValues
  grind [refuseComparison]

@[grind .]
theorem asksOnly_equalValues (site : Option Site) (left right : Value) :
    (equalValues site left right).AsksOnly allowed := by
  unfold equalValues
  grind

@[grind .]
theorem asksOnly_negate (operands : Operands) (value : Value) :
    (negate operands value).AsksOnly allowed := by
  unfold negate
  grind

@[grind .]
theorem asksOnly_bitNot (operands : Operands) (value : Value) :
    (bitNot operands value).AsksOnly allowed := by
  unfold bitNot
  grind [refuseFraction]

@[grind .]
theorem asksOnly_lengthOf (operands : Operands) (value : Value) :
    (lengthOf operands value).AsksOnly allowed := by
  unfold lengthOf
  grind

@[grind .]
theorem asksOnly_describe (value : Value) : (describe value).AsksOnly allowed := by
  unfold describe
  grind

@[grind .]
theorem asksOnly_settle (error : Value) : (settle error).AsksOnly allowed := by
  suffices within : ∀ (limit : Nat) (error : Value), (settleWithin limit error).AsksOnly allowed
    from within describeLimit error
  intro limit
  induction limit with
  | zero => exact fun _ => trivial
  | succ limit ih =>
    intro error
    unfold settleWithin
    grind

@[grind .]
theorem asksOnly_surface (error : Value) :
    (surface error : Behaviour α).AsksOnly allowed := by
  unfold surface
  grind

theorem asksOnly_trial (trial : Trial) : trial.behaviour.AsksOnly allowed := by
  cases trial <;> grind [Trial.behaviour]

/-! ## Expressions -/

@[grind .]
theorem asksOnly_environment (scope : Scope) : (environment scope).AsksOnly allowed := by
  unfold environment
  grind

@[grind .]
theorem asksOnly_readName (scope : Scope) (name : String) (line : Nat) :
    (readName scope name line).AsksOnly allowed := by
  unfold readName
  grind

@[grind .]
theorem asksOnly_declareAll (scope : Scope) (names : List String) (values : List Value) :
    (declareAll scope names values).AsksOnly allowed := by
  induction names generalizing scope values with
  | nil => trivial
  | cons name rest ih =>
    unfold declareAll
    grind

@[grind .]
theorem asksOnly_storeItems (table : Nat) (key : Int64) (values : List Value) :
    (storeItems table key values).AsksOnly allowed := by
  induction values generalizing key with
  | nil => trivial
  | cons value rest ih =>
    unfold storeItems
    grind

@[grind .]
theorem asksOnly_applyBinary (operands : Operands) (operator : BinaryOperator)
    (left right : Value) : (applyBinary operands operator left right).AsksOnly allowed := by
  unfold applyBinary
  grind

@[grind .]
theorem asksOnly_applyUnary (operands : Operands) (operator : UnaryOperator) (value : Value) :
    (applyUnary operands operator value).AsksOnly allowed := by
  unfold applyUnary
  grind

mutual

/-- To find the values of an expression, the application is asked for nothing. -/
theorem asksOnly_evaluate (scope : Scope) (expression : Expr) :
    (evaluate scope expression).AsksOnly allowed := by
  cases expression with
  | nil | bool | int | float | text | varargs => trivial
  | name name => exact asksOnly_bind (asksOnly_readName scope name 0) fun _ => trivial
  | index table key line =>
    have table := asksOnly_evaluate scope table
    have key := asksOnly_evaluate scope key
    unfold evaluate
    grind
  | call function arguments line =>
    have function := asksOnly_evaluate scope function
    have arguments := asksOnly_evaluateAll scope arguments
    unfold evaluate
    grind
  | method object name arguments line =>
    have object := asksOnly_evaluate scope object
    have arguments := asksOnly_evaluateAll scope arguments
    unfold evaluate
    grind
  | function body => exact asksOnly_bind (asksOnly_newClosure _) fun _ => trivial
  | unary operator operand line =>
    have operand := asksOnly_evaluate scope operand
    unfold evaluate
    grind
  | binary operator left right line =>
    have left := asksOnly_evaluate scope left
    have right := asksOnly_evaluate scope right
    unfold evaluate
    grind
  | table fields line =>
    have fields := fun id => asksOnly_evaluateFields scope (scope.site line) id fields
    unfold evaluate
    grind
  | single inner => exact asksOnly_bind (asksOnly_evaluate scope inner) fun _ => trivial

theorem asksOnly_evaluateAll (scope : Scope) (expressions : List Expr) :
    (evaluateAll scope expressions).AsksOnly allowed := by
  match expressions with
  | [] => trivial
  | [last] => exact asksOnly_evaluate scope last
  | first :: second :: rest =>
    have first := asksOnly_evaluate scope first
    have rest := asksOnly_evaluateAll scope (second :: rest)
    unfold evaluateAll
    grind

theorem asksOnly_evaluateFields (scope : Scope) (site : Site) (table : Nat)
    (fields : List Field) : (evaluateFields scope site table fields).AsksOnly allowed := by
  match fields with
  | [] => trivial
  | .item value :: rest =>
    have value := asksOnly_evaluate scope value
    have rest := asksOnly_evaluateFields scope site table rest
    unfold evaluateFields
    grind
  | .entry key value :: rest =>
    have key := asksOnly_evaluate scope key
    have value := asksOnly_evaluate scope value
    have rest := asksOnly_evaluateFields scope site table rest
    unfold evaluateFields
    grind

end

attribute [grind .] asksOnly_evaluate asksOnly_evaluateAll

@[grind .]
theorem asksOnly_evaluateOne (scope : Scope) (expression : Expr) :
    (evaluateOne scope expression).AsksOnly allowed :=
  asksOnly_map _ (asksOnly_evaluate scope expression)

/-! ## Statements -/

@[grind .]
theorem asksOnly_place (scope : Scope) (expression : Expr) :
    (place scope expression).AsksOnly allowed := by
  unfold place
  grind

@[grind .]
theorem asksOnly_places (scope : Scope) (expressions : List Expr) :
    (places scope expressions).AsksOnly allowed := by
  induction expressions with
  | nil => trivial
  | cons first rest ih =>
    unfold places
    grind

@[grind .]
theorem asksOnly_storeAt (site : Site) (place : Place) (value : Value) :
    (storeAt site place value).AsksOnly allowed := by
  unfold storeAt
  grind

@[grind .]
theorem asksOnly_storeAll (site : Site) (targets : List Place) (values : List Value) :
    (storeAll site targets values).AsksOnly allowed := by
  induction targets generalizing values with
  | nil => trivial
  | cons target rest ih =>
    cases values with
    | nil => trivial
    | cons value values =>
      unfold storeAll
      grind

@[grind .]
theorem asksOnly_countLoop (site : Site) (name : String) (body : Block)
    (first last step : Value) : (countLoop site name body first last step).AsksOnly allowed := by
  unfold countLoop
  grind [refuseBound]

@[grind .]
theorem asksOnly_runResult (scope : Scope) (expressions : List Expr) :
    (runResult scope expressions).AsksOnly allowed := by
  unfold runResult
  grind

mutual

/-- To run a statement, the application is asked for nothing. -/
theorem asksOnly_runStatement (scope : Scope) (statement : Stmt) :
    (runStatement scope statement).AsksOnly allowed := by
  cases statement with
  | block body =>
    have body := fun scope => asksOnly_runStatements scope body
    unfold runStatement
    grind [runLabelled]
  | branch condition whenTrue whenFalse =>
    have whenTrue := asksOnly_runStatements scope whenTrue
    have whenFalse := asksOnly_runStatements scope whenFalse
    unfold runStatement
    grind [runLabelled]
  | countLoop name first last step body line =>
    unfold runStatement
    refine asksOnly_bind (asksOnly_evaluateOne scope first) fun first => ?_
    refine asksOnly_bind (asksOnly_evaluateOne scope last) fun last => ?_
    cases step <;> grind
  | _ =>
    unfold runStatement
    grind

theorem asksOnly_runStatements (scope : Scope) (statements : List Stmt) :
    (runStatements scope statements).AsksOnly allowed := by
  match statements with
  | [] => trivial
  | first :: rest =>
    have first := asksOnly_runStatement scope first
    have rest := fun scope => asksOnly_runStatements scope rest
    unfold runStatements
    grind

end

attribute [grind .] asksOnly_runStatement asksOnly_runStatements

@[grind .]
theorem asksOnly_runBlock (scope : Scope) (body : Block) :
    (runBlock scope body).AsksOnly allowed := by
  unfold runBlock
  grind [runLabelled]

@[grind .]
theorem asksOnly_runRest (block : Block) (outer : Nat) (scope : Scope) (rest : List Stmt) :
    (runRest block outer scope rest).AsksOnly allowed := by
  induction rest generalizing scope with
  | nil => trivial
  | cons first rest ih =>
    unfold runRest
    grind

@[grind ←]
theorem asksOnly_afterBody (scope : Scope) {again : Behaviour Signal}
    (asks : again.AsksOnly allowed) (signal : Signal) :
    (afterBody scope again signal).AsksOnly allowed := by
  unfold afterBody
  grind

/-- To run a piece of a program, the application is asked for nothing. -/
theorem asksOnly_code (code : Code) (scope : Scope) :
    (code.behaviour scope).AsksOnly allowed := by
  unfold Code.behaviour
  grind

/-- To run a function of a script, the application is asked for nothing. -/
theorem asksOnly_closure (closure : Closure) (arguments : List Value) :
    (closure.behaviour arguments).AsksOnly allowed := by
  unfold Closure.behaviour
  grind

end MediaImport.Script
