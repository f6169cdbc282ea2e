import MediaImport.Number.Double
import MediaImport.Text.Bytes

/-!
# Script syntax

Programs of the Lua scripting language as trees.  The parser has already
settled everything that concerns form: precedence, the line that an error in an
expression is reported at, and the rewriting of `elseif` and of method
definitions.  Names are still names; where a name refers to is decided by the
scope in which it is evaluated.
-/

namespace MediaImport.Script

inductive UnaryOperator where
  | negate
  | not
  | length
  | bitNot
  deriving DecidableEq

inductive BinaryOperator where
  | add
  | subtract
  | multiply
  | divide
  | floorDivide
  | modulo
  | power
  | concatenate
  | bitAnd
  | bitOr
  | bitXor
  | shiftLeft
  | shiftRight
  | equal
  | unequal
  | less
  | lessEqual
  | greater
  | greaterEqual
  | and
  | or
  deriving DecidableEq

mutual

/-- An expression.  Lines are those at which a failing operation is reported. -/
inductive Expr where
  | nil
  | bool (value : Bool)
  | int (value : Int64)
  | float (value : Double)
  | text (value : Bytes)
  /-- The extra arguments of the function. -/
  | varargs
  | name (name : String)
  | index (table key : Expr) (line : Nat)
  | call (function : Expr) (arguments : List Expr) (line : Nat)
  | method (object : Expr) (name : String) (arguments : List Expr) (line : Nat)
  | function (body : Function)
  | unary (operator : UnaryOperator) (operand : Expr) (line : Nat)
  | binary (operator : BinaryOperator) (left right : Expr) (line : Nat)
  | table (fields : List Field) (line : Nat)
  /-- An expression in parentheses, which has exactly one value. -/
  | single (inner : Expr)

/-- An entry of a table constructor. -/
inductive Field where
  | item (value : Expr)
  | entry (key value : Expr)

/-- A statement. -/
inductive Stmt where
  /-- Declare local variables; `true` marks those that cannot be assigned. -/
  | declare (names : List (String × Bool)) (values : List Expr) (line : Nat)
  | assign (targets values : List Expr) (line : Nat)
  | call (call : Expr)
  | block (body : List Stmt)
  | whileLoop (condition : Expr) (body : List Stmt)
  | repeatLoop (body : List Stmt) (condition : Expr)
  | branch (condition : Expr) (whenTrue whenFalse : List Stmt)
  | countLoop (name : String) (first last : Expr) (step : Option Expr)
      (body : List Stmt) (line : Nat)
  | eachLoop (names : List String) (values : List Expr) (body : List Stmt) (line : Nat)
  | declareFunction (name : String) (body : Function)
  | result (values : List Expr) (line : Nat)
  | leave
  | goto (label : String)
  | label (name : String)

/-- The parameters and the body of a function. -/
inductive Function where
  | mk (parameters : List String) (hasVarargs : Bool) (body : List Stmt)

end

abbrev Block := List Stmt

namespace Function

def parameters : Function → List String
  | .mk parameters _ _ => parameters

def hasVarargs : Function → Bool
  | .mk _ hasVarargs _ => hasVarargs

def body : Function → Block
  | .mk _ _ body => body

end Function

/-- The labels of a block itself, not of the blocks inside it. -/
def Stmt.label? : Stmt → Option String
  | .label name => some name
  | _ => none

/-- The number of variables that a statement adds to the block it stands in. -/
def Stmt.declared : Stmt → Nat
  | .declare names _ _ => names.length
  | .declareFunction _ _ => 1
  | _ => 0

/-- What a jump to a label of a block goes on with: the number of variables the
block has declared before the label, and the statements after it. -/
def findLabel? (label : String) : Block → Option (Nat × Block)
  | [] => none
  | statement :: rest =>
    if statement.label? = some label then some (0, rest)
    else (findLabel? label rest).map fun (declared, target) =>
      (declared + statement.declared, target)

/-- Whether a block has any label of its own. -/
def hasLabels (block : Block) : Bool :=
  block.any fun statement => statement.label?.isSome

end MediaImport.Script
