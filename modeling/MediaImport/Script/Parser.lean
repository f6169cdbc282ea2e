import MediaImport.Script.Syntax
import MediaImport.Script.Token

/-!
# Reading programs

A recursive-descent reader from tokens to statements.  Binary operators are
grouped by their binding powers on the left and on the right.  The rules that
need to know what a name refers to (labels, constants, extra arguments) are not
checked here but in `MediaImport.Script.Wellformed`.

Every reader takes a bound on how deep it may call the others; the number of
tokens gives a bound that no program exceeds.
-/

namespace MediaImport.Script

/-- A reader of some tokens, which may refuse. -/
abbrev Parser (α : Type) := StateT (List Lexeme) Option α

namespace Parser

/-- The next token, if there is one. -/
def peek : Parser (Option Token) := do
  return (← get).head?.map (·.token)

/-- The line of the next token. -/
def line : Parser Nat := do
  return ((← get).head?.map (·.line)).getD 0

/-- Whether the next token is a fixed word. -/
def isNext (word : String) : Parser Bool := do
  return (← peek) == some (.word word)

/-- Skip the next token. -/
def skip : Parser Unit :=
  modify (List.drop 1)

/-- Skip a fixed word if it is next, and say whether it was. -/
def accept (word : String) : Parser Bool := do
  if ← isNext word then
    skip
    return true
  else return false

/-- Skip a fixed word, which must be next. -/
def expect (word : String) : Parser Unit := do
  if ← accept word then return else failure

/-- A name, which must be next. -/
def expectName : Parser String := do
  match ← peek with
  | some (.name text) =>
    skip
    return text
  | _ => failure

/-- The operator that a word stands for between two operands, with its binding
powers to the left and to the right. -/
def binary? : String → Option (BinaryOperator × Nat × Nat)
  | "+" => some (.add, 10, 10)
  | "-" => some (.subtract, 10, 10)
  | "*" => some (.multiply, 11, 11)
  | "%" => some (.modulo, 11, 11)
  | "^" => some (.power, 14, 13)
  | "/" => some (.divide, 11, 11)
  | "//" => some (.floorDivide, 11, 11)
  | "&" => some (.bitAnd, 6, 6)
  | "|" => some (.bitOr, 4, 4)
  | "~" => some (.bitXor, 5, 5)
  | "<<" => some (.shiftLeft, 7, 7)
  | ">>" => some (.shiftRight, 7, 7)
  | ".." => some (.concatenate, 9, 8)
  | "==" => some (.equal, 3, 3)
  | "<" => some (.less, 3, 3)
  | "<=" => some (.lessEqual, 3, 3)
  | "~=" => some (.unequal, 3, 3)
  | ">" => some (.greater, 3, 3)
  | ">=" => some (.greaterEqual, 3, 3)
  | "and" => some (.and, 2, 2)
  | "or" => some (.or, 1, 1)
  | _ => none

/-- The operator that a word stands for before an operand. -/
def unary? : String → Option UnaryOperator
  | "not" => some .not
  | "-" => some .negate
  | "~" => some .bitNot
  | "#" => some .length
  | _ => none

/-- How tightly an operator before an operand binds it. -/
def unaryPower : Nat := 12

/-- Whether the next token ends a block. -/
def atBlockEnd : Parser Bool := do
  match ← peek with
  | none => return true
  | some (.word word) => return word ∈ ["end", "else", "elseif", "until"]
  | some _ => return false

/-- Names separated by commas. -/
def nameList : Nat → Parser (List String)
  | 0 => failure
  | fuel + 1 => do
    let first ← expectName
    if ← accept "," then return first :: (← nameList fuel) else return [first]

/-- The mark of a local variable that cannot be assigned. -/
def constantMark : Parser Bool := do
  if ← accept "<" then
    let mark ← expectName
    expect ">"
    if mark = "const" ∨ mark = "close" then return true else failure
  else return false

/-- Local variables with their marks, separated by commas. -/
def variableList : Nat → Parser (List (String × Bool))
  | 0 => failure
  | fuel + 1 => do
    let first ← expectName
    let constant ← constantMark
    if ← accept "," then return (first, constant) :: (← variableList fuel)
    else return [(first, constant)]

/-- The parameters of a function, after the opening parenthesis and up to the
closing one. -/
def parameterList : Nat → Parser (List String × Bool)
  | 0 => failure
  | fuel + 1 => do
    if ← accept "..." then
      expect ")"
      return ([], true)
    else
      let first ← expectName
      if ← accept "," then
        let (rest, hasVarargs) ← parameterList fuel
        return (first :: rest, hasVarargs)
      else
        expect ")"
        return ([first], false)

mutual

/-- An expression whose operators bind tighter than a limit. -/
def expression : Nat → Nat → Parser Expr
  | 0, _ => failure
  | fuel + 1, limit => do
    let left ← operand fuel
    operators fuel limit left
termination_by structural fuel => fuel

/-- An operand, with the operators before it. -/
def operand : Nat → Parser Expr
  | 0 => failure
  | fuel + 1 => do
    match ← peek with
    | some (.word word) =>
      match unary? word with
      | some operator =>
        let line ← line
        skip
        return .unary operator (← expression fuel unaryPower) line
      | none => simple fuel
    | _ => simple fuel
termination_by structural fuel => fuel

/-- The operators after an operand, as far as they bind tighter than a limit. -/
def operators : Nat → Nat → Expr → Parser Expr
  | 0, _, _ => failure
  | fuel + 1, limit, left => do
    match ← peek with
    | some (.word word) =>
      match binary? word with
      | some (operator, leftPower, rightPower) =>
        if limit < leftPower then
          let line ← line
          skip
          let right ← expression fuel rightPower
          operators fuel limit (.binary operator left right line)
        else return left
      | none => return left
    | _ => return left
termination_by structural fuel => fuel

/-- An expression without operators. -/
def simple : Nat → Parser Expr
  | 0 => failure
  | fuel + 1 => do
    match ← peek with
    | some (.int value) => skip; return .int value
    | some (.float value) => skip; return .float value
    | some (.text value) => skip; return .text value
    | some (.word "nil") => skip; return .nil
    | some (.word "true") => skip; return .bool true
    | some (.word "false") => skip; return .bool false
    | some (.word "...") => skip; return .varargs
    | some (.word "\x7b") => tableConstructor fuel
    | some (.word "function") =>
      skip
      return .function (← functionBody fuel [])
    | _ => suffixed fuel
termination_by structural fuel => fuel

/-- A name or an expression in parentheses, with everything applied to it. -/
def suffixed : Nat → Parser Expr
  | 0 => failure
  | fuel + 1 => do
    match ← peek with
    | some (.name text) =>
      skip
      suffixes fuel (.name text)
    | some (.word "(") =>
      skip
      let inner ← expression fuel 0
      expect ")"
      suffixes fuel (.single inner)
    | _ => failure
termination_by structural fuel => fuel

/-- What is applied to an expression: keys and arguments. -/
def suffixes : Nat → Expr → Parser Expr
  | 0, _ => failure
  | fuel + 1, head => do
    let line ← line
    match ← peek with
    | some (.word ".") =>
      skip
      let line ← Parser.line
      let key ← expectName
      suffixes fuel (.index head (.text (Bytes.ofString key)) line)
    | some (.word "[") =>
      skip
      let key ← expression fuel 0
      let line ← Parser.line
      expect "]"
      suffixes fuel (.index head key line)
    | some (.word ":") =>
      skip
      let name ← expectName
      let line ← Parser.line
      let arguments ← callArguments fuel
      suffixes fuel (.method head name arguments line)
    | some (.word "(") =>
      let arguments ← callArguments fuel
      suffixes fuel (.call head arguments line)
    | some (.word "\x7b") =>
      let arguments ← callArguments fuel
      suffixes fuel (.call head arguments line)
    | some (.text _) =>
      let arguments ← callArguments fuel
      suffixes fuel (.call head arguments line)
    | _ => return head
termination_by structural fuel => fuel

/-- The arguments of a call: a string, a table, or a list in parentheses. -/
def callArguments : Nat → Parser (List Expr)
  | 0 => failure
  | fuel + 1 => do
    match ← peek with
    | some (.text value) =>
      skip
      return [.text value]
    | some (.word "\x7b") => return [← tableConstructor fuel]
    | some (.word "(") =>
      skip
      if ← accept ")" then return []
      else
        let arguments ← expressionList fuel
        expect ")"
        return arguments
    | _ => failure
termination_by structural fuel => fuel

/-- Expressions separated by commas. -/
def expressionList : Nat → Parser (List Expr)
  | 0 => failure
  | fuel + 1 => do
    let first ← expression fuel 0
    if ← accept "," then return first :: (← expressionList fuel) else return [first]
termination_by structural fuel => fuel

/-- A table constructor. -/
def tableConstructor : Nat → Parser Expr
  | 0 => failure
  | fuel + 1 => do
    let line ← line
    expect "\x7b"
    return .table (← fieldList fuel) line
termination_by structural fuel => fuel

/-- The entries of a table constructor, up to the closing brace. -/
def fieldList : Nat → Parser (List Field)
  | 0 => failure
  | fuel + 1 => do
    if ← accept "\x7d" then return []
    else
      let entry ← field fuel
      if (← accept ",") || (← accept ";") then return entry :: (← fieldList fuel)
      else
        expect "\x7d"
        return [entry]
termination_by structural fuel => fuel

/-- One entry of a table constructor. -/
def field : Nat → Parser Field
  | 0 => failure
  | fuel + 1 => do
    match ← get with
    | ⟨.name text, _⟩ :: ⟨.word "=", _⟩ :: _ =>
      skip
      skip
      return .entry (.text (Bytes.ofString text)) (← expression fuel 0)
    | ⟨.word "[", _⟩ :: _ =>
      skip
      let key ← expression fuel 0
      expect "]"
      expect "="
      return .entry key (← expression fuel 0)
    | _ => return .item (← expression fuel 0)
termination_by structural fuel => fuel

/-- The parameters and the body of a function, after the given parameters. -/
def functionBody : Nat → List String → Parser Function
  | 0, _ => failure
  | fuel + 1, given => do
    expect "("
    let (parameters, hasVarargs) ←
      if ← accept ")" then pure ([], false) else parameterList fuel
    let body ← block fuel
    expect "end"
    return .mk (given ++ parameters) hasVarargs body
termination_by structural fuel => fuel

/-- The statements of a block. -/
def block : Nat → Parser Block
  | 0 => failure
  | fuel + 1 => do
    if ← atBlockEnd then return []
    else if ← accept ";" then block fuel
    else if ← isNext "return" then
      let line ← line
      skip
      let values ←
        if (← atBlockEnd) || (← isNext ";") then pure [] else expressionList fuel
      let _ ← accept ";"
      if ← atBlockEnd then return [.result values line] else failure
    else
      let first ← statement fuel
      return first :: (← block fuel)
termination_by structural fuel => fuel

/-- A statement other than a result. -/
def statement : Nat → Parser Stmt
  | 0 => failure
  | fuel + 1 => do
    let line ← line
    match ← peek with
    | some (.word "if") =>
      skip
      branch fuel
    | some (.word "while") =>
      skip
      let condition ← expression fuel 0
      expect "do"
      let body ← block fuel
      expect "end"
      return .whileLoop condition body
    | some (.word "do") =>
      skip
      let body ← block fuel
      expect "end"
      return .block body
    | some (.word "for") =>
      skip
      forLoop fuel line
    | some (.word "repeat") =>
      skip
      let body ← block fuel
      expect "until"
      return .repeatLoop body (← expression fuel 0)
    | some (.word "function") =>
      skip
      let name ← expectName
      functionTarget fuel (.name name) line
    | some (.word "local") =>
      skip
      if ← accept "function" then
        let name ← expectName
        return .declareFunction name (← functionBody fuel [])
      else
        let names ← variableList fuel
        let values ← if ← accept "=" then expressionList fuel else pure []
        return .declare names values line
    | some (.word "::") =>
      skip
      let name ← expectName
      expect "::"
      return .label name
    | some (.word "break") =>
      skip
      return .leave
    | some (.word "goto") =>
      skip
      return .goto (← expectName)
    | _ =>
      let head ← suffixed fuel
      if (← isNext "=") || (← isNext ",") then assignment fuel [head]
      else
        match head with
        | .call .. => return .call head
        | .method .. => return .call head
        | _ => failure
termination_by structural fuel => fuel

/-- A condition with its two branches, after the word that introduces it. -/
def branch : Nat → Parser Stmt
  | 0 => failure
  | fuel + 1 => do
    let condition ← expression fuel 0
    expect "then"
    let whenTrue ← block fuel
    if ← accept "elseif" then return .branch condition whenTrue [← branch fuel]
    else if ← accept "else" then
      let whenFalse ← block fuel
      expect "end"
      return .branch condition whenTrue whenFalse
    else
      expect "end"
      return .branch condition whenTrue []
termination_by structural fuel => fuel

/-- A loop over numbers or over the values of an iterator. -/
def forLoop : Nat → Nat → Parser Stmt
  | 0, _ => failure
  | fuel + 1, line => do
    let name ← expectName
    if ← accept "=" then
      let first ← expression fuel 0
      expect ","
      let last ← expression fuel 0
      let step ← if ← accept "," then some <$> expression fuel 0 else pure none
      expect "do"
      let body ← block fuel
      expect "end"
      return .countLoop name first last step body line
    else
      let others ← if ← accept "," then nameList fuel else pure []
      expect "in"
      let values ← expressionList fuel
      expect "do"
      let body ← block fuel
      expect "end"
      return .eachLoop (name :: others) values body line
termination_by structural fuel => fuel

/-- The variable that a function definition assigns, after its first name. -/
def functionTarget : Nat → Expr → Nat → Parser Stmt
  | 0, _, _ => failure
  | fuel + 1, target, line => do
    if ← accept "." then
      let keyLine ← Parser.line
      let key ← expectName
      functionTarget fuel (.index target (.text (Bytes.ofString key)) keyLine) line
    else if ← accept ":" then
      let keyLine ← Parser.line
      let key ← expectName
      let method := .index target (.text (Bytes.ofString key)) keyLine
      return .assign [method] [.function (← functionBody fuel ["self"])] line
    else return .assign [target] [.function (← functionBody fuel [])] line
termination_by structural fuel => fuel

/-- An assignment, given the targets before the next comma or equals sign, newest
first. -/
def assignment : Nat → List Expr → Parser Stmt
  | 0, _ => failure
  | fuel + 1, reversed => do
    let assignable :=
      match reversed with
      | .name _ :: _ => true
      | .index .. :: _ => true
      | _ => false
    if !assignable then failure
    else if ← accept "," then
      let next ← suffixed fuel
      assignment fuel (next :: reversed)
    else
      let line ← line
      expect "="
      return .assign reversed.reverse (← expressionList fuel) line
termination_by structural fuel => fuel

end

/-- A whole program. -/
def program (fuel : Nat) : Parser Block := do
  let body ← block fuel
  if (← get).isEmpty then return body else failure

end Parser

/-- The statements that the bytes of a script spell. -/
def parse? (bytes : Bytes) : Option Block := do
  let lexemes ← Token.ofBytes? bytes
  let (body, _) ← (Parser.program (16 * lexemes.length + 32)).run lexemes
  return body

end MediaImport.Script
