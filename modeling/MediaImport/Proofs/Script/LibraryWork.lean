import MediaImport.Proofs.Script.OwnWork

/-!
# What the script library asks of the application

Nothing.  The functions of the script library work on values and on the heap, call what they are
given to call, and deal with coroutines.  None of them asks the application for anything by
itself.
-/

namespace MediaImport.Script.Library

open Behaviour

variable {allowed : HostRequest → Prop} {α : Type}

/-! ## Arguments -/

@[grind .]
theorem asksOnly_refuseKind (arguments : Arguments) (index : Nat) (expected : String) :
    (arguments.refuseKind index expected : Behaviour α).AsksOnly allowed := by
  unfold Arguments.refuseKind refuseKind givenType
  grind

@[grind .]
theorem asksOnly_refusal (arguments : Arguments) (index : Nat) (reason : String) :
    (arguments.refuse index reason : Behaviour α).AsksOnly allowed :=
  asksOnly_refuseArgument _ _ _

@[grind .]
theorem asksOnly_any (arguments : Arguments) (index : Nat) :
    (arguments.any index).AsksOnly allowed := by
  unfold Arguments.any
  grind

@[grind .]
theorem asksOnly_table (arguments : Arguments) (index : Nat) :
    (arguments.table index).AsksOnly allowed := by
  unfold Arguments.table
  grind

@[grind .]
theorem asksOnly_number (arguments : Arguments) (index : Nat) :
    (arguments.number index).AsksOnly allowed := by
  unfold Arguments.number
  grind

@[grind .]
theorem asksOnly_word (arguments : Arguments) (index : Nat) :
    (arguments.word index).AsksOnly allowed := by
  unfold Arguments.word
  grind

@[grind .]
theorem asksOnly_wordOr (arguments : Arguments) (index : Nat) (fallback : Int64) :
    (arguments.wordOr index fallback).AsksOnly allowed := by
  unfold Arguments.wordOr
  grind

@[grind .]
theorem asksOnly_text (arguments : Arguments) (index : Nat) :
    (arguments.text index).AsksOnly allowed := by
  unfold Arguments.text
  grind

@[grind .]
theorem asksOnly_textOr (arguments : Arguments) (index : Nat) (fallback : Bytes) :
    (arguments.textOr index fallback).AsksOnly allowed := by
  unfold Arguments.textOr
  grind

/-! ## Basic functions -/

@[grind .]
theorem asksOnly_located (message : Value) (level : Int64) :
    (located message level).AsksOnly allowed := by
  unfold located
  grind

@[grind .]
theorem asksOnly_piecesFrom (function : Value) (limit : Nat) :
    (piecesFrom function limit).AsksOnly allowed := by
  induction limit with
  | zero => trivial
  | succ limit ih =>
    unfold piecesFrom
    grind

@[grind .]
theorem asksOnly_codePointsFrom (arguments : Arguments) (remaining index : Nat) :
    (codePointsFrom arguments remaining index).AsksOnly allowed := by
  induction remaining generalizing index with
  | zero => trivial
  | succ remaining ih =>
    unfold codePointsFrom
    grind

@[grind .]
theorem asksOnly_handledCall (arguments : Arguments) :
    (handledCall arguments).AsksOnly allowed := by
  unfold handledCall
  split
  · -- The handler is called under protection itself.
    intro result
    cases result with
    | ok values => trivial
    | error error =>
      intro handled
      cases handled <;> trivial
  · trivial

@[grind .]
theorem asksOnly_setMetatableFunction (arguments : Arguments) :
    (setMetatableFunction arguments).AsksOnly allowed := by
  unfold setMetatableFunction
  refine asksOnly_bind (asksOnly_table _ _) fun id => ?_
  split <;> grind

@[grind .]
theorem asksOnly_loadFunction (arguments : Arguments) :
    (loadFunction arguments).AsksOnly allowed := by
  unfold loadFunction
  cases arguments.get 1
  -- Wherever the text comes from, the rest is the same.
  all_goals
    refine asksOnly_bind (by grind) fun found => ?_
    refine asksOnly_bind (asksOnly_textOr _ _ _) fun name => ?_
    cases compile? found.1 with
    | none => trivial
    | some function => grind

/-! ## Functions on numbers -/

@[grind .]
theorem asksOnly_extremeFrom (arguments : Arguments) (better : Value → Value → Bool)
    (remaining index : Nat) (best : Value) :
    (extremeFrom arguments better remaining index best).AsksOnly allowed := by
  induction remaining generalizing index best with
  | zero => trivial
  | succ remaining ih =>
    unfold extremeFrom
    grind

/-! ## Functions on strings -/

@[grind .]
theorem asksOnly_bytesFrom (arguments : Arguments) (remaining index : Nat) :
    (bytesFrom arguments remaining index).AsksOnly allowed := by
  induction remaining generalizing index with
  | zero => trivial
  | succ remaining ih =>
    unfold bytesFrom
    grind

@[grind .]
theorem asksOnly_refusePattern (fault : PatternFault) :
    (refusePattern fault : Behaviour α).AsksOnly allowed :=
  asksOnly_refuse _

@[grind .]
theorem asksOnly_captureValue (subject : Array UInt8) (capture : Pattern.Capture) :
    (captureValue subject capture).AsksOnly allowed := by
  unfold captureValue
  grind

@[grind .]
theorem asksOnly_captureValues (subject : Array UInt8) (captures : List Pattern.Capture) :
    (captureValues subject captures).AsksOnly allowed := by
  induction captures with
  | nil => trivial
  | cons capture rest ih =>
    unfold captureValues
    grind

@[grind .]
theorem asksOnly_matchValues (subject : Array UInt8) (found : Pattern.Match) :
    (matchValues subject found).AsksOnly allowed := by
  unfold matchValues
  grind

@[grind .]
theorem asksOnly_nextMatch (id : Nat) : (nextMatch id).AsksOnly allowed := by
  unfold nextMatch
  grind

@[grind .]
theorem asksOnly_fillMarks (subject : Array UInt8) (found : Pattern.Match) (marked : Bytes) :
    (fillMarks subject found marked).AsksOnly allowed := by
  fun_induction fillMarks subject found marked <;> grind

@[grind .]
theorem asksOnly_replace (subject : Array UInt8) (found : Pattern.Match)
    (replacement : Replacement) : (replace subject found replacement).AsksOnly allowed := by
  unfold replace
  grind

@[grind .]
theorem asksOnly_replaceFrom (subject : Array UInt8) (elements : List PatternElement)
    (anchored : Bool) (replacement : Replacement) (steps most position : Nat)
    (lastEnd : Option Nat) (pieces : List Bytes) (replaced : Nat) :
    (replaceFrom subject elements anchored replacement steps most position lastEnd pieces
      replaced).AsksOnly allowed := by
  induction steps generalizing most position lastEnd pieces replaced with
  | zero => trivial
  | succ steps ih =>
    unfold replaceFrom
    grind

@[grind .]
theorem asksOnly_replaceFunction (arguments : Arguments) :
    (replaceFunction arguments).AsksOnly allowed := by
  unfold replaceFunction
  refine asksOnly_bind (asksOnly_text _ _) fun subject => ?_
  refine asksOnly_bind (asksOnly_text _ _) fun pattern => ?_
  grind

/-! ## Functions on tables -/

@[grind .]
theorem asksOnly_item (table : Value) (place : Int) : (item table place).AsksOnly allowed :=
  asksOnly_index _ _ _ _

@[grind .]
theorem asksOnly_setItem (table : Value) (place : Int) (value : Value) :
    (setItem table place value).AsksOnly allowed :=
  asksOnly_store _ _ _ _ _

@[grind .]
theorem asksOnly_itemCount (arguments : Arguments) :
    (itemCount arguments).AsksOnly allowed := by
  unfold itemCount
  grind

@[grind .]
theorem asksOnly_joinFrom (table : Value) (separator : Bytes) (remaining : Nat) (place : Int) :
    (joinFrom table separator remaining place).AsksOnly allowed := by
  induction remaining generalizing place with
  | zero => trivial
  | succ remaining ih =>
    unfold joinFrom
    grind

@[grind .]
theorem asksOnly_moveUp (table : Value) (remaining : Nat) (place : Int) :
    (moveUp table remaining place).AsksOnly allowed := by
  induction remaining generalizing place with
  | zero => trivial
  | succ remaining ih =>
    unfold moveUp
    grind

@[grind .]
theorem asksOnly_moveDown (table : Value) (remaining : Nat) (place : Int) :
    (moveDown table remaining place).AsksOnly allowed := by
  induction remaining generalizing place with
  | zero => trivial
  | succ remaining ih =>
    unfold moveDown
    grind

@[grind .]
theorem asksOnly_itemsFrom (table : Value) (remaining : Nat) (place : Int) :
    (itemsFrom table remaining place).AsksOnly allowed := by
  induction remaining generalizing place with
  | zero => trivial
  | succ remaining ih =>
    unfold itemsFrom
    grind

@[grind .]
theorem asksOnly_belongsBefore (function left right : Value) :
    (belongsBefore function left right).AsksOnly allowed := by
  unfold belongsBefore
  grind

@[grind .]
theorem asksOnly_exchange (table : Value) (first second : Int) (atFirst atSecond : Value) :
    (exchange table first second atFirst atSecond).AsksOnly allowed := by
  unfold exchange
  grind

@[grind .]
theorem asksOnly_searchUp (table function pivot : Value) (bound : Int) (steps : Nat)
    (place : Int) : (searchUp table function pivot bound steps place).AsksOnly allowed := by
  induction steps generalizing place with
  | zero => exact asksOnly_refuse _
  | succ steps ih =>
    unfold searchUp
    grind [refuseOrder]

@[grind .]
theorem asksOnly_searchDown (table function pivot : Value) (bound : Int) (steps : Nat)
    (place : Int) : (searchDown table function pivot bound steps place).AsksOnly allowed := by
  induction steps generalizing place with
  | zero => exact asksOnly_refuse _
  | succ steps ih =>
    unfold searchDown
    grind [refuseOrder]

@[grind .]
theorem asksOnly_divide (table function pivot : Value) (up : Int) (steps : Nat)
    (low high : Int) : (divide table function pivot up steps low high).AsksOnly allowed := by
  induction steps generalizing low high with
  | zero => exact asksOnly_refuse _
  | succ steps ih =>
    unfold divide
    grind

@[grind .]
theorem asksOnly_orderPair (table function : Value) (low high : Int) :
    (orderPair table function low high).AsksOnly allowed := by
  unfold orderPair
  grind

@[grind .]
theorem asksOnly_orderMiddle (table function : Value) (low middle high : Int) :
    (orderMiddle table function low middle high).AsksOnly allowed := by
  unfold orderMiddle
  grind

@[grind .]
theorem asksOnly_sortFrom (table function : Value) (steps : Nat) (low high : Int) :
    (sortFrom table function steps low high).AsksOnly allowed := by
  induction steps generalizing low high with
  | zero => trivial
  | succ steps ih =>
    unfold sortFrom
    grind

/-! ## Functions on coroutines -/

@[grind .]
theorem asksOnly_threadArgument (arguments : Arguments) (index : Nat) :
    (threadArgument arguments index).AsksOnly allowed := by
  unfold threadArgument
  grind

@[grind .]
theorem asksOnly_functionArgument (arguments : Arguments) (index : Nat) :
    (functionArgument arguments index).AsksOnly allowed := by
  unfold functionArgument
  grind

@[grind .]
theorem asksOnly_resumeWrapped (thread : Nat) (values : List Value) :
    (resumeWrapped thread values).AsksOnly allowed := by
  unfold resumeWrapped
  grind

/-! ## Functions that reach outside -/

/-- To call a foreign function, the application is asked for nothing. -/
theorem asksOnly_foreignFunction (function : Foreign) (arguments : List Value) :
    (foreignFunction function arguments).AsksOnly allowed := by
  refine asksOnly_bind (asksOnly_look _) fun answer => ?_
  cases answer <;> grind [followAnswer]

/-! ## All of them -/

/-- No function of the script library asks the application for anything. -/
theorem asksOnly_routine (routine : Routine) (values : List Value) :
    (routine.apply values).AsksOnly allowed := by
  unfold Routine.apply
  cases routine with
  | print => trivial
  | assert | error | pcall | xpcall =>
    grind [assertFunction, errorFunction, protectedCall]
  | type | toText | toNumber | select =>
    grind [typeFunction, textFunction, numberFunction, selectFunction]
  | ipairs | ipairsStep | pairs | next =>
    grind [itemsFunction, itemStep, entriesFunction, nextFunction]
  | rawGet | rawSet | rawEqual | rawLength =>
    grind [rawGetFunction, rawSetFunction, rawEqualFunction, rawLengthFunction]
  | getMetatable | setMetatable => grind [metatableFunction]
  | load => grind
  | stringByte | stringChar | stringLength | stringSub | stringRep =>
    grind [byteFunction, charFunction, lengthFunction, partFunction, repeatFunction]
  | stringLower | stringReverse | stringUpper => grind [mapFunction]
  | stringFind | stringMatch | stringGmatch | stringGsub =>
    grind [searchFunction, matchesFunction]
  | tableConcat | tableInsert | tableRemove =>
    grind [joinFunction, insertFunction, removeFunction]
  | tablePack | tableUnpack | tableSort => grind [packFunction, unpackFunction, sortFunction]
  | mathAbs | mathCeil | mathFloor | mathSqrt =>
    grind [magnitudeFunction, ceilingFunction, floorFunction, rootFunction]
  | mathMax | mathMin => grind [greatestFunction, leastFunction, extreme]
  | mathFmod | mathToInteger | mathType | mathUlt =>
    grind [remainderFunction, wordFunction, numberTypeFunction, unsignedLessFunction]
  | utf8Char => grind [codePointFunction]
  | coroutineCreate | coroutineResume | coroutineYield =>
    grind [createFunction, resumeFunction, yieldFunction]
  | coroutineStatus | coroutineClose => grind [statusFunction, closeFunction]
  | coroutineWrap | coroutineIsYieldable | coroutineRunning =>
    grind [wrapFunction, isYieldableFunction, runningFunction]
  | osExit => grind [exitFunction]

end MediaImport.Script.Library
