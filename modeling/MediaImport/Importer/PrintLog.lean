/-!
# Printed lines

A context keeps the lines that its scripts print, but only the newest ones.
-/

namespace MediaImport.Importer

/-- The newest printed lines, oldest first. -/
structure PrintLog where
  lines : List String := []
  deriving DecidableEq

namespace PrintLog

/-- How many lines are kept. -/
def capacity : Nat := 200

/-- The last so many elements of a list. -/
def lastOf {α : Type} (count : Nat) (elements : List α) : List α :=
  elements.drop (elements.length - count)

/-- Keep one more line, and forget the oldest one if there is no room. -/
def push (log : PrintLog) (line : String) : PrintLog where
  lines := lastOf capacity (log.lines ++ [line])

/-- The newest so many lines, oldest first. -/
def latest (log : PrintLog) (limit : Nat) : List String :=
  lastOf limit log.lines

end PrintLog

end MediaImport.Importer
