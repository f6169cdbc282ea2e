import MediaImport.Text.Blank

/-!
# Purposes and trust levels

A script context serves one purpose: laying out newly imported objects, or
reading the entries of a playlist.  How much of the script library it gets is
decided by its trust level.  Both are named by words that are matched up to
white space and ASCII case.
-/

namespace MediaImport

/-- A word that names nothing; the cause of a failed reading. -/
inductive UnknownWord where
  | purpose (word : String)
  | trustLevel (word : String)
  | onlineService (word : String)
  deriving DecidableEq

namespace UnknownWord

def message : UnknownWord → String
  | purpose word => "unknown script purpose '" ++ word ++ "'"
  | trustLevel word => "unknown trust level '" ++ word ++ "'"
  | onlineService word => "unknown online service '" ++ word ++ "'"

end UnknownWord

/-- What a script context is for. -/
inductive Purpose where
  /-- The layout of newly imported objects. -/
  | layout
  /-- The entries of a playlist. -/
  | playlist
  deriving DecidableEq

namespace Purpose

/-- The name of the context that serves a purpose. -/
def name : Purpose → String
  | layout => "import"
  | playlist => "playlist"

def ofText (text : String) : Except UnknownWord Purpose :=
  let word := Text.lowercase (Text.trim text)
  if word = "import" then .ok layout
  else if word = "playlist" then .ok playlist
  else .error (.purpose word)

end Purpose

/-- How much of the script library a context gets. -/
inductive TrustLevel where
  /-- Nothing that reaches outside. -/
  | basic
  /-- Reading files as well. -/
  | fileRead
  /-- Everything that cannot break the interpreter. -/
  | elevated
  deriving DecidableEq

namespace TrustLevel

def name : TrustLevel → String
  | basic => "basic"
  | fileRead => "file_read"
  | elevated => "elevated"

/-- The level that a text names; no word at all means the basic level. -/
def ofText (text : String) : Except UnknownWord TrustLevel :=
  let word := Text.lowercase (Text.trim text)
  if word = "basic" ∨ word = "" then .ok basic
  else if word = "file_read" then .ok fileRead
  else if word = "elevated" then .ok elevated
  else .error (.trustLevel word)

end TrustLevel

end MediaImport
