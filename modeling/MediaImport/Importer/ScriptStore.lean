import MediaImport.Text.Utf8

/-!
# Script files in memory

Script files are stored under paths.  A path is bytes, and different bytes may spell the same
path: repeated slashes, a slash at the end, and a dot between slashes mean nothing.  A dot at the
front of a relative path does count, and two dots always do.
-/

namespace MediaImport.Importer

/-- A path, apart from its spelling. -/
structure ScriptPath where
  isAbsolute : Bool
  components : List Bytes
  deriving DecidableEq

namespace ScriptPath

/-- The byte that stands between components. -/
def slash : UInt8 := 0x2f

/-- The component that stands for the directory that it is in. -/
def dot : Bytes := [0x2e]

/-- The path that bytes spell.  It is absolute if they start with a slash.  Its components are
what stands between slashes, without what is empty, and without dots except for one in front. -/
def ofBytes (spelling : Bytes) : ScriptPath :=
  match spelling.splitOn slash with
  | [] => ⟨false, []⟩
  | first :: rest =>
    ⟨spelling.head? == some slash,
      [first].filter (· != []) ++ rest.filter fun piece => piece != [] && piece != dot⟩

end ScriptPath

/-! ## The store -/

/-- Script files by path. -/
structure ScriptStore where
  files : List (ScriptPath × Bytes) := []

/-- Why there is nothing to read under a path. -/
def missingText (path : String) : String :=
  path ++ " not found"

/-- Why a file was not read. -/
inductive ReadFailure where
  | notFound (spelling : Bytes)
  deriving DecidableEq

/-- A failure names the path as it was spelled. -/
def ReadFailure.message : ReadFailure → String
  | .notFound spelling => missingText (Utf8.lossy spelling)

namespace ScriptStore

/-- Store a file, in the place of any other under the same path. -/
def insertAt (store : ScriptStore) (spelling contents : Bytes) : ScriptStore :=
  let path := ScriptPath.ofBytes spelling
  { files := (path, contents) :: store.files.filter fun file => file.1 != path }

/-- Read the file under a path. -/
def readAt (store : ScriptStore) (spelling : Bytes) : Except ReadFailure Bytes :=
  match store.files.lookup (ScriptPath.ofBytes spelling) with
  | some contents => .ok contents
  | none => .error (.notFound spelling)

/-- Store a file under a path that is text. -/
def insert (store : ScriptStore) (path : String) (contents : Bytes) : ScriptStore :=
  store.insertAt (Bytes.ofString path) contents

/-- The contents of the file under a path that is text. -/
def read? (store : ScriptStore) (path : String) : Option Bytes :=
  (store.readAt (Bytes.ofString path)).toOption

end ScriptStore

end MediaImport.Importer
