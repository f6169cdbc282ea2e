import Mathlib.Data.List.Induction
import MediaImport.Importer.ScriptStore

/-!
# Stored scripts as a map over paths

Script files are stored under paths, and a path has many spellings.  `SamePath` says when two
spellings are one path, by the pieces between their slashes.  The store keeps one file for each
path: what is read is what was stored last under any spelling of the path, and nothing is found
if nothing was stored under it (`readAt_latest`).
-/

namespace MediaImport.Importer

/-! ## Spellings of paths -/

namespace ScriptPath

/-- The pieces of a spelling, with slashes between them and none inside. -/
structure ArePieces (pieces : List Bytes) (spelling : Bytes) : Prop where
  present : pieces ≠ []
  whole : ∀ piece ∈ pieces, slash ∉ piece
  written : [slash].intercalate pieces = spelling

/-- A spelling that starts at the root. -/
def IsRooted (spelling : Bytes) : Prop :=
  spelling.head? = some slash

instance (spelling : Bytes) : Decidable (IsRooted spelling) :=
  inferInstanceAs (Decidable (_ = _))

/-- A piece is a component unless it is empty, or a dot other than the first piece of a spelling
that does not start at the root. -/
def IsComponent (spelling piece : Bytes) (position : Nat) : Prop :=
  piece ≠ [] ∧ (piece = dot → position = 0 ∧ ¬IsRooted spelling)

instance (spelling piece : Bytes) (position : Nat) :
    Decidable (IsComponent spelling piece position) :=
  inferInstanceAs (Decidable (_ ∧ _))

/-- The components of a spelling: those of its pieces that are components, in their order. -/
def HasComponents (spelling : Bytes) (components : List Bytes) : Prop :=
  ∃ pieces, ArePieces pieces spelling ∧
    components = (pieces.zipIdx.filter fun placed =>
      IsComponent spelling placed.1 placed.2).map Prod.fst

/-- Two spellings of one path: both or neither start at the root, and they have the same
components. -/
def SamePath (left right : Bytes) : Prop :=
  (IsRooted left ↔ IsRooted right) ∧
    ∃ components, HasComponents left components ∧ HasComponents right components

variable {spelling left right : Bytes} {first : Bytes} {rest pieces components : List Bytes}

/-- What stands between slashes has none inside. -/
theorem notMem_of_mem_splitOn {piece : Bytes} (member : piece ∈ spelling.splitOn slash) :
    slash ∉ piece := by
  induction spelling generalizing piece with
  | nil =>
    rw [List.splitOn_nil, List.mem_singleton] at member
    simp [member]
  | cons byte spelling ih =>
    rw [List.splitOn_cons_eq_if_modifyHead] at member
    by_cases same : byte = slash
    · rw [if_pos (beq_iff_eq.mpr same), List.mem_cons] at member
      rcases member with rfl | member
      · exact List.not_mem_nil
      · exact ih member
    · rw [if_neg (by simpa using same)] at member
      obtain ⟨head, others, cut⟩ := List.exists_cons_of_ne_nil (List.splitOn_ne_nil slash spelling)
      rw [cut, List.modifyHead_cons, List.mem_cons] at member
      rcases member with rfl | member
      · have whole : slash ∉ head := ih (cut ▸ List.mem_cons_self)
        simp [whole, Ne.symm same]
      · exact ih (cut ▸ List.mem_cons_of_mem _ member)

theorem arePieces_splitOn (spelling : Bytes) : ArePieces (spelling.splitOn slash) spelling where
  present := List.splitOn_ne_nil slash spelling
  whole := fun _ => notMem_of_mem_splitOn
  written := List.intercalate_splitOn slash

/-- The pieces of a spelling are those that it is cut into. -/
theorem ArePieces.eq_splitOn (arePieces : ArePieces pieces spelling) :
    pieces = spelling.splitOn slash := by
  rw [← arePieces.written, List.splitOn_intercalate slash arePieces.whole arePieces.present]

/-- A spelling that starts with a piece does not start at the root. -/
theorem ArePieces.not_isRooted (arePieces : ArePieces (first :: rest) spelling)
    (present : first ≠ []) : ¬IsRooted spelling := by
  obtain ⟨byte, others, rfl⟩ := List.exists_cons_of_ne_nil present
  have apart : slash ≠ byte :=
    List.ne_of_not_mem_cons (arePieces.whole _ List.mem_cons_self)
  have start : spelling.head? = some byte := by
    rw [← arePieces.written]
    cases rest <;> rfl
  rw [IsRooted, start, Option.some_inj]
  exact apart.symm

/-- Behind the first piece, a component is neither empty nor a dot. -/
theorem filter_zipIdx_one (spelling : Bytes) (rest : List Bytes) :
    ((rest.zipIdx 1).filter fun placed => IsComponent spelling placed.1 placed.2).map Prod.fst =
      rest.filter fun piece => piece != [] && piece != dot := by
  have same : ∀ placed ∈ rest.zipIdx 1, decide (IsComponent spelling placed.1 placed.2) =
      (placed.1 != [] && placed.1 != dot) := by
    rintro ⟨piece, position⟩ member
    have behind : position ≠ 0 := by
      have := List.le_snd_of_mem_zipIdx member
      omega
    rw [Bool.eq_iff_iff]
    simp [IsComponent, behind]
  rw [List.filter_congr same]
  have kept : ((rest.zipIdx 1).map Prod.fst).filter (fun piece => piece != [] && piece != dot) =
      ((rest.zipIdx 1).filter fun placed => placed.1 != [] && placed.1 != dot).map Prod.fst :=
    List.filter_map
  rw [← kept, List.zipIdx_map_fst]

/-- The first piece is a component unless it is empty. -/
theorem ArePieces.filter_first (arePieces : ArePieces (first :: rest) spelling) :
    ([(first, 0)].filter fun placed => IsComponent spelling placed.1 placed.2).map Prod.fst =
      [first].filter (· != []) := by
  by_cases present : first = []
  · simp [present, IsComponent]
  · simp [present, IsComponent, arePieces.not_isRooted present]

/-- Each spelling has one sequence of components, which the path consists of. -/
theorem hasComponents_iff :
    HasComponents spelling components ↔ components = (ofBytes spelling).components := by
  obtain ⟨first, rest, cut⟩ := List.exists_cons_of_ne_nil (List.splitOn_ne_nil slash spelling)
  have arePieces : ArePieces (first :: rest) spelling := cut ▸ arePieces_splitOn spelling
  have found : (((first :: rest).zipIdx.filter fun placed =>
      IsComponent spelling placed.1 placed.2).map Prod.fst) = (ofBytes spelling).components := by
    rw [List.zipIdx_cons, ← List.singleton_append, List.filter_append, List.map_append,
      arePieces.filter_first, filter_zipIdx_one, ofBytes, cut]
  constructor
  · rintro ⟨pieces, others, rfl⟩
    rw [others.eq_splitOn, cut, found]
  · rintro rfl
    exact ⟨_, arePieces, found.symm⟩

theorem isAbsolute_ofBytes (spelling : Bytes) :
    (ofBytes spelling).isAbsolute = true ↔ IsRooted spelling := by
  obtain ⟨first, rest, cut⟩ := List.exists_cons_of_ne_nil (List.splitOn_ne_nil slash spelling)
  rw [ofBytes, cut, IsRooted, beq_iff_eq]

/-- Spellings are read as one path exactly if they are one. -/
theorem samePath_iff : SamePath left right ↔ ofBytes left = ofBytes right := by
  have extensional : ofBytes left = ofBytes right ↔
      (ofBytes left).isAbsolute = (ofBytes right).isAbsolute ∧
        (ofBytes left).components = (ofBytes right).components := by
    generalize ofBytes left = leftPath
    generalize ofBytes right = rightPath
    cases leftPath
    cases rightPath
    exact ScriptPath.mk.injEq .. ▸ Iff.rfl
  rw [extensional, SamePath, Bool.eq_iff_iff, isAbsolute_ofBytes, isAbsolute_ofBytes]
  simp [hasComponents_iff]

instance (left right : Bytes) : Decidable (SamePath left right) :=
  decidable_of_iff _ samePath_iff.symm

theorem samePath_equivalence : Equivalence SamePath where
  refl := fun _ => samePath_iff.mpr rfl
  symm := fun same => samePath_iff.mpr (samePath_iff.mp same).symm
  trans := fun first second =>
    samePath_iff.mpr ((samePath_iff.mp first).trans (samePath_iff.mp second))

/-! ## Respellings -/

/-- What comes behind a slash adds its components, and no dot is one of them. -/
theorem components_append (left right : Bytes) :
    (ofBytes (left ++ slash :: right)).components =
      (ofBytes left).components ++
        (right.splitOn slash).filter fun piece => piece != [] && piece != dot := by
  obtain ⟨first, rest, cut⟩ := List.exists_cons_of_ne_nil (List.splitOn_ne_nil slash left)
  simp only [ofBytes, List.splitOn_append_cons_self, cut, List.cons_append, List.filter_append,
    List.append_assoc]

/-- Nothing, or a dot, may stand between two slashes. -/
theorem samePath_between (left right : Bytes) {piece : Bytes} (idle : piece = [] ∨ piece = dot) :
    SamePath (left ++ slash :: (piece ++ slash :: right)) (left ++ slash :: right) := by
  have nothing : (piece.splitOn slash).filter (fun piece => piece != [] && piece != dot) = [] := by
    rcases idle with rfl | rfl <;> decide
  refine ⟨?_, _, hasComponents_iff.mpr rfl, hasComponents_iff.mpr ?_⟩
  · cases left <;> simp [IsRooted]
  · rw [components_append, components_append, List.splitOn_append_cons_self, List.filter_append,
      nothing, List.nil_append]

/-- Nothing, or a dot, may stand behind a slash at the end, if something stands before it. -/
theorem samePath_behind {spelling piece : Bytes} (present : spelling ≠ [])
    (idle : piece = [] ∨ piece = dot) : SamePath (spelling ++ slash :: piece) spelling := by
  have nothing : (piece.splitOn slash).filter (fun piece => piece != [] && piece != dot) = [] := by
    rcases idle with rfl | rfl <;> decide
  refine ⟨?_, _, hasComponents_iff.mpr rfl, hasComponents_iff.mpr ?_⟩
  · cases spelling with
    | nil => exact absurd rfl present
    | cons byte spelling => rfl
  · rw [components_append, nothing, List.append_nil]

example : SamePath (Bytes.ofString "/etc//./import.lua/") (Bytes.ofString "/etc/import.lua") ∧
    ¬SamePath (Bytes.ofString "./import.lua") (Bytes.ofString "import.lua") ∧
    ¬SamePath (Bytes.ofString "etc/../import.lua") (Bytes.ofString "import.lua") := by
  decide +kernel

end ScriptPath

/-! ## Reads and inserts -/

namespace ScriptStore

open ScriptPath

variable {store : ScriptStore} {written spelling contents stored : Bytes}
  {inserts : List (Bytes × Bytes)}

theorem lookup_filter_ne {files : List (ScriptPath × Bytes)} {path other : ScriptPath}
    (apart : other ≠ path) :
    (files.filter fun file => file.1 != path).lookup other = files.lookup other := by
  induction files with
  | nil => rfl
  | cons file files ih =>
    by_cases replaced : file.1 = path
    · have unlike : (other == file.1) = false := by simpa [replaced] using apart
      rw [List.filter_cons_of_neg (by simpa using replaced), ih, List.lookup_cons, unlike]
    · rw [List.filter_cons_of_pos (by simpa using replaced), List.lookup_cons, List.lookup_cons, ih]

/-- An insert is read under each spelling of its path, and what other paths hold stays as it
was. -/
theorem readAt_insertAt (store : ScriptStore) (written contents spelling : Bytes) :
    (store.insertAt written contents).readAt spelling =
      if ofBytes written = ofBytes spelling then .ok contents else store.readAt spelling := by
  rw [insertAt, readAt, List.lookup_cons]
  by_cases same : ofBytes written = ofBytes spelling
  · rw [if_pos same, same, beq_self_eq_true]
  · have unlike : (ofBytes spelling == ofBytes written) = false := by
      simpa using Ne.symm same
    rw [if_neg same, unlike, lookup_filter_ne (Ne.symm same)]
    rfl

/-- What is left of a store after some inserts, the first of them made first. -/
def insertAll (store : ScriptStore) (inserts : List (Bytes × Bytes)) : ScriptStore :=
  inserts.foldl (fun store insert => store.insertAt insert.1 insert.2) store

/-- Inserts under other paths do not matter to what is read. -/
theorem readAt_insertAll_of_apart (store : ScriptStore)
    (apart : ∀ insert ∈ inserts, ¬SamePath insert.1 spelling) :
    (store.insertAll inserts).readAt spelling = store.readAt spelling := by
  induction inserts generalizing store with
  | nil => rfl
  | cons insert inserts ih =>
    obtain ⟨here, there⟩ := List.forall_mem_cons.mp apart
    calc (store.insertAll (insert :: inserts)).readAt spelling
      _ = (store.insertAt insert.1 insert.2).readAt spelling := ih _ there
      _ = store.readAt spelling := by
        rw [readAt_insertAt, if_neg (mt samePath_iff.mpr here)]

/-- The contents that were stored last under a path. -/
def IsLatest (spelling contents : Bytes) (inserts : List (Bytes × Bytes)) : Prop :=
  ∃ earlier written later, inserts = earlier ++ (written, contents) :: later ∧
    SamePath written spelling ∧ ∀ insert ∈ later, ¬SamePath insert.1 spelling

theorem IsLatest.readAt_insertAll (store : ScriptStore)
    (latest : IsLatest spelling contents inserts) :
    (store.insertAll inserts).readAt spelling = .ok contents := by
  obtain ⟨earlier, written, later, rfl, same, apart⟩ := latest
  have split : store.insertAll (earlier ++ (written, contents) :: later) =
      ((store.insertAll earlier).insertAt written contents).insertAll later := List.foldl_append
  rw [split, readAt_insertAll_of_apart _ apart, readAt_insertAt, if_pos (samePath_iff.mp same)]

/-- If anything was stored under a path, there is what was stored last. -/
theorem exists_isLatest_or_apart (spelling : Bytes) (inserts : List (Bytes × Bytes)) :
    (∃ contents, IsLatest spelling contents inserts) ∨
      ∀ insert ∈ inserts, ¬SamePath insert.1 spelling := by
  induction inserts with
  | nil => exact .inr (by simp)
  | cons insert inserts ih =>
    rcases ih with ⟨contents, earlier, written, later, rfl, same, apart⟩ | apart
    · exact .inl ⟨contents, insert :: earlier, written, later, rfl, same, apart⟩
    · by_cases same : SamePath insert.1 spelling
      · exact .inl ⟨insert.2, [], insert.1, inserts, rfl, same, apart⟩
      · exact .inr (List.forall_mem_cons.mpr ⟨same, apart⟩)

/-- What is read is what was stored last. -/
theorem readAt_insertAll_eq_ok_iff :
    (insertAll {} inserts).readAt spelling = .ok contents ↔ IsLatest spelling contents inserts := by
  refine ⟨fun read => ?_, fun latest => latest.readAt_insertAll {}⟩
  rcases exists_isLatest_or_apart spelling inserts with ⟨found, latest⟩ | apart
  · rw [latest.readAt_insertAll {}, Except.ok.injEq] at read
    exact read ▸ latest
  · rw [readAt_insertAll_of_apart {} apart] at read
    cases read

/-- Nothing is found exactly if nothing was stored under the path. -/
theorem readAt_insertAll_eq_error_iff {failure : ReadFailure} :
    (insertAll {} inserts).readAt spelling = .error failure ↔
      failure = .notFound spelling ∧ ∀ insert ∈ inserts, ¬SamePath insert.1 spelling := by
  constructor
  · intro read
    rcases exists_isLatest_or_apart spelling inserts with ⟨found, latest⟩ | apart
    · rw [latest.readAt_insertAll {}] at read
      cases read
    · rw [readAt_insertAll_of_apart {} apart] at read
      cases read
      exact ⟨rfl, apart⟩
  · rintro ⟨rfl, apart⟩
    exact readAt_insertAll_of_apart {} apart

/-- The store is a map over paths.  After any inserts, what is read is what was stored last under
some spelling of the path, and it is missing exactly if nothing was stored under the path.  In any
store, an insert overwrites what all spellings of its path are read as, and leaves what other paths
are read as.  To be spellings of one path is an equivalence, and no read tells them apart. -/
theorem readAt_latest :
    (∀ (inserts : List (Bytes × Bytes)) (spelling : Bytes),
      (∀ contents, (insertAll {} inserts).readAt spelling = .ok contents ↔
        IsLatest spelling contents inserts) ∧
      ∀ failure, (insertAll {} inserts).readAt spelling = .error failure ↔
        failure = .notFound spelling ∧ ∀ insert ∈ inserts, ¬SamePath insert.1 spelling) ∧
    (∀ (store : ScriptStore) (written contents spelling : Bytes),
      (SamePath written spelling →
        (store.insertAt written contents).readAt spelling = .ok contents) ∧
      (¬SamePath written spelling →
        (store.insertAt written contents).readAt spelling = store.readAt spelling)) ∧
    Equivalence SamePath ∧
    ∀ (store : ScriptStore) (left right : Bytes), SamePath left right →
      ∀ contents, store.readAt left = .ok contents ↔ store.readAt right = .ok contents := by
  refine ⟨fun inserts spelling => ⟨fun contents => readAt_insertAll_eq_ok_iff,
    fun failure => readAt_insertAll_eq_error_iff⟩, fun store written contents spelling => ⟨?_, ?_⟩,
    samePath_equivalence, fun store left right same contents => ?_⟩
  · intro same
    rw [readAt_insertAt, if_pos (samePath_iff.mp same)]
  · intro apart
    rw [readAt_insertAt, if_neg (mt samePath_iff.mpr apart)]
  · rw [readAt, readAt, samePath_iff.mp same]
    cases store.files.lookup (ofBytes right) <;> simp

end ScriptStore

end MediaImport.Importer
