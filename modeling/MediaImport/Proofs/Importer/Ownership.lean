import MediaImport.Proofs.Importer.LiveContexts

/-!
# Whose interpreter a context uses

A context finds its interpreter by name.  As long as nobody takes an interpreter of that name
away, the one it finds is its own, and it is the only one that the context ever changes or
removes.  Once it was taken away, no interpreter is the context's own any more, but the context
is as live as before: it uses, and in the end removes, whatever somebody else has made under the
name since.
-/

namespace MediaImport

open MediaImport.Importer MediaImport.Media MediaImport.Script

namespace Importer

variable {importer : Importer}

/-- Without an interpreter under its name, a context cannot be used. -/
theorem use_of_missing {α : Type} {context : Context}
    (missing : importer.interpreters[context.name]? = none) (work : Work α) :
    importer.use context work =
      (.error (.setup (.contextMissing context.name)), importer.relocked) := by
  have held : { importer with lock := importer.lock.acquire }.interpreters[context.name]? =
      none := missing
  simp only [use, locked, workOn_of_missing held]
  rfl

theorem process_of_missing {context : Context}
    (missing : importer.interpreters[context.name]? = none) (object : Object) :
    importer.process context object =
      (.error (.setup (.contextMissing context.name)), importer.relocked) := by
  have held : { importer with lock := importer.lock.acquire }.interpreters[context.name]? =
      none := missing
  simp only [process, locked, slot, held]
  rfl

end Importer

namespace Session

variable {session : Session}

/-- Whatever a context does, be it its last deed, stays under its name. -/
theorem elsewhere_next (session : Session) {deed : Deed} {context : Context}
    (done : deed.worker? = some context ∨ deed = .drop context) {name : String}
    (apart : name ≠ context.name) :
    (session.next deed).importer.interpreters[name]? = session.importer.interpreters[name]? := by
  rcases done with works | rfl
  · exact (session.works_next works).importer.elsewhere name apart
  · exact (interpreters_drop session.importer context name).trans (if_neg apart)

/-- The interpreter under the name of a live context is the context's own exactly if nobody took
one of that name away since the context was made, and otherwise no interpreter is.  What the
context does changes no interpreter but the one under its name, so only its own as long as it has
one; to drop it removes exactly what stands under its name.  If nothing does, the context can
neither load nor run nor process anything. -/
theorem Reachable.ownership (reachable : session.Reachable fun _ => True) {context : Context}
    (live : context ∈ session.live) :
    (session.importer.owner context.name = some (some context.environment) ↔
      context ∈ session.intact) ∧
    (context ∉ session.intact →
      ∀ name, session.importer.owner name ≠ some (some context.environment)) ∧
    (∀ deed : Deed, deed.worker? = some context ∨ deed = .drop context → ∀ name,
      (session.next deed).importer.interpreters[name]? ≠ session.importer.interpreters[name]? →
        name = context.name ∧ (context ∈ session.intact →
          session.importer.owner name = some (some context.environment))) ∧
    (session.next (.drop context)).importer.interpreters[context.name]? = none ∧
    (context.name ∉ session.importer.interpreters →
      (session.importer.execute context).1 = .error (.setup (.contextMissing context.name)) ∧
      (∀ object, (session.importer.process context object).1 =
        .error (.setup (.contextMissing context.name))) ∧
      ∀ source path, (session.importer.load source context path).1 ≠ .ok ()) := by
  have accounted := reachable.accounted
  have own := accounted.owned context.name context.environment
  refine ⟨own, ?_, ?_, ?_, ?_⟩
  · intro lost name owned
    have intact := (accounted.owned name context.environment).mp owned
    -- There is only one live context with that number.
    have same := accounted.apart _ (accounted.held _ intact) context live rfl
    exact lost (same ▸ intact)
  · intro deed done name changed
    have here : name = context.name := by
      by_contra apart
      exact changed (session.elsewhere_next done apart)
    exact ⟨here, fun intact => here ▸ own.mpr intact⟩
  · exact (interpreters_drop session.importer context context.name).trans (if_pos rfl)
  · intro missing
    have nothing := Std.ExtTreeMap.getElem?_eq_none missing
    refine ⟨congrArg Prod.fst (use_of_missing nothing Work.runProgram),
      fun object => congrArg Prod.fst (process_of_missing nothing object), ?_⟩
    intro source path loaded
    unfold Importer.load at loaded
    split at loaded
    · cases loaded
    · next text read =>
      have failed := congrArg Prod.fst (use_of_missing nothing (Work.load path text))
      cases failed.symm.trans loaded

/-! ### A context whose interpreter was replaced -/

/-- The interpreter of a context is destroyed, and somebody makes another under its name. -/
def strangeSession : Session :=
  (madeSession.next (.destroy "import")).next (.createBare "import" .basic)

theorem mixed_madeSession : madeSession.Reachable fun _ => True :=
  (Reachable.start {}).next trivial trivial

theorem reachable_strangeSession : strangeSession.Reachable fun _ => True := by
  have destroyed : (madeSession.next (.destroy "import")).Reachable fun _ => True :=
    mixed_madeSession.next trivial trivial
  exact destroyed.next trivial trivial

theorem live_strangeSession : ⟨"import", 0⟩ ∈ strangeSession.live :=
  mem_live_madeSession

theorem slot_strangeSession : strangeSession.importer.interpreters["import"]? =
    some ⟨.initial .basic, none⟩ := by
  have destroyed : "import" ∉ (madeSession.next (.destroy "import")).importer.interpreters := by
    rw [← Importer.owner_eq_none_iff]
    exact (owner_destroyInterpreter _ "import" "import").trans (if_pos rfl)
  have made := congrArg (fun importer => importer.interpreters["import"]?)
    (createBare_of_new destroyed .basic {})
  exact made.trans Std.ExtTreeMap.getElem?_insert_self

theorem intact_strangeSession : strangeSession.intact = [] := by
  change madeSession.intact.filter (·.name ≠ "import") = []
  rw [intact_madeSession]
  rfl

/-- The context owns its interpreter at first.  After another has taken its place, the context
owns none, and removes that one when it is dropped. -/
theorem ownership_strangeSession :
    madeSession.importer.owner "import" = some (some 0) ∧
    (∀ name, strangeSession.importer.owner name ≠ some (some 0)) ∧
    (strangeSession.next (.drop ⟨"import", 0⟩)).importer.interpreters["import"]? = none := by
  have intact : ⟨"import", 0⟩ ∈ madeSession.intact := intact_madeSession ▸ List.mem_cons_self
  have lost : ⟨"import", 0⟩ ∉ strangeSession.intact := intact_strangeSession ▸ List.not_mem_nil
  obtain ⟨own, -⟩ := mixed_madeSession.ownership mem_live_madeSession
  obtain ⟨-, none, -, removed, -⟩ := reachable_strangeSession.ownership live_strangeSession
  exact ⟨own.mpr intact, none lost, removed⟩

/-- A live context does not own the interpreter that stands under its name, loads a program into
it all the same, and removes it when it is dropped. -/
theorem removes_strange :
    strangeSession.Reachable (fun _ => True) ∧ ⟨"import", 0⟩ ∈ strangeSession.live ∧
    strangeSession.importer.owner "import" = some none ∧
    (strangeSession.importer.load oneProgram ⟨"import", 0⟩ "/one.lua").1 = .ok () ∧
    (strangeSession.next (.drop ⟨"import", 0⟩)).importer.owner "import" = none := by
  obtain ⟨program, makes⟩ := program_oneProgram
    (strangeSession.importer.environmentOf ⟨"import", 0⟩).conversions
  refine ⟨reachable_strangeSession, live_strangeSession, ?_,
    (load_of_program slot_strangeSession makes).1, ?_⟩
  · rw [Importer.owner, slot_strangeSession]
    rfl
  · exact (owner_destroyInterpreter _ "import" "import").trans (if_pos rfl)

end Session

end MediaImport
