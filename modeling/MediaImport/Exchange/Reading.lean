import MediaImport.Exchange.Property
import MediaImport.Script.Operation

/-!
# Reading script tables

What is found out by reading properties of script tables one after another.  A
reading asks for one property at a time, so it does not matter to it how the
answers come about: from a fixed view of the tables (`Reading.under`), where
nothing can interfere, or from a running script, whose metatables may compute
the answers or refuse them (`Reading.behaviour`).
-/

namespace MediaImport.Exchange

open MediaImport.Script

/-- A plan for reading properties. -/
inductive Reading (α : Type) : Type where
  | done (value : α)
  | fail (failure : Failure)
  /-- Read a property of a table. -/
  | get (table : Nat) (key : String) (next : Value → Reading α)

namespace Reading

/-- Go on with another reading. -/
def bind {α β : Type} (first : Reading α) (rest : α → Reading β) : Reading β :=
  match first with
  | done value => rest value
  | fail failure => fail failure
  | get table key next => get table key fun value => (next value).bind rest

instance : Monad Reading where
  pure := done
  bind := bind

/-- A property of a table; what is not a table has no properties. -/
def property (table : Option Nat) (key : String) : Reading Value :=
  match table with
  | some id => get id key done
  | none => done .nil

/-- The outcome where every property has a fixed value. -/
def under {α : Type} (view : Nat → String → Value) : Reading α → Except Failure α
  | done value => .ok value
  | fail failure => .error failure
  | get table key next => (next (view table key)).under view

@[simp]
theorem under_pure {α : Type} (view : Nat → String → Value) (value : α) :
    (pure value : Reading α).under view = .ok value := rfl

@[simp]
theorem under_fail {α : Type} (view : Nat → String → Value) (failure : Failure) :
    (fail failure : Reading α).under view = .error failure := rfl

@[simp]
theorem under_bind {α β : Type} (view : Nat → String → Value) (first : Reading α)
    (rest : α → Reading β) :
    (first >>= rest).under view = (first.under view).bind fun value => (rest value).under view := by
  show (first.bind rest).under view = _
  induction first with
  | done value => rfl
  | fail failure => rfl
  | get table key next ih => exact ih (view table key)

@[simp]
theorem under_property (view : Nat → String → Value) (table : Option Nat) (key : String) :
    (property table key).under view = .ok (table.elim .nil fun id => view id key) := by
  cases table <;> rfl

/-- Reading as a part of a running script.  An error that a metatable raises
becomes a failure. -/
def behaviour {α : Type} : Reading α → Behaviour α
  | done value => .done value
  | fail failure => .fail failure
  | get table key next =>
    .attempt (.index (.table table) (.ofString key)) fun
      | .ok values => (next (Value.first values)).behaviour
      | .error error => surface error

end Reading

end MediaImport.Exchange
