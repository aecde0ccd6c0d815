import DerivedQuery.Record.Content

/-!
# Records in any notation

A record can be written in more than one notation. A `Source` is what a notation offers to the
reader of a record: how its values are taken as texts, flags, lists and fields. The record's reader
is written once over a source.

Taking a value can fail. A notation in which values refer to each other also keeps count of the
references that are followed, so the results are in a monad `m` of the notation's own, into which
an `Option` can be lifted.
-/

namespace DerivedQuery.Record

/-- How the values of a notation are taken. Each function fails for a value that is something
else. -/
structure Source (m : Type → Type) (α : Type) where
  text? : α → m String
  flag? : α → m Bool
  /-- The word for one of the cases of an enumeration. -/
  word? : α → m String
  /-- The value that an optional field holds, if it holds one. -/
  optional? : α → m (Option α)
  items? : α → m (List α)
  /-- The values of the named fields, in the order of the names. -/
  fields? : List String → α → m (List (Option α))
  /-- The value as the content of a fragment. -/
  content? : α → m Content

namespace Source

variable {m : Type → Type} [Monad m] [MonadLiftT Option m] {α β : Type}

/-- Fails, as a value is something else than it has to be. -/
def fail : m β := liftM (none : Option β)

/-- Reads a field that has to be there. -/
def required (read : α → m β) : Option α → m β
  | none => fail
  | some v => read v

/-- Reads a field that has a value of its own when it is missing. -/
def orDefault (missing : β) (read : α → m β) : Option α → m β
  | none => pure missing
  | some v => read v

/-- Reads a field that may hold nothing. -/
def optional (s : Source m α) (read : α → m β) : Option α → m (Option β)
  | none => pure none
  | some v => do
    match ← s.optional? v with
    | none => return none
    | some w => return some (← read w)

/-- Reads a list, each item by `read`. -/
def list (s : Source m α) (read : α → m β) (v : α) : m (List β) := do
  (← s.items? v).mapM read

/-- Reads one of the cases of an enumeration by its word. -/
def choice (s : Source m α) (cases : List (String × β)) (v : α) : m β := do
  let word ← s.word? v
  liftM (cases.lookup word)

/-- Reads a fragment. -/
def fragment (s : Source m α) (v : α) : m Fragment := do
  let content ← s.content? v
  liftM content.fragment?

end Source

end DerivedQuery.Record
