import DerivedQuery.Proofs.Record.FragmentTree
import DerivedQuery.Record.Document
import Mathlib.Data.List.Forall2

/-!
# Laws of text layers

What a notation has to do with texts for records to survive in it (`TextLayer.Lawful`): a tree that
was written is read back, unless it is nested too deeply, and nothing is ever read that is nested
deeper. To be read back means that the values of the notation are taken as what the tree says, part
by part (`Source.Shows`). Nothing is assumed about records: which fields they have, which of them
may be left out and what a fragment is, is up to their readers.
-/

namespace DerivedQuery.Record

/-- The nesting of a content: lists and maps have one level more than the values in them. -/
def Content.depth : Content → Nat
  | .list items => depthOfItems items + 1
  | .map entries => depthOfEntries entries + 1
  | _ => 0
where
  /-- The greatest nesting of the items. -/
  depthOfItems : List Content → Nat
    | [] => 0
    | c :: rest => max c.depth (depthOfItems rest)
  /-- The greatest nesting of the values of entries. -/
  depthOfEntries : List (Content × Content) → Nat
    | [] => 0
    | (_, c) :: rest => max c.depth (depthOfEntries rest)

namespace Source

variable {α : Type}

/-- A value shows a tree if it is taken as what the tree says. The fields of a record are found by
their names, wherever they stand and whatever other names are asked for. -/
inductive Shows (s : Source Option α) : Tree → α → Prop
  | text {value : String} {v : α} (htext : s.text? v = some value) (hword : s.word? v = some value)
      (hoptional : s.optional? v = some (some v)) : s.Shows (.text value) v
  | flag {value : Bool} {v : α} (hflag : s.flag? v = some value) : s.Shows (.flag value) v
  | list {items : List Tree} {v : α} {vs : List α} (htaken : s.items? v = some vs)
      (hitems : List.Forall₂ s.Shows items vs) : s.Shows (.list items) v
  | record {fields : List (String × Tree)} {v : α} {vs : List α}
      (hcontent : s.content? v = some (Tree.record fields).toContent)
      (hfields : List.Forall₂ s.Shows (fields.map (·.2)) vs)
      (htaken : ∀ names : List String, names.Nodup → (fields.map (·.1)).Nodup →
        s.fields? names v = some (names.map fun name => ((fields.map (·.1)).zip vs).lookup name)) :
      s.Shows (.record fields) v

/-- Whether lists and records can be entered from a value, one in the other, at most so many times,
and its content is nested no deeper. -/
def Within (s : Source Option α) : Nat → α → Prop
  | 0, v =>
    s.items? v = none ∧ (∀ names, s.fields? names v = none) ∧ ∀ c ∈ s.content? v, c.depth = 0
  | n + 1, v =>
    (∀ vs ∈ s.items? v, ∀ w ∈ vs, s.Within n w) ∧
      (∀ names, ∀ fields ∈ s.fields? names v, ∀ w, some w ∈ fields → s.Within n w) ∧
      ∀ c ∈ s.content? v, c.depth ≤ n + 1

end Source

/-- The laws of a text layer that reads down to a number of levels. -/
structure TextLayer.Lawful (l : TextLayer) (levels : Nat) : Prop where
  /-- What is written is read back, unless it is nested deeper. -/
  reads : ∀ (overLines : Bool) (t : Tree), t.toContent.depth ≤ levels →
    ∃ v, l.read? (l.print overLines t) = some v ∧ l.source.Shows t v
  /-- What is nested deeper is refused. -/
  refuses : ∀ text, ∀ v ∈ l.read? text, l.source.Within levels v

end DerivedQuery.Record
