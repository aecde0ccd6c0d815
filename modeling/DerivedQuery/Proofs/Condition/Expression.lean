import DerivedQuery.Query.Operator
import Mathlib.Data.List.Chain

/-!
# Boolean expressions over opaque conditions

What stands behind `WHERE`, with every condition taken as one symbol. `read` reads a sequence of
symbols the way a database does: `AND` binds tighter than `OR`, and parentheses group. Conditions
joined by one connective become one group with all of them as members, and what stands between
parentheses is a member of its own.

`Expression.symbols` writes an expression down with parentheses around nested groups only. The two
main statements:

> `read_topSymbols`: an expression that is written down is read back as it was, but for groups
> of a single member, which are that member.

> `wellFormed_of_read`: whatever can be read has balanced parentheses, none of them empty, and no
> connective without a member on both sides.
-/

namespace DerivedQuery

variable {α : Type}

/-- A symbol of a boolean expression. -/
inductive Symbol (α : Type)
  | atom (a : α)
  | connective (op : Connective)
  | opening
  | closing
deriving DecidableEq, Repr

/-- A boolean expression in which a connective joins any number of members. -/
inductive Expression (α : Type)
  | leaf (a : α)
  | group (op : Connective) (members : List (Expression α))
deriving Repr

namespace Expression

mutual

/-- The leaves from left to right. -/
def leaves : Expression α → List α
  | leaf a => [a]
  | group _ members => leavesAll members

/-- The leaves of several expressions from left to right. -/
def leavesAll : List (Expression α) → List α
  | [] => []
  | e :: es => e.leaves ++ leavesAll es

end

theorem mem_leavesAll {es : List (Expression α)} {a : α} :
    a ∈ leavesAll es ↔ ∃ e ∈ es, a ∈ e.leaves := by
  induction es with
  | nil => simp [leavesAll]
  | cons e es ih => simp [leavesAll, ih]

mutual

/-- Whether every group has a member. -/
def Full : Expression α → Prop
  | leaf _ => True
  | group _ members => members ≠ [] ∧ FullAll members

/-- Whether every group in several expressions has a member. -/
def FullAll : List (Expression α) → Prop
  | [] => True
  | e :: es => e.Full ∧ FullAll es

end

/-- The members joined by a connective; a single one stands for itself. -/
def joinedBy (op : Connective) : List (Expression α) → Expression α
  | [e] => e
  | es => group op es

mutual

/-- The expression without groups of a single member. -/
def simplified : Expression α → Expression α
  | leaf a => leaf a
  | group op members => joinedBy op (simplifiedAll members)

/-- Several expressions without groups of a single member. -/
def simplifiedAll : List (Expression α) → List (Expression α)
  | [] => []
  | e :: es => e.simplified :: simplifiedAll es

end

mutual

/-- The expression as a member of a group: a group inside it stands in parentheses. -/
def symbols : Expression α → List (Symbol α)
  | leaf a => [.atom a]
  | group op members => .opening :: (joinedSymbols op members ++ [.closing])

/-- The members of a group with the connective between them. -/
def joinedSymbols (op : Connective) : List (Expression α) → List (Symbol α)
  | [] => []
  | e :: es => e.symbols ++ ledSymbols op es

/-- Members that each have the connective in front. -/
def ledSymbols (op : Connective) : List (Expression α) → List (Symbol α)
  | [] => []
  | e :: es => .connective op :: (e.symbols ++ ledSymbols op es)

end

/-- The expression on its own, without parentheses around all of it. -/
def topSymbols : Expression α → List (Symbol α)
  | leaf a => [.atom a]
  | group op members => joinedSymbols op members

end Expression

/-! ## Reading -/

open Expression

/-- What has been read between a pair of parentheses: the members that an `OR` has closed, and
the chain of `AND`s after them. -/
structure Frame (α : Type) where
  alternatives : List (Expression α) := []
  chain : List (Expression α) := []
deriving Repr

namespace Frame

/-- The frame with one more member at the end of its chain. -/
def add (f : Frame α) (e : Expression α) : Frame α := { f with chain := f.chain ++ [e] }

/-- The frame with its chain closed by an `OR`. -/
def next (f : Frame α) : Frame α := ⟨f.alternatives ++ [joinedBy .and f.chain], []⟩

/-- What the frame comes to at the end of the parentheses. -/
def value (f : Frame α) : Expression α := joinedBy .or f.next.alternatives

end Frame

/-- A reader inside parentheses: the frame of the innermost pair and those around it. -/
structure Reader (α : Type) where
  frame : Frame α := {}
  outer : List (Frame α) := []
  /-- Whether a member has to follow, and not a connective or the end. -/
  awaiting : Bool := true
deriving Repr

/-- The reader after one more symbol, if the symbol can stand there. -/
def Reader.step : Reader α → Symbol α → Option (Reader α)
  | ⟨f, outer, true⟩, .atom a => some ⟨f.add (leaf a), outer, false⟩
  | ⟨f, outer, true⟩, .opening => some ⟨{}, f :: outer, true⟩
  | ⟨f, outer, false⟩, .connective .and => some ⟨f, outer, true⟩
  | ⟨f, outer, false⟩, .connective .or => some ⟨f.next, outer, true⟩
  | ⟨f, g :: outer, false⟩, .closing => some ⟨g.add f.value, outer, false⟩
  | _, _ => none

/-- The expression that symbols stand for, if they stand for one. -/
def read (s : List (Symbol α)) : Option (Expression α) :=
  match s.foldlM Reader.step {} with
  | some ⟨f, [], false⟩ => some f.value
  | _ => none

/-! ## Written expressions are read back -/

/-- Members of a conjunction, each with its `AND` in front, end up in the chain, as far as each
member by itself does. -/
theorem foldlM_ledSymbols_and {es : List (Expression α)}
    (hes : ∀ e ∈ es, ∀ (f : Frame α) (outer : List (Frame α)),
      e.symbols.foldlM Reader.step ⟨f, outer, true⟩ = some ⟨f.add e.simplified, outer, false⟩)
    (f : Frame α) (outer : List (Frame α)) :
    (ledSymbols .and es).foldlM Reader.step ⟨f, outer, false⟩ =
      some ⟨{ f with chain := f.chain ++ simplifiedAll es }, outer, false⟩ := by
  induction es generalizing f with
  | nil => simp [ledSymbols, simplifiedAll]
  | cons e es ih =>
    have hrest := ih (fun e' he' => hes e' (List.mem_cons_of_mem e he')) (f.add e.simplified)
    simp only [ledSymbols, List.foldlM_cons, List.foldlM_append, Reader.step, Option.bind_eq_bind,
      Option.bind_some, hes e List.mem_cons_self, hrest]
    simp [Frame.add, simplifiedAll]

/-- Members of a disjunction, each with its `OR` in front, end up behind those already read. -/
theorem foldlM_ledSymbols_or {es : List (Expression α)}
    (hes : ∀ e ∈ es, ∀ (f : Frame α) (outer : List (Frame α)),
      e.symbols.foldlM Reader.step ⟨f, outer, true⟩ = some ⟨f.add e.simplified, outer, false⟩)
    (before : List (Expression α)) (last : Expression α) (outer : List (Frame α)) :
    ∃ f : Frame α, (ledSymbols .or es).foldlM Reader.step ⟨⟨before, [last]⟩, outer, false⟩ =
        some ⟨f, outer, false⟩ ∧
      f.next.alternatives = before ++ last :: simplifiedAll es := by
  induction es generalizing before last with
  | nil => exact ⟨⟨before, [last]⟩, rfl, rfl⟩
  | cons e es ih =>
    obtain ⟨f, hf, hvalue⟩ :=
      ih (fun e' he' => hes e' (List.mem_cons_of_mem e he')) (before ++ [last]) e.simplified
    refine ⟨f, ?_, by rw [hvalue]; simp [simplifiedAll]⟩
    simp only [ledSymbols, List.foldlM_cons, List.foldlM_append, Reader.step, Option.bind_eq_bind,
      Option.bind_some, hes e List.mem_cons_self]
    exact hf

/-- The members of a group are read as the group, between any parentheses. -/
theorem foldlM_joinedSymbols {es : List (Expression α)}
    (hes : ∀ e ∈ es, ∀ (f : Frame α) (outer : List (Frame α)),
      e.symbols.foldlM Reader.step ⟨f, outer, true⟩ = some ⟨f.add e.simplified, outer, false⟩)
    (hne : es ≠ []) (op : Connective) (outer : List (Frame α)) :
    ∃ f : Frame α, (joinedSymbols op es).foldlM Reader.step ⟨{}, outer, true⟩ =
        some ⟨f, outer, false⟩ ∧ f.value = joinedBy op (simplifiedAll es) := by
  cases es with
  | nil => exact absurd rfl hne
  | cons e es =>
    have hrest : ∀ e' ∈ es, _ := fun e' he' => hes e' (List.mem_cons_of_mem e he')
    simp only [joinedSymbols, List.foldlM_append, hes e List.mem_cons_self, Option.bind_eq_bind,
      Option.bind_some]
    cases op with
    | and =>
      refine ⟨_, foldlM_ledSymbols_and hrest _ outer, ?_⟩
      simp [Frame.value, Frame.next, Frame.add, joinedBy, simplifiedAll]
    | or =>
      obtain ⟨f, hf, hvalue⟩ := foldlM_ledSymbols_or hrest [] e.simplified outer
      refine ⟨f, hf, ?_⟩
      rw [Frame.value, hvalue]
      rfl

mutual

/-- Reading a member adds it to the frame, whatever stands around it. -/
theorem foldlM_symbols (e : Expression α) (h : e.Full) (f : Frame α) (outer : List (Frame α)) :
    e.symbols.foldlM Reader.step ⟨f, outer, true⟩ = some ⟨f.add e.simplified, outer, false⟩ := by
  match e with
  | leaf a => rfl
  | group op members =>
    obtain ⟨hne, hfull⟩ := h
    obtain ⟨g, hg, hvalue⟩ :=
      foldlM_joinedSymbols (foldlM_symbolsAll members hfull) hne op (f :: outer)
    simp only [symbols, List.foldlM_cons, List.foldlM_append, List.foldlM_nil, Reader.step,
      Option.bind_eq_bind, Option.bind_some, hg, hvalue]
    rfl

theorem foldlM_symbolsAll (es : List (Expression α)) (h : FullAll es) :
    ∀ e ∈ es, ∀ (f : Frame α) (outer : List (Frame α)),
      e.symbols.foldlM Reader.step ⟨f, outer, true⟩ = some ⟨f.add e.simplified, outer, false⟩ := by
  match es with
  | [] => intro e he; cases he
  | e :: es =>
    intro e' he'
    rcases List.mem_cons.mp he' with heq | hin
    · rw [heq]
      exact foldlM_symbols e h.1
    · exact foldlM_symbolsAll es h.2 e' hin

end

/-- **An expression is read back as it was**, but for groups of a single member. -/
theorem read_topSymbols {e : Expression α} (h : e.Full) :
    read e.topSymbols = some e.simplified := by
  cases e with
  | leaf a => rfl
  | group op members =>
    obtain ⟨hne, hfull⟩ := h
    obtain ⟨f, hf, hvalue⟩ := foldlM_joinedSymbols (foldlM_symbolsAll members hfull) hne op []
    rw [read, topSymbols, hf]
    exact congrArg some hvalue

/-! ## Whatever is read is well formed -/

namespace Symbol

/-- Whether a member can start with the symbol. -/
def startsMember : Symbol α → Bool
  | atom _ | opening => true
  | connective _ | closing => false

/-- Whether a member can end with the symbol. -/
def endsMember : Symbol α → Bool
  | atom _ | closing => true
  | connective _ | opening => false

/-- Whether the symbol opens parentheses. -/
def opens : Symbol α → Bool
  | opening => true
  | _ => false

/-- Whether the symbol closes parentheses. -/
def closes : Symbol α → Bool
  | closing => true
  | _ => false

end Symbol

/-- Symbols with balanced parentheses, none of them empty, in which no connective stands first,
last or behind another one, also inside parentheses. -/
structure WellFormed (s : List (Symbol α)) : Prop where
  nonempty : s ≠ []
  first : ∀ x ∈ s.head?, x.startsMember = true
  last : ∀ x ∈ s.getLast?, x.endsMember = true
  /-- A member follows on a connective and on an opening parenthesis, and on nothing else. -/
  adjacent : s.IsChain fun x y => y.startsMember = !x.endsMember
  /-- No parenthesis is closed that was not opened before. -/
  opened : ∀ p, p <+: s → p.countP Symbol.closes ≤ p.countP Symbol.opens
  /-- Every parenthesis that was opened is closed. -/
  closed : s.countP Symbol.closes = s.countP Symbol.opens

/-- Everything a step does: the symbol is one that was awaited, and the depth follows it. -/
theorem Reader.step_eq_some {r r' : Reader α} {x : Symbol α} (h : r.step x = some r') :
    x.startsMember = r.awaiting ∧ r'.awaiting = !x.endsMember ∧
      r'.outer.length + [x].countP Symbol.closes = r.outer.length + [x].countP Symbol.opens := by
  unfold Reader.step at h
  split at h
  all_goals first
    | (cases h; simp [Symbol.startsMember, Symbol.endsMember, Symbol.opens, Symbol.closes])
    | cases h

/-- The depth of a reader is the number of parentheses that are open. -/
theorem length_outer_of_foldlM {s : List (Symbol α)} {r r' : Reader α}
    (h : s.foldlM Reader.step r = some r') :
    r'.outer.length + s.countP Symbol.closes = r.outer.length + s.countP Symbol.opens := by
  induction s generalizing r with
  | nil => cases h; simp
  | cons x s ih =>
    rw [List.foldlM_cons, Option.bind_eq_bind, Option.bind_eq_some_iff] at h
    obtain ⟨r₁, hx, hs⟩ := h
    obtain ⟨-, -, hdepth⟩ := Reader.step_eq_some hx
    have := ih hs
    rw [← List.singleton_append, List.countP_append, List.countP_append]
    omega

/-- Every symbol that is read is one that was awaited at its place. -/
theorem awaiting_of_foldlM {s : List (Symbol α)} {r r' : Reader α}
    (h : s.foldlM Reader.step r = some r') :
    (∀ x ∈ s.head?, x.startsMember = r.awaiting) ∧
      s.IsChain (fun x y => y.startsMember = !x.endsMember) ∧
      (s = [] → r'.awaiting = r.awaiting) ∧ ∀ x ∈ s.getLast?, r'.awaiting = !x.endsMember := by
  induction s generalizing r with
  | nil => cases h; simp
  | cons x s ih =>
    rw [List.foldlM_cons, Option.bind_eq_bind, Option.bind_eq_some_iff] at h
    obtain ⟨r₁, hx, hs⟩ := h
    obtain ⟨hstart, hend, -⟩ := Reader.step_eq_some hx
    obtain ⟨hfirst, hchain, hnil, hlast⟩ := ih hs
    refine ⟨by simpa using hstart, ?_, by simp, ?_⟩
    · rw [List.isChain_cons]
      exact ⟨fun y hy => (hfirst y hy).trans hend, hchain⟩
    · cases s with
      | nil => simpa [hnil rfl] using hend
      | cons y s => simpa using hlast

/-- Whatever can be read is well formed. -/
theorem wellFormed_of_read {s : List (Symbol α)} {e : Expression α} (h : read s = some e) :
    WellFormed s := by
  unfold read at h
  split at h
  case h_2 => cases h
  case h_1 f hrun =>
    obtain ⟨hfirst, hchain, hnil, hlast⟩ := awaiting_of_foldlM hrun
    refine ⟨fun hs => ?_, hfirst, fun x hx => ?_, hchain, fun p hp => ?_, ?_⟩
    · simpa using hnil hs
    · simpa using (hlast x hx).symm
    · obtain ⟨q, rfl⟩ := hp
      rw [List.foldlM_append, Option.bind_eq_bind, Option.bind_eq_some_iff] at hrun
      obtain ⟨r, hr, -⟩ := hrun
      have := length_outer_of_foldlM hr
      simp only [List.length_nil] at this
      omega
    · simpa using length_outer_of_foldlM hrun

end DerivedQuery
