import DerivedQuery.Proofs.MethodName.Classification
import DerivedQuery.Proofs.MethodName.Division

/-!
# A parser that has parsed once

A parser starts in front of the only operation of a name. Whatever becomes of the first call, it has
read the operation then (`behindOperation_parse`), so no later call finds one: it reads nothing and
reports the token it stands at, and so do all calls after it.

> `parseTimes_start`: the answers of any number of calls, and the token at which the parser stays.
-/

namespace DerivedQuery.MethodName

open DerivedQuery Cursor Grammar

/-! ## Behind the operation -/

/-- Whether a cursor of a name of the length `finish` stands behind the operation. -/
structure BehindOperation (finish : Nat) (c : Cursor) : Prop where
  inner : ∀ t ∈ c.ahead, t.kind.isInner = true
  finish_eq : c.finish = finish

section

variable {finish : Nat} {c : Cursor}

/-- No operation stands at the cursor, and the end only if nothing is ahead. -/
theorem BehindOperation.current (h : BehindOperation finish c) :
    (∀ op, c.current.kind ≠ .operation op) ∧
      (c.current.kind = .eof → c.current = Token.eof finish) := by
  unfold Cursor.current
  cases hahead : c.ahead with
  | nil =>
    rw [h.finish_eq]
    refine ⟨fun op hkind => ?_, fun _ => rfl⟩
    cases hkind
  | cons t rest =>
    have hinner : t.kind.isInner = true := h.inner t (by rw [hahead]; exact .head _)
    constructor
    · intro op hkind
      rw [show t.kind = .operation op from hkind] at hinner
      cases hinner
    · intro hkind
      rw [show t.kind = .eof from hkind] at hinner
      cases hinner

/-- A call from there reports the token at the cursor and stays. -/
theorem BehindOperation.parse_eq (h : BehindOperation finish c) :
    c.parse = (.error (.unexpectedToken c.current.text c.current.position), c) := by
  have hoperation : c.operation = .error ⟨.operation, c⟩ := by
    unfold Cursor.operation
    split
    · next op text position rest hahead =>
      refine absurd ?_ (h.current.1 op)
      rw [Cursor.current, hahead]
      rfl
    · rfl
  rw [Cursor.parse, Cursor.phrase, hoperation]
  rfl

/-- So do any number of calls. -/
theorem BehindOperation.parseTimes_eq (h : BehindOperation finish c) (count : Nat) :
    c.parseTimes count =
      List.replicate count (.error (.unexpectedToken c.current.text c.current.position)) := by
  induction count with
  | zero => rfl
  | succ count ih => rw [parseTimes, h.parse_eq, ih, List.replicate_succ]

end

/-! ## Where the first call ends -/

/-- At which token of a name a parser stands after an answer: at the end of the name if that is a
query or if a property is missing there, else at the token that the error names. -/
def StandsAt (name : String) (answer : Except ParseError Query) (found : Token) : Prop :=
  match answer with
  | .ok _ | .error (.danglingOperator _ _) => found = Token.eof name.length
  | .error (.emptyPropertyPath text position) | .error (.trailingTokens text position) =>
    found.text = text ∧ found.position = position
  | .error (.lex _) | .error (.unexpectedToken _ _) => False

section

variable {op : Operation} {text : String} {rest : List Token} {finish : Nat}

/-- What has been read includes the operation, unless this still stands at the cursor. -/
theorem Reads.behindOperation {u : List TokenKind} {c : Cursor}
    (h : Reads ⟨none, ⟨.operation op, text, 0⟩ :: rest, finish⟩ u c)
    (hinner : ∀ t ∈ rest, t.kind.isInner = true)
    (hmoved : u = [] → c.current.kind ≠ .operation op) : BehindOperation finish c := by
  obtain ⟨tokens, hahead, rfl, hfinish, -⟩ := h
  refine ⟨fun t ht => ?_, hfinish⟩
  cases tokens with
  | nil =>
    refine absurd ?_ (hmoved rfl)
    rw [Cursor.current, ← show _ = c.ahead from hahead]
    rfl
  | cons first tokens =>
    obtain ⟨-, hrest⟩ := List.cons.inj hahead
    exact hinner t (by rw [hrest]; exact List.mem_append_right _ ht)

/-- The first call ends behind the operation, at a token that fits its answer. -/
theorem behindOperation_parse {name : String} (hinner : ∀ t ∈ rest, t.kind.isInner = true) :
    let c : Cursor := ⟨none, ⟨.operation op, text, 0⟩ :: rest, name.length⟩
    BehindOperation name.length c.parse.2 ∧ StandsAt name c.parse.1 c.parse.2.current := by
  intro c
  obtain ⟨hok, herror⟩ := phrase_spec (c := c) rfl
  rw [Cursor.parse]
  cases hphrase : c.phrase with
  | ok result =>
    obtain ⟨p, last⟩ := result
    obtain ⟨u, hreads, -, hend⟩ := hok p last hphrase
    have hbehind : BehindOperation name.length last := by
      refine hreads.behindOperation hinner fun _ hoperation => ?_
      cases hend.symm.trans hoperation
    exact ⟨hbehind, hbehind.current.2 hend⟩
  | error stop =>
    -- the parser stopped in front of a token that cannot follow, as an operation can at first
    obtain ⟨u, t, hreads, hrun, hdead, hexpected⟩ : ∃ u t, Reads c u stop.place ∧
        run .start u = some t ∧ t.after stop.place.current.kind = none ∧
          stop.expected ≠ .operation := by
      rcases herror stop hphrase with hstopped | htrailing
      · obtain ⟨hexpected, u, t, hreads, -, hrun, hdead, -⟩ := hstopped
        exact ⟨u, t, hreads, hrun, hdead, by rw [hexpected]; decide⟩
      · obtain ⟨hexpected, u, t, hreads, -, hrun, hdead⟩ := htrailing
        exact ⟨u, t, hreads, hrun, hdead, by rw [hexpected]; decide⟩
    have hbehind : BehindOperation name.length stop.place := by
      refine hreads.behindOperation hinner fun hnone hoperation => ?_
      rw [hnone] at hrun
      cases hrun
      rw [hoperation] at hdead
      cases hdead
    refine ⟨hbehind, ?_⟩
    show StandsAt name (.error stop.error) stop.place.current
    unfold Stop.error
    split
    · next h => exact absurd h hexpected
    · exact ⟨rfl, rfl⟩
    · dsimp only
      split
      · next heof _ =>
        split
        · exact hbehind.current.2 heof
        · exact ⟨rfl, rfl⟩
      · exact ⟨rfl, rfl⟩

end

/-- **A parser that has parsed once stays put.** Of any number of calls from the start of a name,
the first one answers what parsing the name does. All others report one and the same unexpected
token, the one at which the first call stopped: the end of the name after a query and after a keyword
that misses its property at the end, and else the token that the first error names. -/
theorem parseTimes_start {name : String} {c : Cursor} (h : Cursor.start name = .ok c) :
    let found := c.parse.2.current
    StandsAt name (parse name) found ∧ ∀ count, c.parseTimes (count + 1) =
      parse name :: List.replicate count (.error (.unexpectedToken found.text found.position)) := by
  have hparse : parse name = c.parse.1 := by
    show Cursor.start name >>= _ = _
    rw [h]
    rfl
  obtain ⟨op, text, rest, rfl, hinner⟩ : ∃ op text rest,
      c = ⟨none, ⟨.operation op, text, 0⟩ :: rest, name.length⟩ ∧
        ∀ t ∈ rest, t.kind.isInner = true := by
    unfold Cursor.start at h
    split at h
    · next operation pieces hread =>
      cases h
      obtain ⟨op, -, rfl⟩ := readOperation_eq_ok.mp hread
      exact ⟨op, _, _, rfl, fun t ht => isInner_of_mem_readTokens ht⟩
    · cases h
  obtain ⟨hbehind, hstands⟩ := @behindOperation_parse _ _ _ name hinner
  rw [hparse]
  exact ⟨hstands, fun count => by rw [parseTimes, hbehind.parseTimes_eq]⟩

/-- A name that starts with an operation and has the word of another one later, which is part of a
property. The mark that stands there twice is reported, and reported again. -/
theorem parseTimes_start_marked_twice :
    let again : ParseError := .unexpectedToken "Selective" 25
    ∃ c, Cursor.start "findByDeleteNameSelectiveSelective" = .ok c ∧
      c.parse.2.current = ⟨.selective, "Selective", 25⟩ ∧
      StandsAt "findByDeleteNameSelectiveSelective" (.error (.trailingTokens "Selective" 25))
        c.parse.2.current ∧
      c.parseTimes 4 =
        [.error (.trailingTokens "Selective" 25), .error again, .error again, .error again] := by
  intro again
  have hstart : ∃ c, Cursor.start "findByDeleteNameSelectiveSelective" = .ok c ∧
      c.parse.2.current = ⟨.selective, "Selective", 25⟩ :=
    ⟨_, rfl, by decide +kernel⟩
  obtain ⟨c, hc, hfound⟩ := hstart
  have hparse : parse "findByDeleteNameSelectiveSelective" =
      .error (.trailingTokens "Selective" 25) := by decide +kernel
  obtain ⟨hstands, htimes⟩ := parseTimes_start hc
  rw [hparse] at hstands
  refine ⟨c, hc, hfound, hstands, ?_⟩
  rw [htimes 3, hparse, hfound]
  rfl

end DerivedQuery.MethodName
