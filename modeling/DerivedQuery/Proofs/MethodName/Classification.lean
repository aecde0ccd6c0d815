import DerivedQuery.Proofs.MethodName.Acceptance
import Mathlib.Order.Bounds.Defs

/-!
# How the parser classifies names

A name that has tokens is parsed if and only if the kinds of these tokens, but for the end, form a
phrase of the grammar. Otherwise there is a first token with which no sentence goes on, and the
error is about that place:

> `parse_classifies`: what the error is and which token it names follows from the tokens up to
> there, whatever stands behind them.

The parser reports what it misses where it stands, so this comes down to two facts: it never goes
past a token with which no sentence goes on, and it never stops before one.
-/

namespace DerivedQuery.MethodName

open DerivedQuery Cursor Grammar

/-- The parser read a phrase, but something stands behind it that does not continue it. -/
def Trailing (c : Cursor) (stop : Stop) : Prop :=
  stop.expected = .ending ∧ ∃ u t, Reads c u stop.place ∧ u ∈ Grammar.phrase ∧
    run .start u = some t ∧ t.after stop.place.current.kind = none

/-! ## A whole phrase -/

/-- The words in front of the condition are read up to a token that cannot follow on them but `By`,
`OrderBy` or the end. -/
theorem passed_head {c c₁ : Cursor} {op : Operation} (h : Reads c [.operation op] c₁) :
    Passed (Grammar.operation * atMostOne (token .all) * atMostOne (token .selective)) .start c
      (Settled headEnd [.by, .orderBy, .eof]) ((c₁.skip .all).2.skip .selective).2 := by
  have hoperation : Passed Grammar.operation .start c
      (Settled {.operation} [.all, .selective, .by, .orderBy, .eof]) c₁ := by
    refine ⟨_, .operation, h, ⟨op, rfl⟩, rfl, rfl, ?_⟩
    cases c₁.current.kind <;> simp [Place.after]
  have hall : Passed (Grammar.operation * atMostOne (token .all)) .start c
      (Settled {.operation, .all} [.selective, .by, .orderBy, .eof]) (c₁.skip .all).2 := by
    refine hoperation.mul fun s hs => ?_
    refine passed_skip (t := .all) (by decide) ?_ (fun c => ⟨.inr rfl, ?_⟩) ?_ hs
    · rw [Set.mem_singleton_iff.mp hs.1]
      rfl
    · cases c.current.kind <;> simp [Place.after]
    · exact Set.singleton_subset_iff.mpr (.inl rfl)
  refine hall.mul fun s hs => ?_
  refine passed_skip (t := .selective) (by decide) ?_ (fun c => ⟨.inr (.inr rfl), ?_⟩) ?_ hs
  · rcases hs.1 with rfl | rfl <;> rfl
  · cases c.current.kind <;> simp [Place.after]
  · exact Set.insert_subset_insert (Set.singleton_subset_iff.mpr (.inl rfl))

/-- The condition is read, if there is one. -/
theorem byClause_meets :
    Meets (Cursor.clause .by Cursor.groups) (atMostOne (token .by * Grammar.condition))
      (Settled headEnd [.by, .orderBy, .eof])
      (Settled (headEnd ∪ termEnd) [.orderBy, .eof]) := by
  have hgroups : Meets Cursor.groups Grammar.condition (fun s _ => s = .group)
      (Settled (headEnd ∪ termEnd) [.orderBy, .eof]) := fun s c hs =>
    (groups_meets s c hs).imp fun t c _ h => h.mono Set.subset_union_right
  refine clause_meets (by decide) hgroups ?_
    fun t c h hne => (h.of_ne hne).mono Set.subset_union_left
  intro t c ht
  rcases ht with ⟨rfl | rfl | rfl, -⟩
  all_goals exact ⟨.group, rfl, fun _ => rfl⟩

/-- The sort keys are read, if there are any. -/
theorem orderClause_meets :
    Meets (Cursor.clause .orderBy Cursor.sortPhrases) (atMostOne (token .orderBy * Grammar.order))
      (Settled (headEnd ∪ termEnd) [.orderBy, .eof]) (Settled phraseEnd [.eof]) := by
  have hkeys : Meets Cursor.sortPhrases Grammar.order (Ready .sortSegment)
      (Settled phraseEnd [.eof]) := fun s c hs =>
    (sortPhrases_meets s c hs).imp fun t c _ h => h.mono Set.subset_union_right
  refine clause_meets (by decide) hkeys ?_
    fun t c h hne => (h.of_ne hne).mono Set.subset_union_left
  intro t c ht
  rcases ht with ⟨(rfl | rfl | rfl) | (rfl | rfl | rfl), -⟩
  all_goals exact ⟨.sortName, rfl, ready_sortName⟩

/-- The condition and the order behind the words in front of them. -/
def clauses (c : Cursor) : Except Stop ((List TermGroup × List SortPhrase) × Cursor) :=
  c.clause .by Cursor.groups >>= fun x =>
    x.2.clause .orderBy Cursor.sortPhrases >>= fun y => .ok ((x.1, y.1), y.2)

/-- A phrase is what its head and its clauses are, if nothing stands behind them. -/
theorem phrase_eq {c c₁ : Cursor} {op : Operation} (h : c.operation = .ok (op, c₁)) :
    c.phrase = clauses ((c₁.skip .all).2.skip .selective).2 >>= fun x =>
      if x.2.current.kind = .eof then
        .ok (⟨op, (c₁.skip .all).1, ((c₁.skip .all).2.skip .selective).1, x.1.1, x.1.2⟩, x.2)
      else .error ⟨.ending, x.2⟩ := by
  unfold Cursor.phrase clauses
  rw [h]
  show (((c₁.skip .all).2.skip .selective).2.clause .by Cursor.groups >>= _) = _
  cases ((c₁.skip .all).2.skip .selective).2.clause .by Cursor.groups with
  | error stop => rfl
  | ok x =>
    show (x.2.clause .orderBy Cursor.sortPhrases >>= _) =
      (x.2.clause .orderBy Cursor.sortPhrases >>= _) >>= _
    cases x.2.clause .orderBy Cursor.sortPhrases with
    | error stop => rfl
    | ok y => rfl

/-- From an operation on, the parser reads a phrase up to the end, or it stops in a part that misses
a property, or behind a phrase. -/
theorem phrase_spec {c : Cursor} {op : Operation} {text : String} {position : Nat}
    {rest : List Token} (h : c.ahead = ⟨.operation op, text, position⟩ :: rest) :
    (∀ p c', c.phrase = .ok (p, c') →
        ∃ u, Reads c u c' ∧ u ∈ Grammar.phrase ∧ c'.current.kind = .eof) ∧
      ∀ stop, c.phrase = .error stop →
        Stopped Grammar.phrase .start c stop ∨ Trailing c stop := by
  obtain ⟨c₁, hop, hreads⟩ : ∃ c₁, c.operation = .ok (op, c₁) ∧ Reads c [.operation op] c₁ := by
    refine ⟨⟨some ⟨.operation op, text, position⟩, rest, c.finish⟩, ?_, ?_⟩
    · simp only [Cursor.operation, h]
    · exact ⟨[⟨.operation op, text, position⟩], h, rfl, rfl, rfl⟩
  have hclauses : Outcome Grammar.phrase .start c (Settled phraseEnd [.eof])
      (clauses ((c₁.skip .all).2.skip .selective).2) := by
    unfold Grammar.phrase clauses
    rw [mul_assoc]
    refine (passed_head hreads).mul_outcome fun s hs => ?_
    refine (byClause_meets s _ hs).bind (nil_mem_atMostOne _) fun groups c₂ t ht => ?_
    exact (orderClause_meets t c₂ ht).result fun keys => (groups, keys)
  rw [phrase_eq hop]
  cases hresult : clauses ((c₁.skip .all).2.skip .selective).2 with
  | error stop =>
    rw [hresult] at hclauses
    refine ⟨fun _ _ hparse => (by cases hparse), fun stop' hparse => ?_⟩
    cases hparse
    exact .inl hclauses
  | ok x =>
    rw [hresult] at hclauses
    obtain ⟨u, t, hu, hmem, hrun, hsettled⟩ : Passed _ _ _ _ x.2 := hclauses
    show (∀ p c', (if x.2.current.kind = .eof then _ else _) = _ → _) ∧
      ∀ stop, (if x.2.current.kind = .eof then _ else _) = _ → _
    by_cases hend : x.2.current.kind = .eof
    · rw [if_pos hend]
      refine ⟨fun p c' hparse => ?_, fun _ hparse => (by cases hparse)⟩
      cases hparse
      exact ⟨u, hu, hmem, hend⟩
    · rw [if_neg hend]
      refine ⟨fun _ _ hparse => (by cases hparse), fun stop hparse => ?_⟩
      cases hparse
      refine .inr ⟨rfl, u, t, hu, hmem, hrun, ?_⟩
      by_contra hafter
      exact hend (List.mem_singleton.mp (hsettled.2 hafter))

/-! ## The tokens of a name -/

/-- Whether a token can stand behind the operation of a name and in front of its end. -/
def TokenKind.isInner : TokenKind → Bool
  | .operation _ | .eof => false
  | _ => true

/-- Neither the operation nor the end is read from the pieces behind the operation. -/
theorem isInner_of_mem_readTokens {position : Nat} {pieces : List Piece} {t : Token}
    (h : t ∈ readTokens position pieces) : t.kind.isInner = true := by
  have hkeyword : ∀ k ∈ vocabulary, k.kind.isInner = true := by decide
  fun_induction readTokens position pieces with
  | case1 => cases h
  | case2 position piece rest next ih =>
    rcases List.mem_cons.mp h with rfl | h
    · show (readToken position piece rest).1.kind.isInner = true
      unfold readToken
      split
      · rfl
      · split
        · next k hk => exact hkeyword k (List.mem_of_find?_eq_some hk)
        · rfl
    · exact ih h

/-- Only the last token of a name is the end. -/
theorem kind_ne_eof_of_mem_readTokens {position : Nat} {pieces : List Piece} {t : Token}
    (h : t ∈ readTokens position pieces) : t.kind ≠ .eof := by
  intro heof
  have hinner := isInner_of_mem_readTokens h
  rw [heof] at hinner
  cases hinner

/-- The end stands at a cursor only if nothing is ahead of it. -/
theorem ahead_eq_nil_of_current {c : Cursor} (h : c.current.kind = .eof)
    (hahead : ∀ t ∈ c.ahead, t.kind ≠ .eof) : c.ahead = [] := by
  cases hc : c.ahead with
  | nil => rfl
  | cons t rest =>
    rw [Cursor.current, hc] at h
    exact absurd h (hahead t (hc ▸ List.mem_cons_self))

/-- A name without tokens is rejected for that. -/
theorem parse_of_tokenize_error {name : String} {e : LexError} (h : tokenize name = .error e) :
    parse name = .error (.lex e) := by
  rcases bind_eq_error.mp h with hread | ⟨_, -, h⟩
  · show Cursor.start name >>= _ = _
    unfold Cursor.start
    rw [hread]
    rfl
  · cases h

/-- A name that has tokens has an operation first and the end last, and it is parsed from all tokens
but the end. -/
theorem parse_of_tokenize_ok {name : String} {tokens : List Token}
    (h : tokenize name = .ok tokens) :
    ∃ op text rest, tokens = ⟨.operation op, text, 0⟩ :: rest ++ [Token.eof name.length] ∧
      (∀ t ∈ rest, t.kind ≠ .eof) ∧
      parse name = (Cursor.parse ⟨none, ⟨.operation op, text, 0⟩ :: rest, name.length⟩).1 := by
  obtain ⟨⟨first, pieces⟩, hread, h⟩ := bind_eq_ok.mp h
  cases h
  have hparse : parse name =
      (Cursor.parse ⟨none, first :: readTokens first.text.length pieces, name.length⟩).1 := by
    show Cursor.start name >>= _ = _
    unfold Cursor.start
    rw [hread]
    rfl
  obtain ⟨op, hop⟩ : ∃ op, first = ⟨.operation op, first.text, 0⟩ := by
    unfold readOperation at hread
    split at hread
    · cases hread
    · cases hread
    · split at hread
      · next op _ =>
        cases hread
        exact ⟨op, rfl⟩
      · cases hread
  refine ⟨op, first.text, readTokens first.text.length pieces, ?_,
    fun t ht => kind_ne_eof_of_mem_readTokens ht, ?_⟩
  · rw [← hop]
  · rw [← hop, hparse]

/-- What a cursor that was read to has behind it and in front of it, among all tokens. -/
theorem Reads.tokens {ahead : List Token} {finish : Nat} {u : List TokenKind} {c' : Cursor}
    (h : Reads ⟨none, ahead, finish⟩ u c') :
    ((ahead ++ [Token.eof finish]).take u.length).map (·.kind) = u ∧
      (ahead ++ [Token.eof finish])[u.length]? = some c'.current ∧
      (u ≠ [] → (ahead ++ [Token.eof finish])[u.length - 1]? = c'.previous) := by
  obtain ⟨tokens, hahead, rfl, hfinish, hprevious⟩ := h
  have hahead : ahead = tokens ++ c'.ahead := hahead
  have hall : ahead ++ [Token.eof finish] = tokens ++ (c'.ahead ++ [Token.eof finish]) := by
    rw [hahead, List.append_assoc]
  rw [hall, List.length_map]
  refine ⟨?_, ?_, fun hne => ?_⟩
  · rw [List.take_left]
  · have hfinish : c'.finish = finish := hfinish
    rw [List.getElem?_append_right (Nat.le_refl _), Nat.sub_self, Cursor.current, hfinish]
    cases c'.ahead <;> rfl
  · have hpositive : 0 < tokens.length :=
      List.length_pos_iff.mpr fun hnil => hne (by rw [hnil]; rfl)
    rw [List.getElem?_append_left (by omega), ← List.getLast?_eq_getElem?, hprevious,
      Option.or_none]

/-! ## The first token that no sentence has -/

/-- The errors for the tokens `before` and `found`: where `before` and all in front of it are a
phrase, where the end is missing a property, and elsewhere. -/
def errorAt (phraseBefore : Prop) [Decidable phraseBefore] (before found : Token) : ParseError :=
  if phraseBefore then .trailingTokens found.text found.position
  else if found.kind = .eof ∧ before.kind ∈ [.by, .and, .or, .orderBy] then
    .danglingOperator before.text before.position
  else .emptyPropertyPath found.text found.position

theorem introducesProperty_iff {kind : TokenKind} :
    Stop.introducesProperty kind = true ↔ kind ∈ [.by, .and, .or, .orderBy] := by
  simp [Stop.introducesProperty, or_assoc]

/-- A stop behind a phrase is reported by the token that stands there. -/
theorem error_of_ending {stop : Stop} {before : Token} {phraseBefore : Prop}
    [Decidable phraseBefore] (h : stop.expected = .ending) (hphrase : phraseBefore) :
    stop.error = errorAt phraseBefore before stop.place.current := by
  rw [errorAt, if_pos hphrase, Stop.error, h]

/-- A stop inside a phrase is reported by the keyword that misses its property at the end, else by
the token that stands there. -/
theorem error_of_property {stop : Stop} {before : Token} {phraseBefore : Prop}
    [Decidable phraseBefore] (h : stop.expected = .property)
    (hprevious : stop.place.previous = some before) (hphrase : ¬ phraseBefore) :
    stop.error = errorAt phraseBefore before stop.place.current := by
  rw [errorAt, if_neg hphrase, Stop.error, h, hprevious]
  by_cases hend : stop.place.current.kind = .eof
  · simp only [hend, true_and, introducesProperty_iff]
  · simp only [hend, false_and, if_false]
    split
    · next heq _ => exact absurd heq hend
    · rfl

open Classical in
/-- A stop is at the first token with which no sentence goes on, and its error is about that
token and the one before it. -/
theorem stop_classified {op : Operation} {text : String} {rest : List Token} {finish : Nat}
    {stop : Stop}
    (h : Cursor.phrase ⟨none, ⟨.operation op, text, 0⟩ :: rest, finish⟩ = .error stop) :
    let tokens := ⟨.operation op, text, 0⟩ :: rest ++ [Token.eof finish]
    ∃ k before found,
      IsLeast {k | ¬ Viable sentence ((tokens.take (k + 1)).map (·.kind))} (k + 1) ∧
        tokens[k]? = some before ∧ tokens[k + 1]? = some found ∧
        stop.error =
          errorAt ((tokens.take (k + 1)).map (·.kind) ∈ Grammar.phrase) before found := by
  intro tokens
  -- what has been read, and that neither the token there nor, inside a part, the end can follow
  obtain ⟨u, t, hreads, hviable, hrun, hdead, hexpected⟩ : ∃ u t,
      Reads ⟨none, ⟨.operation op, text, 0⟩ :: rest, finish⟩ u stop.place ∧
        Viable Grammar.phrase u ∧ run .start u = some t ∧
        t.after stop.place.current.kind = none ∧
        (stop.expected = .ending ∧ u ∈ Grammar.phrase ∨
          stop.expected = .property ∧ t.after .eof = none) := by
    rcases (phrase_spec rfl).2 stop h with hstopped | htrailing
    · obtain ⟨hexpected, u, t, hreads, hviable, hrun, hdead, heof⟩ := hstopped
      exact ⟨u, t, hreads, hviable, hrun, hdead, .inr ⟨hexpected, heof⟩⟩
    · obtain ⟨hexpected, u, t, hreads, hmem, hrun, hdead⟩ := htrailing
      exact ⟨u, t, hreads, .of_mem hmem, hrun, hdead, .inl ⟨hexpected, hmem⟩⟩
  obtain ⟨htake, hfound, hbefore⟩ := hreads.tokens
  have hne : u ≠ [] := by
    rintro rfl
    cases hrun
    obtain hop : _ = stop.place.current := Option.some.inj hfound
    rw [← hop] at hdead
    cases hdead
  obtain ⟨k, hk⟩ : ∃ k, u.length = k + 1 :=
    Nat.exists_eq_succ_of_ne_zero fun hzero => hne (List.length_eq_zero_iff.mp hzero)
  rw [hk] at htake hfound hbefore
  obtain ⟨before, hprevious⟩ : ∃ before, tokens[k]? = some before := by
    obtain ⟨hlt, -⟩ := List.getElem?_eq_some_iff.mp hfound
    exact ⟨_, List.getElem?_eq_getElem (Nat.lt_of_succ_lt hlt)⟩
  have hplace : stop.place.previous = some before := (hbefore hne).symm.trans hprevious
  refine ⟨k, before, stop.place.current, ⟨?_, ?_⟩, hprevious, hfound, ?_⟩
  · show ¬ Viable sentence ((tokens.take (k + 1 + 1)).map (·.kind))
    rw [List.take_add_one, hfound, List.map_append, htake]
    refine not_viable_of_run_eq_none ?_
    rw [run_append hrun]
    exact (run_singleton _ _).trans hdead
  · intro j hj
    by_contra hlt
    refine hj ((hviable.mul_left (mem_token .eof)).shorten ?_)
    rw [← htake]
    exact (List.take_prefix_take_left (by omega)).map _
  · rw [htake]
    rcases hexpected with ⟨hending, hmem⟩ | ⟨hproperty, heof⟩
    · exact error_of_ending hending hmem
    · have hmem : u ∉ Grammar.phrase := by
        intro hmem
        have hend := run_of_mem_sentence (Language.append_mem_mul hmem (mem_token .eof))
        rw [run_append hrun, run_singleton, heof] at hend
        cases hend
      exact error_of_property hproperty hplace hmem

/-- The tokens that are read as a phrase, up to the end, form one. -/
theorem mem_phrase_of_ok {op : Operation} {text : String} {rest : List Token} {finish : Nat}
    {p : Phrase} {last : Cursor} (heof : ∀ t ∈ rest, t.kind ≠ .eof)
    (h : Cursor.phrase ⟨none, ⟨.operation op, text, 0⟩ :: rest, finish⟩ = .ok (p, last)) :
    (⟨.operation op, text, 0⟩ :: rest).map (·.kind) ∈ Grammar.phrase := by
  obtain ⟨u, ⟨read, hahead, rfl, -⟩, hmem, hend⟩ := (phrase_spec rfl).1 p last h
  have hahead : ⟨.operation op, text, 0⟩ :: rest = read ++ last.ahead := hahead
  -- nothing is left, since the end stands at the cursor and no token ahead is the end
  have hnone : last.ahead = [] := by
    refine ahead_eq_nil_of_current hend fun t ht => ?_
    have hmem : t ∈ ⟨.operation op, text, 0⟩ :: rest := hahead ▸ List.mem_append_right read ht
    rcases List.mem_cons.mp hmem with rfl | hrest
    · exact fun h => by cases h
    · exact heof t hrest
  rw [hahead, hnone, List.append_nil]
  exact hmem

/-- Tokens whose beginning no sentence has are no phrase. -/
theorem not_mem_phrase_of_not_viable {tokens : List Token} {finish n : Nat}
    (h : ¬ Viable sentence (((tokens ++ [Token.eof finish]).take n).map (·.kind))) :
    tokens.map (·.kind) ∉ Grammar.phrase := by
  intro hmem
  have hsentence := Language.append_mem_mul hmem (mem_token .eof)
  refine h ((Viable.of_mem hsentence).shorten ?_)
  have hkinds := (List.take_prefix n (tokens ++ [Token.eof finish])).map (·.kind)
  rw [List.map_append] at hkinds
  exact hkinds

open Classical in
/-- **The parser classifies every name.** A name that has tokens is parsed if and only if they form
a phrase up to the end. Otherwise the error is about the first token with which no sentence of the
grammar goes on, and about the token before it. No name is rejected for a missing operation once it
has tokens. -/
theorem parse_classifies (name : String) :
    (∀ text position, parse name ≠ .error (.unexpectedToken text position)) ∧
      ∀ tokens, tokenize name = .ok tokens →
        ((∃ q, parse name = .ok q) ↔ tokens.dropLast.map (·.kind) ∈ Grammar.phrase) ∧
        (tokens.dropLast.map (·.kind) ∉ Grammar.phrase → ∃ k before found,
          IsLeast {k | ¬ Viable sentence ((tokens.take (k + 1)).map (·.kind))} (k + 1) ∧
            tokens[k]? = some before ∧ tokens[k + 1]? = some found ∧
            parse name = .error
              (errorAt ((tokens.take (k + 1)).map (·.kind) ∈ Grammar.phrase) before found)) := by
  cases htokens : tokenize name with
  | error e =>
    rw [parse_of_tokenize_error htokens]
    exact ⟨fun _ _ h => (by cases h), fun _ h => (by cases h)⟩
  | ok tokens =>
    obtain ⟨op, text, rest, rfl, heof, hparse⟩ := parse_of_tokenize_ok htokens
    rw [hparse, Cursor.parse]
    cases hphrase : Cursor.phrase ⟨none, ⟨.operation op, text, 0⟩ :: rest, name.length⟩ with
    | ok result =>
      obtain ⟨p, last⟩ := result
      have hmem := mem_phrase_of_ok heof hphrase
      refine ⟨fun _ _ h => (by cases h), fun _ h => ?_⟩
      cases h
      rw [List.dropLast_concat]
      exact ⟨iff_of_true ⟨_, rfl⟩ hmem, fun hnot => absurd hmem hnot⟩
    | error stop =>
      obtain ⟨k, before, found, hleast, hbefore, hfound, herror⟩ := stop_classified hphrase
      refine ⟨fun text position h => ?_, fun _ h => ?_⟩
      · have : stop.error = .unexpectedToken text position := Except.error.inj h
        rw [herror, errorAt] at this
        split at this
        · cases this
        · split at this <;> cases this
      · cases h
        refine ⟨iff_of_false ?_ ?_, fun _ => ⟨k, before, found, hleast, hbefore, hfound, ?_⟩⟩
        · intro hok
          obtain ⟨q, h⟩ := hok
          cases h
        · rw [List.dropLast_concat]
          exact not_mem_phrase_of_not_viable hleast.1
        · rw [← herror]

open Classical in
/-- With an `Or` right behind an `And`, no sentence goes on, whatever follows on them. -/
theorem parse_classifies_doubled_connective :
    let tokens : List Token := [⟨.operation .find, "find", 0⟩, ⟨.by, "By", 4⟩,
      ⟨.property, "Name", 6⟩, ⟨.and, "And", 10⟩, ⟨.or, "Or", 13⟩, ⟨.property, "Age", 15⟩,
      Token.eof 18]
    tokenize "findByNameAndOrAge" = .ok tokens ∧
      tokens.dropLast.map (·.kind) ∉ Grammar.phrase ∧
      ∃ k before found,
        IsLeast {k | ¬ Viable sentence ((tokens.take (k + 1)).map (·.kind))} (k + 1) ∧
          tokens[k]? = some before ∧ tokens[k + 1]? = some found ∧
          parse "findByNameAndOrAge" = .error
            (errorAt ((tokens.take (k + 1)).map (·.kind) ∈ Grammar.phrase) before found) := by
  intro tokens
  have htokens : tokenize "findByNameAndOrAge" = .ok tokens := by decide +kernel
  obtain ⟨-, hclassified⟩ := parse_classifies "findByNameAndOrAge"
  have hphrase : tokens.dropLast.map (·.kind) ∉ Grammar.phrase := by
    intro hmem
    have hrun := run_of_mem_sentence (Language.append_mem_mul hmem (mem_token .eof))
    cases hrun
  exact ⟨htokens, hphrase, (hclassified tokens htokens).2 hphrase⟩

example : parse "findByNameAndOrAge" = .error (.emptyPropertyPath "Or" 13) := by decide +kernel

example : parse "findByNameAnd" = .error (.danglingOperator "And" 10) := by decide +kernel

end DerivedQuery.MethodName
