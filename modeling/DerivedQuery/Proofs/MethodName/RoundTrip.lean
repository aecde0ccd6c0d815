import DerivedQuery.Proofs.MethodName.Acceptance
import DerivedQuery.Proofs.MethodName.Spelling

/-!
# Every phrase is read back from its name

The tokens of a spelled phrase are those the lexer finds in its name. What is left is that the
parser puts them together again. Each procedure reads the tokens of its part back in front of any
token that would not continue the part (`ReadsBack`), and the parts of a phrase are spelled in such
an order that none continues the one before it:

> `parse_spell`: the name of a phrase is parsed as the query the phrase stands for, also without an
> `Asc` at its end.
-/

namespace DerivedQuery.MethodName

open DerivedQuery Cursor

/-- The tokens ahead of the cursor are the spelled ones. -/
def Shows (c : Cursor) (ls : List Lexeme) : Prop :=
  c.ahead.map Token.content = ls.map Lexeme.content

/-- None of the kinds stands in front. -/
def NotAhead (kinds : Set TokenKind) (ls : List Lexeme) : Prop :=
  ∀ l, ls.head? = some l → l.kind ∉ kinds

/-- The procedure reads the tokens as `a`, in front of any that do not begin with one of the kinds
`continuing`. -/
def ReadsBack {α : Type} (read : Cursor → Except Stop (α × Cursor)) (ls : List Lexeme) (a : α)
    (continuing : Set TokenKind) : Prop :=
  ∀ c rest, Shows c (ls ++ rest) → NotAhead continuing rest →
    ∃ c', read c = .ok (a, c') ∧ Shows c' rest

theorem NotAhead.mono {S T : Set TokenKind} {ls : List Lexeme} (h : NotAhead T ls) (hsub : S ⊆ T) :
    NotAhead S ls :=
  fun l hl hmem => h l hl (hsub hmem)

theorem notAhead_cons {kinds : Set TokenKind} {l : Lexeme} (h : l.kind ∉ kinds) (ls : List Lexeme) :
    NotAhead kinds (l :: ls) := by
  intro l' hl'
  obtain rfl := Option.some.inj hl'
  exact h

theorem notAhead_spellKind {kinds : Set TokenKind} {kind : TokenKind} {rest : List Lexeme}
    (hkind : kind ∉ kinds) (hrest : NotAhead kinds rest) :
    NotAhead kinds (spellKind kind ++ rest) := by
  rcases spellKind_cases kind with hnil | ⟨k, -, rfl, hkeyword⟩
  · rw [hnil]
    exact hrest
  · rw [hkeyword]
    exact notAhead_cons hkind rest

theorem notAhead_spellKindIf {kinds : Set TokenKind} {wanted : Bool} {kind : TokenKind}
    {rest : List Lexeme} (hkind : kind ∉ kinds) (hrest : NotAhead kinds rest) :
    NotAhead kinds (spellKindIf wanted kind ++ rest) := by
  cases wanted with
  | false => exact hrest
  | true => exact notAhead_spellKind hkind hrest

/-- A block of tokens stands in front with one of the kinds it begins with. -/
theorem Block.notAhead {S E kinds : Set TokenKind} {ls : List Lexeme} (h : Block S E ls)
    (hkinds : ∀ k ∈ S, k ∉ kinds) (rest : List Lexeme) : NotAhead kinds (ls ++ rest) := by
  obtain ⟨l, hl, hmem⟩ := h.starts
  intro l' hl'
  rw [List.head?_append, hl] at hl'
  obtain rfl := Option.some.inj hl'
  exact hkinds _ hmem

/-! ## Single tokens -/

section Tokens

variable {c : Cursor} {l : Lexeme} {ls rest : List Lexeme}

theorem Shows.accept (h : Shows c (l :: rest)) (kind : TokenKind) (hkind : l.kind = kind) :
    ∃ c', c.accept kind = some c' ∧ Shows c' rest ∧ c.current.content = l.content := by
  obtain ⟨t, tail, hahead, hcontent, htail⟩ := List.map_eq_cons_iff.mp h
  have ht : t.kind = l.kind := congrArg Prod.fst hcontent
  refine ⟨⟨some t, tail, c.finish⟩, ?_, htail, ?_⟩
  · unfold Cursor.accept
    rw [hahead]
    exact if_pos (ht.trans hkind)
  · unfold Cursor.current
    rw [hahead]
    exact hcontent

theorem Shows.accept_eq_none {kind : TokenKind} (h : Shows c rest) (hrest : NotAhead {kind} rest) :
    c.accept kind = none := by
  unfold Cursor.accept
  cases hahead : c.ahead with
  | nil => rfl
  | cons t tail =>
    unfold Shows at h
    rw [hahead] at h
    obtain ⟨l, ls, rfl, hcontent, -⟩ := List.map_eq_cons_iff.mp h.symm
    have hkind : l.kind = t.kind := congrArg Prod.fst hcontent
    refine if_neg fun heq => hrest l rfl ?_
    rw [hkind, heq]
    rfl

/-- A keyword that may be missing is skipped if it is there. -/
theorem Shows.skip {wanted : Bool} {kind : TokenKind} (hkind : spellKind kind ≠ [])
    (h : Shows c (spellKindIf wanted kind ++ rest)) (hrest : NotAhead {kind} rest) :
    ∃ c', c.skip kind = (wanted, c') ∧ Shows c' rest := by
  unfold Cursor.skip
  cases wanted with
  | false =>
    have hshows : Shows c rest := h
    rw [hshows.accept_eq_none hrest]
    exact ⟨c, rfl, hshows⟩
  | true =>
    obtain ⟨k, -, hk, hkeyword⟩ := (spellKind_cases kind).resolve_left hkind
    have hshows : Shows c (spellKind kind ++ rest) := h
    rw [hkeyword] at hshows
    obtain ⟨c', haccept, hshows', -⟩ := Shows.accept hshows kind hk
    rw [haccept]
    exact ⟨c', rfl, hshows'⟩

theorem Shows.comparator_eq_equal (h : Shows c rest)
    (hrest : NotAhead (Set.range .comparator) rest) : c.comparator = (.equal, c) := by
  unfold Cursor.comparator
  split
  · next op text position tail hahead =>
    unfold Shows at h
    rw [hahead] at h
    obtain ⟨l, ls, rfl, hcontent, -⟩ := List.map_eq_cons_iff.mp h.symm
    have hkind : l.kind = .comparator op := congrArg Prod.fst hcontent
    exact absurd ⟨op, hkind.symm⟩ (hrest l rfl)
  · rfl

/-- A comparator is read, which is equality if there is no keyword. -/
theorem Shows.comparator {op : Comparator} (h : Shows c (spellKind (.comparator op) ++ rest))
    (hrest : NotAhead (Set.range .comparator) rest) :
    ∃ c', c.comparator = (op, c') ∧ Shows c' rest := by
  rcases spellKind_cases (.comparator op) with hnil | ⟨k, -, hkind, hkeyword⟩
  · obtain rfl : op = .equal := by
      revert hnil
      cases op <;> decide
    exact ⟨c, h.comparator_eq_equal hrest, h⟩
  · rw [hkeyword] at h
    obtain ⟨⟨kind, text, position⟩, tail, hahead, hcontent, htail⟩ := List.map_eq_cons_iff.mp h
    obtain rfl : kind = .comparator op := (congrArg Prod.fst hcontent).trans hkind
    refine ⟨⟨some ⟨.comparator op, text, position⟩, tail, c.finish⟩, ?_, htail⟩
    unfold Cursor.comparator
    rw [hahead]

/-- A direction is read, which may only be missing if it is ascending. -/
theorem Shows.direction {wanted : Bool} {d : Direction} (hwanted : wanted = false → d = .ascending)
    (h : Shows c (spellKindIf wanted (directionKind d) ++ rest))
    (hrest : NotAhead {.asc, .desc} rest) :
    ∃ c', c.direction = (d, c') ∧ Shows c' rest := by
  have hasc : NotAhead {.asc} rest := hrest.mono fun k hk => .inl hk
  have hdesc : NotAhead {.desc} rest := hrest.mono fun k hk => .inr hk
  unfold Cursor.direction
  cases d with
  | ascending =>
    obtain ⟨c', hskip, hshows⟩ := Shows.skip (by decide) h hasc
    have hfront : NotAhead {.desc} (spellKindIf wanted (directionKind .ascending) ++ rest) :=
      notAhead_spellKindIf (fun heq : TokenKind.asc = .desc => (by cases heq)) hdesc
    have hskip : c.skip .asc = (wanted, c') := hskip
    rw [h.accept_eq_none hfront, hskip]
    exact ⟨c', rfl, hshows⟩
  | descending =>
    cases wanted with
    | false => cases hwanted rfl
    | true =>
      obtain ⟨c', haccept, hshows, -⟩ := Shows.accept h .desc rfl
      rw [haccept]
      exact ⟨c', rfl, hshows⟩

end Tokens

/-! ## The procedures of the parser -/

theorem ReadsBack.mono {α : Type} {read : Cursor → Except Stop (α × Cursor)} {ls : List Lexeme}
    {a : α} {S T : Set TokenKind} (h : ReadsBack read ls a S) (hsub : S ⊆ T) :
    ReadsBack read ls a T :=
  fun c rest hshows hrest => h c rest hshows (hrest.mono hsub)

/-- A loop over items reads a list of items back whose separator continues no item. -/
theorem Loops.readsBack {α β : Type} {items : Cursor → Except Stop (β × Cursor)}
    {item : Cursor → Except Stop (α × Cursor)} (separator : Lexeme) {one : α → β}
    {more : α → β → β} (hitems : Loops items item separator.kind one more)
    {lexemes : α → List Lexeme} (value : α → List α → β) (hone : ∀ x, value x [] = one x)
    (hmore : ∀ x y ys, value x (y :: ys) = more x (value y ys)) {continuing : Set TokenKind}
    (hseparator : separator.kind ∉ continuing) {x : α} {xs : List α}
    (hitem : ∀ y ∈ x :: xs, ReadsBack item (lexemes y) y continuing) :
    ReadsBack items ([separator].intercalate ((x :: xs).map lexemes)) (value x xs)
      (insert separator.kind continuing) := by
  intro c rest hshows hrest
  have hbehind : NotAhead continuing rest := hrest.mono (Set.subset_insert _ _)
  rw [hitems c]
  induction xs generalizing x c with
  | nil =>
    rw [List.map_singleton, List.intercalate_singleton] at hshows
    obtain ⟨c', hread, hshows'⟩ := hitem x List.mem_cons_self c rest hshows hbehind
    have hnone : c'.accept separator.kind = none :=
      hshows'.accept_eq_none (hrest.mono fun k hk => .inl hk)
    refine ⟨c', ?_, hshows'⟩
    simp only [hread, bind, Except.bind, hnone, hone]
  | cons y ys ih =>
    -- the separator stands behind the first item and does not continue it
    rw [List.map_cons, List.map_cons, List.intercalate_cons_cons, List.append_assoc,
      List.append_assoc] at hshows
    obtain ⟨c₁, hread, hshows₁⟩ :=
      hitem x List.mem_cons_self c _ hshows (notAhead_cons hseparator _)
    obtain ⟨c₂, haccept, hshows₂, -⟩ := Shows.accept hshows₁ separator.kind rfl
    obtain ⟨c', hrest', hshows'⟩ :=
      ih (fun z hz => hitem z (List.mem_cons_of_mem x hz)) c₂ hshows₂
    refine ⟨c', ?_, hshows'⟩
    rw [← hitems c₂] at hrest'
    simp only [hread, bind, Except.bind, haccept, hrest', hmore]

/-- The kinds that would continue a path. -/
def pathContinued : Set TokenKind := {.pathSeparator}

/-- The kinds that would continue a term. -/
def termContinued : Set TokenKind := pathContinued ∪ Set.range .comparator ∪ {.selective}

/-- None of the keywords that separate terms continues one. -/
theorem not_mem_termContinued {kind : TokenKind}
    (h : kind ∈ ({.and, .or, .orderBy} : Set TokenKind)) : kind ∉ termContinued := by
  intro hmem
  rcases hmem with (heq | ⟨op, heq⟩) | heq
  all_goals
    subst heq
    rcases h with heq | heq | heq <;> cases heq

/-- The kinds that would continue a sort key. -/
def sortContinued : Set TokenKind := pathContinued ∪ {.asc, .desc}

theorem segment_readsBack (text : String) : ReadsBack segment [.segment text] text ∅ := by
  intro c rest hshows _
  obtain ⟨c', haccept, hshows', hcontent⟩ := Shows.accept hshows .property rfl
  have htext : c.current.text = text := congrArg Prod.snd hcontent
  refine ⟨c', ?_, hshows'⟩
  unfold segment
  rw [haccept, ← htext]

theorem segments_readsBack {segments : List String} (h : segments ≠ []) :
    ReadsBack Cursor.segments (pathLexemes segments) segments pathContinued := by
  obtain ⟨text, texts, rfl⟩ := List.exists_cons_of_ne_nil h
  refine (segments_loops.readsBack .bar List.cons (fun _ => rfl) (fun _ _ _ => rfl)
    (Set.notMem_empty _) fun y _ => segment_readsBack y).mono ?_
  exact Set.insert_subset rfl (Set.empty_subset _)

/-- A term is read back, with its comparator and its mark. -/
theorem term_readsBack {t : Term} (h : t.segments ≠ []) :
    ReadsBack Cursor.term t.lexemes t termContinued := by
  intro c rest hshows hrest
  -- neither the mark nor what is behind it continues the path or could be a comparator
  have hmark : NotAhead (pathContinued ∪ Set.range .comparator)
      (spellKindIf t.selective .selective ++ rest) := by
    refine notAhead_spellKindIf ?_ (hrest.mono fun k hk => .inl hk)
    intro hmem
    rcases hmem with heq | ⟨op, heq⟩ <;> cases heq
  have hcomparator : NotAhead pathContinued (spellKind (.comparator t.comparator) ++
      (spellKindIf t.selective .selective ++ rest)) :=
    notAhead_spellKind (fun heq => (by cases heq)) (hmark.mono fun k hk => .inl hk)
  unfold Term.lexemes at hshows
  rw [List.append_assoc, List.append_assoc] at hshows
  obtain ⟨c₁, hpath, hshows⟩ := segments_readsBack h c _ hshows hcomparator
  obtain ⟨c₂, hop, hshows⟩ := hshows.comparator (hmark.mono fun k hk => .inr hk)
  obtain ⟨c₃, hskip, hshows⟩ := Shows.skip (by decide) hshows (hrest.mono fun k hk => .inr hk)
  refine ⟨c₃, ?_, hshows⟩
  unfold Cursor.term
  simp only [hpath, bind, Except.bind, hop, hskip, pure, Except.pure]

/-- Terms are read back up to a token that is not `And`. -/
theorem terms_readsBack {first : Term} {others : List Term}
    (h : ∀ t ∈ first :: others, IsPath t.segments) :
    ReadsBack Cursor.terms ((spellKind .and).intercalate ((first :: others).map Term.lexemes))
      (first, others) (insert .and termContinued) := by
  have hand : spellKind .and = [Lexeme.keyword ⟨.and, "And", []⟩] := by decide
  rw [hand]
  exact Loops.readsBack (.keyword ⟨.and, "And", []⟩) terms_loops Prod.mk (fun _ => rfl)
    (fun _ _ _ => rfl) (not_mem_termContinued (.inl rfl)) fun t ht => term_readsBack (h t ht).1

/-- A group is read back, with its mark. -/
theorem group_readsBack {g : TermGroup} (h : ∀ t ∈ g.first :: g.others, IsPath t.segments) :
    ReadsBack Cursor.group g.lexemes g (insert .and termContinued) := by
  intro c rest hshows hrest
  have hterms : NotAhead {.selective}
      ((spellKind .and).intercalate ((g.first :: g.others).map Term.lexemes) ++ rest) := by
    refine (block_terms h (List.cons_ne_nil _ _)).notAhead (fun k hk => ?_) rest
    rw [Set.mem_singleton_iff.mp hk]
    exact fun heq => (by cases heq)
  unfold TermGroup.lexemes at hshows
  rw [List.append_assoc] at hshows
  obtain ⟨c₁, hskip, hshows⟩ := Shows.skip (by decide) hshows hterms
  obtain ⟨c₂, hread, hshows⟩ := terms_readsBack h c₁ rest hshows hrest
  refine ⟨c₂, ?_, hshows⟩
  unfold Cursor.group
  simp only [hskip, hread, bind, Except.bind, pure, Except.pure]

/-- Groups are read back up to a token that is not `Or`. -/
theorem groups_readsBack {groups : List TermGroup}
    (h : ∀ g ∈ groups, ∀ t ∈ g.first :: g.others, IsPath t.segments) (hne : groups ≠ []) :
    ReadsBack Cursor.groups (groupsLexemes groups) groups
      (insert .or (insert .and termContinued)) := by
  have hor : spellKind .or = [Lexeme.keyword ⟨.or, "Or", []⟩] := by decide
  obtain ⟨first, others, rfl⟩ := List.exists_cons_of_ne_nil hne
  unfold groupsLexemes
  rw [hor]
  refine Loops.readsBack (.keyword ⟨.or, "Or", []⟩) groups_loops List.cons (fun _ => rfl)
    (fun _ _ _ => rfl) (fun hmem => ?_) fun g hg => group_readsBack (h g hg)
  rcases Set.mem_insert_iff.mp hmem with heq | hterm
  · cases heq
  · exact not_mem_termContinued (.inr (.inl rfl)) hterm

theorem sortPhrase_readsBack (short : Bool) {s : SortPhrase} (h : s.segments ≠ []) :
    ReadsBack Cursor.sortPhrase (s.lexemes short) s sortContinued := by
  intro c rest hshows hrest
  have hdirection : NotAhead pathContinued
      (spellKindIf (!(short && s.direction = .ascending)) (directionKind s.direction) ++ rest) := by
    refine notAhead_spellKindIf ?_ (hrest.mono fun k hk => .inl hk)
    cases s.direction <;> exact fun heq => (by cases heq)
  unfold SortPhrase.lexemes at hshows
  rw [List.append_assoc] at hshows
  obtain ⟨c₁, hpath, hshows⟩ := segments_readsBack h c _ hshows hdirection
  obtain ⟨c₂, hread, hshows⟩ := hshows.direction
    (by cases s.direction <;> simp) (hrest.mono fun k hk => .inr hk)
  refine ⟨c₂, ?_, hshows⟩
  unfold Cursor.sortPhrase
  simp only [hpath, bind, Except.bind, hread, pure, Except.pure]

theorem sortPhrases_eq (c : Cursor) :
    c.sortPhrases = c.sortPhrase >>= fun x =>
      if x.2.current.kind = .property then
        x.2.sortPhrases >>= fun y => .ok (x.1 :: y.1, y.2)
      else .ok ([x.1], x.2) := by
  rw [Cursor.sortPhrases]
  split
  · next h => simp only [h]; rfl
  · next first next h =>
    simp only [h]
    rfl

/-- Sort keys are read back up to a token that is no segment. -/
theorem sortPhrases_readsBack (short : Bool) {keys : List SortPhrase}
    (h : ∀ s ∈ keys, IsPath s.segments) (hne : keys ≠ []) :
    ReadsBack Cursor.sortPhrases (orderLexemes short keys) keys
      (insert .property sortContinued) := by
  induction keys with
  | nil => exact absurd rfl hne
  | cons s keys ih =>
    have hs := h s List.mem_cons_self
    intro c rest hshows hrest
    rw [sortPhrases_eq]
    cases keys with
    | nil =>
      obtain ⟨c', hread, hshows'⟩ := sortPhrase_readsBack short hs.1 c rest hshows
        (hrest.mono (Set.subset_insert _ _))
      have hkind : c'.current.kind ≠ .property :=
        kind_ne_of_accept (by decide) (hshows'.accept_eq_none (hrest.mono fun k hk => .inl hk))
      refine ⟨c', ?_, hshows'⟩
      rw [hread]
      exact if_neg hkind
    | cons s' keys =>
      have hkeys : ∀ s ∈ s' :: keys, IsPath s.segments := fun s hmem =>
        h s (List.mem_cons_of_mem _ hmem)
      have hblock := block_order short hkeys (List.cons_ne_nil _ _)
      rw [orderLexemes, List.append_assoc] at hshows
      have hnext : NotAhead sortContinued (orderLexemes short (s' :: keys) ++ rest) := by
        refine hblock.notAhead (fun k hk hmem => ?_) rest
        rw [Set.mem_singleton_iff.mp hk] at hmem
        rcases hmem with heq | heq | heq <;> cases heq
      obtain ⟨c₁, hread, hshows₁⟩ := sortPhrase_readsBack false hs.1 c _ hshows hnext
      -- the next sort key begins with a segment, so the loop goes on
      have hkind : c₁.current.kind = .property := by
        obtain ⟨l, hl, hproperty⟩ := hblock.starts
        obtain ⟨ls, hls⟩ := List.head?_eq_some_iff.mp hl
        rw [hls] at hshows₁
        obtain ⟨-, -, -, hcontent⟩ := Shows.accept hshows₁ .property hproperty
        exact (congrArg Prod.fst hcontent).trans hproperty
      obtain ⟨c', hread', hshows'⟩ := ih hkeys (List.cons_ne_nil _ _) c₁ rest hshows₁ hrest
      refine ⟨c', ?_, hshows'⟩
      rw [hread]
      show (if c₁.current.kind = .property then c₁.sortPhrases >>= _ else _) = _
      rw [if_pos hkind, hread']
      rfl

/-- A clause is read back, or it is missing. -/
theorem clause_readsBack {α : Type} {kind : TokenKind}
    {read : Cursor → Except Stop (List α × Cursor)} {lexemes : List α → List Lexeme}
    {items : List α} {continuing : Set TokenKind} (hkind : spellKind kind ≠ [])
    (h : items ≠ [] → ReadsBack read (lexemes items) items continuing) :
    ReadsBack (Cursor.clause kind read) (clauseLexemes kind lexemes items) items
      (insert kind continuing) := by
  intro c rest hshows hrest
  unfold Cursor.clause
  unfold clauseLexemes at hshows
  by_cases hempty : items.isEmpty = true
  · rw [if_pos hempty] at hshows
    have hnone : c.accept kind = none :=
      Shows.accept_eq_none hshows (hrest.mono fun k hk => .inl hk)
    rw [hnone, List.isEmpty_iff.mp hempty]
    exact ⟨c, rfl, hshows⟩
  · rw [if_neg hempty, List.append_assoc] at hshows
    obtain ⟨k, -, hk, hkeyword⟩ := (spellKind_cases kind).resolve_left hkind
    rw [hkeyword] at hshows
    obtain ⟨c₁, haccept, hshows₁, -⟩ := Shows.accept hshows kind hk
    rw [haccept]
    exact h (fun hnil => hempty (List.isEmpty_iff.mpr hnil)) c₁ rest hshows₁
      (hrest.mono (Set.subset_insert _ _))

/-- In front of a clause stands its keyword, or what is behind it. -/
theorem notAhead_clause {α : Type} {kinds : Set TokenKind} {kind : TokenKind}
    {lexemes : List α → List Lexeme} {items : List α} {rest : List Lexeme}
    (hspelled : spellKind kind ≠ []) (hkind : kind ∉ kinds) (hrest : NotAhead kinds rest) :
    NotAhead kinds (clauseLexemes kind lexemes items ++ rest) := by
  unfold clauseLexemes
  by_cases hempty : items.isEmpty = true
  · rw [if_pos hempty]
    exact hrest
  · rw [if_neg hempty, List.append_assoc]
    obtain ⟨k, -, rfl, hkeyword⟩ := (spellKind_cases kind).resolve_left hspelled
    rw [hkeyword]
    exact notAhead_cons hkind _

/-- A phrase is read back behind its operation. -/
theorem phrase_readsBack (short : Bool) {p : Phrase} (h : p.Spellable) {c c₁ : Cursor}
    (hoperation : c.operation = .ok (p.operation, c₁)) (hshows : Shows c₁ (p.lexemes short)) :
    ∃ last, c.phrase = .ok (p, last) := by
  have hend : ∀ kinds, NotAhead kinds [] := fun kinds l hl => (by cases hl)
  -- what can stand in front of each clause and behind it
  have horder : ∀ kinds, TokenKind.orderBy ∉ kinds →
      NotAhead kinds (clauseLexemes .orderBy (orderLexemes short) p.order ++ []) :=
    fun kinds hkinds => notAhead_clause (by decide) hkinds (hend kinds)
  have hby : ∀ kinds, TokenKind.by ∉ kinds → TokenKind.orderBy ∉ kinds →
      NotAhead kinds (clauseLexemes .by groupsLexemes p.groups ++
        (clauseLexemes .orderBy (orderLexemes short) p.order ++ [])) :=
    fun kinds hkinds hkinds' => notAhead_clause (by decide) hkinds (horder kinds hkinds')
  have hselective : NotAhead {.all} (spellKindIf p.selective .selective ++
      (clauseLexemes .by groupsLexemes p.groups ++
        (clauseLexemes .orderBy (orderLexemes short) p.order ++ []))) :=
    notAhead_spellKindIf (fun heq => (by cases heq))
      (hby _ (fun heq => (by cases heq)) fun heq => (by cases heq))
  rw [← List.append_nil (p.lexemes short), Phrase.lexemes, List.append_assoc, List.append_assoc,
    List.append_assoc] at hshows
  obtain ⟨c₂, hall, hshows⟩ := Shows.skip (by decide) hshows hselective
  obtain ⟨c₃, hmark, hshows⟩ := Shows.skip (by decide) hshows
    (hby _ (fun heq => (by cases heq)) fun heq => (by cases heq))
  have hbehind : TokenKind.orderBy ∉ insert .by (insert .or (insert .and termContinued)) := by
    intro hmem
    rcases hmem with heq | heq | heq | hterm
    · cases heq
    · cases heq
    · cases heq
    · exact not_mem_termContinued (.inr (.inr rfl)) hterm
  obtain ⟨c₄, hgroups, hshows⟩ := clause_readsBack (by decide) (groups_readsBack h.groups) c₃ _
    hshows (horder _ hbehind)
  obtain ⟨last, hkeys, hshows⟩ := clause_readsBack (by decide)
    (sortPhrases_readsBack short h.order) c₄ _ hshows (hend _)
  have heof : last.current.kind = .eof := by
    unfold Cursor.current
    rw [List.map_eq_nil_iff.mp hshows]
    rfl
  refine ⟨last, ?_⟩
  unfold Cursor.phrase
  simp only [hoperation, hall, hmark, hgroups, hkeys, bind, Except.bind, heof, if_true, pure,
    Except.pure]

/-! ## The name of a phrase -/

theorem words_operation (op : Operation) :
    words op.keyword.toList = [op.keyword] ∧
      op.keyword.toList.getLast?.any Char.isLower = true ∧ '_' ∉ op.keyword.toList := by
  cases op <;> decide

/-- A name of an operation and spelled tokens is read up to behind the operation. -/
theorem start_spelled {name : String} {op : Operation} {ls : List Lexeme} (h : Spelled ls)
    (hname : name.toList = op.keyword.toList ++ spelling ls) :
    ∃ c c₁, Cursor.start name = .ok c ∧ c.operation = .ok (op, c₁) ∧ Shows c₁ ls := by
  obtain ⟨hwords, hlower, hbar⟩ := words_operation op
  obtain ⟨last, hlast, hlower⟩ := (Option.any_eq_true _ _).mp hlower
  have halnum : (last.isUpper || last.isLower || last.isDigit) = true := by
    rw [hlower, Bool.or_true, Bool.true_or]
  have hpieces : piecesOf name = .word op.keyword :: ls.flatMap Lexeme.pieces := by
    rw [piecesOf_eq, hname, pieces_append_spelling h hbar hlast halnum fun _ _ _ => hlower, hwords,
      pieces_spelling h]
    rfl
  have hread : readOperation name =
      .ok (⟨.operation op, op.keyword, 0⟩, ls.flatMap Lexeme.pieces) := by
    unfold readOperation
    rw [hpieces]
    simp only [Operation.ofKeyword?_keyword]
  have htokens := readTokens_spelled h op.keyword.length
  refine ⟨⟨none, ⟨.operation op, op.keyword, 0⟩ :: _, name.length⟩, ⟨_, _, _⟩, ?_, rfl, htokens⟩
  unfold Cursor.start
  rw [hread]

/-- A name with the characters of a phrase, short or not, is parsed as its query. -/
theorem parse_of_toList (short : Bool) {p : Phrase} (h : p.Spellable) {name : String}
    (hname : name.toList = p.operation.keyword.toList ++ spelling (p.lexemes short)) :
    parse name = .ok p.toQuery := by
  obtain ⟨c, c₁, hstart, hoperation, hshows⟩ := start_spelled (p.spelled short h) hname
  obtain ⟨last, hphrase⟩ := phrase_readsBack short h hoperation hshows
  unfold parse
  rw [hstart]
  show (Cursor.parse c).1 = _
  unfold Cursor.parse
  rw [hphrase]

/-- **Every phrase is read back from its name.** The name a phrase is spelled as is parsed as the
query the phrase stands for. If the last sort key is ascending, so is the name without the `Asc` at
its end. -/
theorem parse_spell (p : Phrase) (h : p.Spellable) :
    parse p.spell = .ok p.toQuery ∧
      ∀ name, name ++ "Asc" = p.spell →
        p.order.getLast?.map SortPhrase.direction = some .ascending →
        parse name = .ok p.toQuery := by
  refine ⟨parse_of_toList false h p.toList_spell, fun name hname hascending => ?_⟩
  refine parse_of_toList true h ?_
  have hchars : name.toList ++ "Asc".toList =
      (p.operation.keyword.toList ++ spelling (p.lexemes true)) ++ "Asc".toList := by
    have hasc : spelling (spellKind .asc) = "Asc".toList := by decide
    rw [← String.toList_append, hname, p.toList_spell, Phrase.lexemes_short hascending,
      spelling_append, hasc, List.append_assoc]
  exact List.append_cancel_right hchars

/-- Every part a phrase can have, with names next to keywords that could be cut differently. -/
def samplePhrase : Phrase where
  operation := .find
  all := true
  selective := false
  groups := [
    ⟨true, ⟨["HomeURL", "X1"], .notIn, false⟩, [⟨["Is"], .not, true⟩, ⟨["ID"], .like, false⟩]⟩,
    ⟨false, ⟨["CreatedAt"], .equal, false⟩, []⟩]
  order := [⟨["Order"], .descending⟩, ⟨["A"], .ascending⟩]

/-- A phrase with acronyms and one-letter words is read back, also without the `Asc` at its end. -/
theorem parse_spell_sample :
    samplePhrase.Spellable ∧
      samplePhrase.spell = "findAllBySelectiveHomeURL_X1NotInAndIsNotSelectiveAndIDLike" ++
        "OrCreatedAtOrderByOrderDescAAsc" ∧
      parse samplePhrase.spell = .ok samplePhrase.toQuery ∧
      parse ("findAllBySelectiveHomeURL_X1NotInAndIsNotSelectiveAndIDLike" ++
          "OrCreatedAtOrderByOrderDescA") =
        .ok ⟨.find, true, false,
          some (.binary .or
            (.selective (.binary .and
              (.binary .and (.condition ⟨⟨["homeURL", "x1"]⟩, .notIn⟩)
                (.selective (.condition ⟨⟨["is"]⟩, .not⟩)))
              (.condition ⟨⟨["ID"]⟩, .like⟩)))
            (.condition ⟨⟨["createdAt"]⟩, .equal⟩)),
          some [⟨⟨["order"]⟩, .descending⟩, ⟨⟨["a"]⟩, .ascending⟩]⟩ := by
  have hspellable : samplePhrase.Spellable := by decide
  obtain ⟨hlong, hshort⟩ := parse_spell samplePhrase hspellable
  have hspell : samplePhrase.spell =
      "findAllBySelectiveHomeURL_X1NotInAndIsNotSelectiveAndIDLike" ++
        "OrCreatedAtOrderByOrderDescAAsc" := by
    decide
  refine ⟨hspellable, hspell, hlong, ?_⟩
  rw [hshort _ ?_ (by decide)]
  · decide
  · rw [hspell]
    decide

end DerivedQuery.MethodName
