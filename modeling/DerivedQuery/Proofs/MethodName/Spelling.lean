import DerivedQuery.MethodName.Phrase
import DerivedQuery.Proofs.MethodName.Lexemes

/-!
# The tokens of a phrase

A phrase is spelled part by part, and each part is a few tokens (`Phrase.lexemes`). The direction of
the last sort key may be left out if it is ascending, which `short` says. The tokens are those the
name consists of, and none of them reaches into its neighbour:

> `toList_spell`: the name a phrase is spelled as has the characters of its tokens behind those of
> its operation.

> `Phrase.spelled`: the tokens of a phrase can be spelled one behind the other.
-/

namespace DerivedQuery.MethodName

open DerivedQuery

/-! ## Tokens of the parts -/

/-- The keyword that stands for the kind, if one does: equality has none. -/
def spellKind (kind : TokenKind) : List Lexeme :=
  ((vocabulary.find? fun k => k.kind = kind).map Lexeme.keyword).toList

/-- A keyword is one token of its kind. -/
theorem spellKind_cases (kind : TokenKind) :
    spellKind kind = [] ∨
      ∃ k ∈ vocabulary, k.kind = kind ∧ spellKind kind = [Lexeme.keyword k] := by
  unfold spellKind
  cases hk : vocabulary.find? fun k => k.kind = kind with
  | none => exact .inl rfl
  | some k =>
    have hkind := List.find?_some hk
    rw [decide_eq_true_eq] at hkind
    exact .inr ⟨k, List.mem_of_find?_eq_some hk, hkind, rfl⟩

/-- The keyword that stands for the kind, if it is wanted. -/
def spellKindIf (wanted : Bool) (kind : TokenKind) : List Lexeme :=
  if wanted then spellKind kind else []

/-- The tokens of a path. -/
def pathLexemes (segments : List String) : List Lexeme :=
  [Lexeme.bar].intercalate (segments.map fun text => [Lexeme.segment text])

/-- The tokens of a term. -/
def Term.lexemes (t : Term) : List Lexeme :=
  pathLexemes t.segments ++ spellKind (.comparator t.comparator) ++
    spellKindIf t.selective .selective

/-- The tokens of a group. -/
def TermGroup.lexemes (g : TermGroup) : List Lexeme :=
  spellKindIf g.selective .selective ++
    (spellKind .and).intercalate ((g.first :: g.others).map Term.lexemes)

/-- The token of a direction. -/
def directionKind : Direction → TokenKind
  | .ascending => .asc
  | .descending => .desc

/-- The tokens of a sort key. If it is `short`, there is no `Asc`. -/
def SortPhrase.lexemes (short : Bool) (s : SortPhrase) : List Lexeme :=
  pathLexemes s.segments ++
    spellKindIf (!(short && s.direction = .ascending)) (directionKind s.direction)

/-- The tokens of sort keys. If they are `short`, there is no `Asc` at their end. -/
def orderLexemes (short : Bool) : List SortPhrase → List Lexeme
  | [] => []
  | [s] => s.lexemes short
  | s :: s' :: keys => s.lexemes false ++ orderLexemes short (s' :: keys)

/-- The tokens of a list with a keyword in front, unless the list is empty. -/
def clauseLexemes {α : Type} (kind : TokenKind) (lexemes : List α → List Lexeme) (items : List α) :
    List Lexeme :=
  if items.isEmpty then [] else spellKind kind ++ lexemes items

/-- The tokens of groups. -/
def groupsLexemes (groups : List TermGroup) : List Lexeme :=
  (spellKind .or).intercalate (groups.map TermGroup.lexemes)

/-- The tokens of a phrase behind the operation. If it is `short`, there is no `Asc` at its end. -/
def Phrase.lexemes (short : Bool) (p : Phrase) : List Lexeme :=
  spellKindIf p.all .all ++ spellKindIf p.selective .selective ++
    clauseLexemes .by groupsLexemes p.groups ++ clauseLexemes .orderBy (orderLexemes short) p.order

/-! ## Their characters -/

theorem spelling_append (ls ls' : List Lexeme) :
    spelling (ls ++ ls') = spelling ls ++ spelling ls' := List.flatMap_append

theorem spelling_intercalate (separator : List Lexeme) (parts : List (List Lexeme)) :
    spelling (separator.intercalate parts) =
      (spelling separator).intercalate (parts.map spelling) := by
  induction parts with
  | nil => rfl
  | cons part parts ih =>
    cases parts with
    | nil => rw [List.map_singleton, List.intercalate_singleton, List.intercalate_singleton]
    | cons part' parts =>
      rw [List.intercalate_cons_cons, List.map_cons, List.map_cons, List.intercalate_cons_cons,
        spelling_append, spelling_append, ih, List.map_cons]

theorem spelling_spellKindIf (wanted : Bool) (kind : TokenKind) (text : String)
    (h : spelling (spellKind kind) = text.toList) :
    spelling (spellKindIf wanted kind) = (spellIf wanted text).toList := by
  cases wanted with
  | true => exact h
  | false => rfl

theorem toList_spellPath (segments : List String) :
    (spellPath segments).toList = spelling (pathLexemes segments) := by
  unfold spellPath pathLexemes
  rw [String.toList_intercalate, spelling_intercalate, List.map_map]
  congr 1
  refine List.map_congr_left fun text _ => ?_
  show text.toList = text.toList ++ []
  rw [List.append_nil]

theorem toList_spellComparator (op : Comparator) :
    (spellComparator op).toList = spelling (spellKind (.comparator op)) := by
  cases op <;> decide

theorem Term.toList_spell (t : Term) : t.spell.toList = spelling t.lexemes := by
  unfold Term.spell Term.lexemes
  rw [String.toList_append, String.toList_append, spelling_append, spelling_append,
    toList_spellPath, toList_spellComparator,
    spelling_spellKindIf _ .selective "Selective" (by decide)]

theorem TermGroup.toList_spell (g : TermGroup) : g.spell.toList = spelling g.lexemes := by
  unfold TermGroup.spell TermGroup.lexemes
  rw [String.toList_append, String.toList_intercalate, spelling_append, spelling_intercalate,
    spelling_spellKindIf _ .selective "Selective" (by decide), List.map_map, List.map_map]
  have hand : spelling (spellKind .and) = "And".toList := by decide
  rw [hand]
  congr 2
  exact List.map_congr_left fun t _ => t.toList_spell

theorem toList_spell_groups (groups : List TermGroup) :
    ("Or".intercalate (groups.map TermGroup.spell)).toList = spelling (groupsLexemes groups) := by
  have hor : spelling (spellKind .or) = "Or".toList := by decide
  unfold groupsLexemes
  rw [String.toList_intercalate, spelling_intercalate, hor, List.map_map, List.map_map]
  congr 1
  exact List.map_congr_left fun g _ => g.toList_spell

theorem SortPhrase.toList_spell (s : SortPhrase) :
    s.spell.toList = spelling (s.lexemes false) := by
  have hdirection : s.direction.name.toList = spelling (spellKind (directionKind s.direction)) := by
    cases s.direction <;> decide
  unfold SortPhrase.spell SortPhrase.lexemes
  rw [String.toList_append, toList_spellPath, hdirection, spelling_append]
  rfl

theorem toList_spell_order (keys : List SortPhrase) :
    (String.join (keys.map SortPhrase.spell)).toList = spelling (orderLexemes false keys) := by
  induction keys with
  | nil => rfl
  | cons s keys ih =>
    rw [List.map_cons, String.join_cons, String.toList_append, ih, s.toList_spell]
    cases keys with
    | nil =>
      show spelling (s.lexemes false) ++ [] = spelling (s.lexemes false)
      rw [List.append_nil]
    | cons s' keys => rw [orderLexemes, spelling_append]

/-- The characters of a clause, given those of its items. -/
theorem spelling_clauseLexemes {α : Type} (kind : TokenKind) {lexemes : List α → List Lexeme}
    {items : List α} {keyword text : String} (hkeyword : spelling (spellKind kind) = keyword.toList)
    (htext : text.toList = spelling (lexemes items)) :
    (if items.isEmpty then "" else keyword ++ text).toList =
      spelling (clauseLexemes kind lexemes items) := by
  unfold clauseLexemes
  by_cases hempty : items.isEmpty = true
  · rw [if_pos hempty, if_pos hempty]
    rfl
  · rw [if_neg hempty, if_neg hempty, String.toList_append, spelling_append, hkeyword, htext]

/-- **A phrase is spelled token by token.** -/
theorem Phrase.toList_spell (p : Phrase) :
    p.spell.toList = p.operation.keyword.toList ++ spelling (p.lexemes false) := by
  unfold Phrase.spell Phrase.lexemes
  rw [String.toList_append, String.toList_append, String.toList_append, String.toList_append,
    spelling_append, spelling_append, spelling_append,
    spelling_spellKindIf _ .all "All" (by decide),
    spelling_spellKindIf _ .selective "Selective" (by decide),
    spelling_clauseLexemes .by (by decide) (toList_spell_groups p.groups),
    spelling_clauseLexemes .orderBy (by decide) (toList_spell_order p.order)]
  simp only [List.append_assoc]

/-- An ascending sort key is spelled short by leaving out its `Asc`. -/
theorem SortPhrase.lexemes_short {s : SortPhrase} (h : s.direction = .ascending) :
    s.lexemes false = s.lexemes true ++ spellKind .asc := by
  unfold SortPhrase.lexemes
  rw [h]
  show _ ++ spellKind .asc = (_ ++ []) ++ spellKind .asc
  rw [List.append_nil]

theorem orderLexemes_short {keys : List SortPhrase}
    (h : keys.getLast?.map SortPhrase.direction = some .ascending) :
    orderLexemes false keys = orderLexemes true keys ++ spellKind .asc := by
  induction keys with
  | nil => cases h
  | cons s keys ih =>
    cases keys with
    | nil => exact SortPhrase.lexemes_short (Option.some.inj h)
    | cons s' keys =>
      rw [List.getLast?_cons_cons] at h
      rw [orderLexemes, orderLexemes, ih h, List.append_assoc]

theorem Phrase.lexemes_short {p : Phrase}
    (h : p.order.getLast?.map SortPhrase.direction = some .ascending) :
    p.lexemes false = p.lexemes true ++ spellKind .asc := by
  have hempty : p.order.isEmpty ≠ true := by
    intro hempty
    rw [List.isEmpty_iff.mp hempty] at h
    cases h
  unfold Phrase.lexemes clauseLexemes
  rw [if_neg hempty, if_neg hempty, orderLexemes_short h]
  simp only [List.append_assoc]

/-! ## Tokens that stand apart -/

/-- Spelled tokens that begin with one of the kinds `starts` and end with one of `ends`. -/
structure Block (starts ends : Set TokenKind) (ls : List Lexeme) : Prop where
  spelled : Spelled ls
  starts : ∃ l, ls.head? = some l ∧ l.kind ∈ starts
  ends : ∃ l, ls.getLast? = some l ∧ l.kind ∈ ends

section Block

variable {S T E F : Set TokenKind} {ls ls' : List Lexeme}

theorem Block.mono (h : Block S E ls) (hS : S ⊆ T) (hE : E ⊆ F) : Block T F ls := by
  obtain ⟨hspelled, ⟨l, hl, hstart⟩, l', hl', hend⟩ := h
  exact ⟨hspelled, ⟨l, hl, hS hstart⟩, l', hl', hE hend⟩

/-- Two blocks can stand next to each other if the tokens at the border are read apart. -/
theorem Block.append (h : Block S E ls) (h' : Block T F ls')
    (hapart : ∀ k ∈ E, ∀ k' ∈ T, readApart k k' = true) : Block S F (ls ++ ls') := by
  obtain ⟨⟨hvalid, hchain⟩, ⟨l, hl, hstart⟩, last, hlast, hend⟩ := h
  obtain ⟨⟨hvalid', hchain'⟩, ⟨l', hl', hstart'⟩, last', hlast', hend'⟩ := h'
  refine ⟨⟨?_, ?_⟩, ⟨l, ?_, hstart⟩, last', ?_, hend'⟩
  · intro x hx
    rcases List.mem_append.mp hx with hx | hx
    · exact hvalid x hx
    · exact hvalid' x hx
  · rw [List.isChain_append]
    refine ⟨hchain, hchain', fun x hx y hy => ?_⟩
    obtain rfl := Option.some.inj (hlast.symm.trans hx)
    obtain rfl := Option.some.inj (hl'.symm.trans hy)
    exact hapart _ hend _ hstart'
  · rw [List.head?_append, hl]
    rfl
  · rw [List.getLast?_append, hlast']
    rfl

theorem block_singleton {l : Lexeme} (h : l.Valid) : Block {l.kind} {l.kind} [l] := by
  refine ⟨⟨?_, List.isChain_singleton l⟩, ⟨l, rfl, rfl⟩, l, rfl, rfl⟩
  intro x hx
  rw [List.mem_singleton.mp hx]
  exact h

/-- A keyword is a block, if there is one for the kind. -/
theorem block_spellKind (kind : TokenKind) :
    spellKind kind = [] ∨ Block {kind} {kind} (spellKind kind) := by
  rcases spellKind_cases kind with hnil | ⟨k, hk, rfl, hkeyword⟩
  · exact .inl hnil
  · rw [hkeyword]
    exact .inr (block_singleton (l := .keyword k) hk)

/-- A part that may be missing can stand behind a block. -/
theorem Block.append_optional (h : Block S E ls) (h' : ls' = [] ∨ Block T F ls')
    (hapart : ∀ k ∈ E, ∀ k' ∈ T, readApart k k' = true) : Block S (E ∪ F) (ls ++ ls') := by
  rcases h' with rfl | h'
  · rw [List.append_nil]
    exact h.mono subset_rfl Set.subset_union_left
  · exact (h.append h' hapart).mono subset_rfl Set.subset_union_right

/-- A part that may be missing can stand in front of a block. -/
theorem Block.prepend_optional (h' : Block T F ls') (h : ls = [] ∨ Block S E ls)
    (hapart : ∀ k ∈ E, ∀ k' ∈ T, readApart k k' = true) : Block (S ∪ T) F (ls ++ ls') := by
  rcases h with rfl | h
  · exact h'.mono Set.subset_union_right subset_rfl
  · exact (h.append h' hapart).mono Set.subset_union_left subset_rfl

/-- Parts that may be missing can stand next to each other. -/
theorem optional_append (h : ls = [] ∨ Block S E ls) (h' : ls' = [] ∨ Block T F ls')
    (hapart : ∀ k ∈ E, ∀ k' ∈ T, readApart k k' = true) :
    ls ++ ls' = [] ∨ Block (S ∪ T) (E ∪ F) (ls ++ ls') := by
  rcases h' with rfl | h'
  · rw [List.append_nil]
    exact h.imp_right fun h => h.mono Set.subset_union_left Set.subset_union_left
  · exact .inr ((h'.prepend_optional h hapart).mono subset_rfl Set.subset_union_right)

/-- Blocks with a separator between them are a block. -/
theorem block_intercalate {α : Type} {separator : List Lexeme} {lexemes : α → List Lexeme}
    {items : List α} (hseparator : Block T F separator)
    (hitems : ∀ x ∈ items, Block S E (lexemes x))
    (hne : items ≠ []) (hbefore : ∀ k ∈ E, ∀ k' ∈ T, readApart k k' = true)
    (hbehind : ∀ k ∈ F, ∀ k' ∈ S, readApart k k' = true) :
    Block S E (separator.intercalate (items.map lexemes)) := by
  induction items with
  | nil => exact absurd rfl hne
  | cons x items ih =>
    have hx := hitems x List.mem_cons_self
    cases items with
    | nil =>
      rw [List.map_singleton, List.intercalate_singleton]
      exact hx
    | cons y items =>
      rw [List.map_cons, List.map_cons, List.intercalate_cons_cons]
      have hrest := ih (fun z hz => hitems z (List.mem_cons_of_mem x hz)) (List.cons_ne_nil y items)
      exact (hx.append hseparator hbefore).append hrest hbehind

end Block

/-- Segments that can be spelled as a path: at least one, and each can be spelled. -/
def IsPath (segments : List String) : Prop := segments ≠ [] ∧ ∀ text ∈ segments, IsSegment text

instance (segments : List String) : Decidable (IsPath segments) :=
  inferInstanceAs (Decidable (_ ∧ _))

/-- A phrase whose paths can all be spelled. -/
structure Phrase.Spellable (p : Phrase) : Prop where
  groups : ∀ g ∈ p.groups, ∀ t ∈ g.first :: g.others, IsPath t.segments
  order : ∀ s ∈ p.order, IsPath s.segments

instance (p : Phrase) : Decidable p.Spellable :=
  decidable_of_iff ((∀ g ∈ p.groups, ∀ t ∈ g.first :: g.others, IsPath t.segments) ∧
      ∀ s ∈ p.order, IsPath s.segments)
    ⟨fun ⟨h, h'⟩ => ⟨h, h'⟩, fun ⟨h, h'⟩ => ⟨h, h'⟩⟩

/-- The kinds a term can end with. -/
def termEnds : Set TokenKind := {.property} ∪ Set.range .comparator ∪ {.selective}

/-- The kinds a sort key can end with. -/
def sortEnds : Set TokenKind := {.property, .asc, .desc}

theorem apart_singletons {k k' : TokenKind} (h : readApart k k' = true) :
    ∀ x ∈ ({k} : Set TokenKind), ∀ y ∈ ({k'} : Set TokenKind), readApart x y = true := by
  intro x hx y hy
  rw [Set.mem_singleton_iff.mp hx, Set.mem_singleton_iff.mp hy]
  exact h

theorem block_spellKindIf (wanted : Bool) (kind : TokenKind) :
    spellKindIf wanted kind = [] ∨ Block {kind} {kind} (spellKindIf wanted kind) := by
  cases wanted with
  | true => exact block_spellKind kind
  | false => exact .inl rfl

theorem block_path {segments : List String} (h : IsPath segments) :
    Block {.property} {.property} (pathLexemes segments) :=
  block_intercalate (block_singleton (l := .bar) trivial)
    (fun text htext => block_singleton (l := .segment text) (h.2 text htext)) h.1
    (apart_singletons rfl) (apart_singletons rfl)

/-- A term begins with a segment. -/
theorem block_term {t : Term} (h : IsPath t.segments) : Block {.property} termEnds t.lexemes := by
  have hcompared : Block {.property} ({.property} ∪ Set.range .comparator)
      (pathLexemes t.segments ++ spellKind (.comparator t.comparator)) := by
    refine ((block_path h).append_optional (block_spellKind _) (apart_singletons rfl)).mono
      subset_rfl ?_
    exact Set.union_subset_union_right _ (Set.singleton_subset_iff.mpr ⟨_, rfl⟩)
  refine hcompared.append_optional (block_spellKindIf _ _) ?_
  intro k hk k' hk'
  obtain rfl := Set.mem_singleton_iff.mp hk'
  rcases hk with rfl | ⟨op, rfl⟩
  · rfl
  · rfl

/-- Behind a term, every keyword but `By` and the comparators is read apart. -/
theorem readApart_of_mem_termEnds {k' : TokenKind}
    (h' : k' ∈ ({.and, .or, .orderBy} : Set TokenKind)) :
    ∀ k ∈ termEnds, ∀ y ∈ ({k'} : Set TokenKind), readApart k y = true := by
  intro k hk y hy
  rw [Set.mem_singleton_iff.mp hy]
  rcases hk with (rfl | ⟨op, rfl⟩) | rfl
  all_goals
    rcases h' with rfl | rfl | rfl
    all_goals rfl

theorem block_terms {terms : List Term} (h : ∀ t ∈ terms, IsPath t.segments) (hne : terms ≠ []) :
    Block {.property} termEnds ((spellKind .and).intercalate (terms.map Term.lexemes)) :=
  block_intercalate ((block_spellKind .and).resolve_left (by decide))
    (fun t ht => block_term (h t ht)) hne (readApart_of_mem_termEnds (.inl rfl))
    (apart_singletons rfl)

/-- A group begins with its mark or with a segment. -/
theorem block_group {g : TermGroup} (h : ∀ t ∈ g.first :: g.others, IsPath t.segments) :
    Block ({.selective} ∪ {.property}) termEnds g.lexemes :=
  (block_terms h (List.cons_ne_nil _ _)).prepend_optional (block_spellKindIf _ _)
    (apart_singletons rfl)

theorem block_groups {groups : List TermGroup}
    (h : ∀ g ∈ groups, ∀ t ∈ g.first :: g.others, IsPath t.segments) (hne : groups ≠ []) :
    Block ({.selective} ∪ {.property}) termEnds (groupsLexemes groups) := by
  refine block_intercalate ((block_spellKind .or).resolve_left (by decide))
    (fun g hg => block_group (h g hg)) hne (readApart_of_mem_termEnds (.inr (.inl rfl))) ?_
  intro k hk k' _
  rw [Set.mem_singleton_iff.mp hk]
  rfl

theorem directionKind_mem (d : Direction) :
    directionKind d ∈ ({.asc, .desc} : Set TokenKind) := by
  cases d with
  | ascending => exact .inl rfl
  | descending => exact .inr rfl

/-- A direction stands apart from a segment in front of it. -/
theorem apart_direction (d : Direction) :
    ∀ x ∈ ({.property} : Set TokenKind), ∀ y ∈ ({directionKind d} : Set TokenKind),
      readApart x y = true := by
  cases d with
  | ascending => exact apart_singletons rfl
  | descending => exact apart_singletons rfl

theorem block_sortPhrase (short : Bool) {s : SortPhrase} (h : IsPath s.segments) :
    Block {.property} sortEnds (s.lexemes short) :=
  ((block_path h).append_optional (block_spellKindIf _ _) (apart_direction s.direction)).mono
    subset_rfl
    (Set.union_subset_union_right _ (Set.singleton_subset_iff.mpr (directionKind_mem _)))

/-- A sort key that is not short does not end with a segment. -/
theorem block_sortPhrase_long {s : SortPhrase} (h : IsPath s.segments) :
    Block {.property} {.asc, .desc} (s.lexemes false) := by
  have hdirection : Block {directionKind s.direction} {directionKind s.direction}
      (spellKind (directionKind s.direction)) := by
    refine (block_spellKind _).resolve_left ?_
    cases s.direction <;> decide
  exact ((block_path h).append hdirection (apart_direction s.direction)).mono subset_rfl
    (Set.singleton_subset_iff.mpr (directionKind_mem _))

theorem block_order (short : Bool) {keys : List SortPhrase} (h : ∀ s ∈ keys, IsPath s.segments)
    (hne : keys ≠ []) : Block {.property} sortEnds (orderLexemes short keys) := by
  induction keys with
  | nil => exact absurd rfl hne
  | cons s keys ih =>
    have hs := h s List.mem_cons_self
    cases keys with
    | nil => exact block_sortPhrase short hs
    | cons s' keys =>
      have hkeys := ih (fun s hmem => h s (List.mem_cons_of_mem _ hmem)) (List.cons_ne_nil _ _)
      -- only the last sort key can be short, so a direction stands in front of the next segment
      refine (block_sortPhrase_long hs).append hkeys ?_
      intro k hk k' hk'
      obtain rfl := Set.mem_singleton_iff.mp hk'
      rcases hk with rfl | rfl
      · rfl
      · rfl

theorem block_clause {α : Type} (kind : TokenKind) {lexemes : List α → List Lexeme}
    {items : List α} {S E : Set TokenKind} (h : items ≠ [] → Block S E (lexemes items))
    (hkind : spellKind kind ≠ []) (hapart : ∀ k ∈ S, readApart kind k = true) :
    clauseLexemes kind lexemes items = [] ∨ Block {kind} E (clauseLexemes kind lexemes items) := by
  unfold clauseLexemes
  by_cases hempty : items.isEmpty = true
  · rw [if_pos hempty]
    exact .inl rfl
  · rw [if_neg hempty]
    have hitems := h fun hnil => hempty (List.isEmpty_iff.mpr hnil)
    refine .inr (((block_spellKind kind).resolve_left hkind).append hitems ?_)
    intro k hk k' hk'
    rw [Set.mem_singleton_iff.mp hk]
    exact hapart k' hk'

/-- **The tokens of a phrase can be spelled one behind the other.** -/
theorem Phrase.spelled (short : Bool) {p : Phrase} (h : p.Spellable) :
    Spelled (p.lexemes short) := by
  have hhead := optional_append (block_spellKindIf p.all .all)
    (block_spellKindIf p.selective .selective) (apart_singletons rfl)
  have hby := block_clause .by (block_groups h.groups) (by decide) fun _ _ => rfl
  have horder := block_clause .orderBy (block_order short h.order) (by decide) fun _ _ => rfl
  have hcondition := optional_append hhead hby fun k hk k' hk' => by
    rcases hk with hk | hk
    · exact apart_singletons rfl k hk k' hk'
    · exact apart_singletons rfl k hk k' hk'
  have hall := optional_append hcondition horder fun k hk k' hk' => by
    rcases hk with (hk | hk) | hk
    · exact apart_singletons rfl k hk k' hk'
    · exact apart_singletons rfl k hk k' hk'
    · exact readApart_of_mem_termEnds (.inr (.inr rfl)) k hk k' hk'
  rcases hall with hnil | hblock
  · have hnil : p.lexemes short = [] := hnil
    rw [hnil]
    exact ⟨fun l hl => (by cases hl), List.isChain_nil⟩
  · exact hblock.spelled

end DerivedQuery.MethodName
