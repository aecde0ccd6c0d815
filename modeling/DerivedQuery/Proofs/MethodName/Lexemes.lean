import DerivedQuery.Proofs.MethodName.Pieces
import Mathlib.Data.List.Chain
import Mathlib.Data.List.Find

/-!
# Reading spelled tokens back

A name can be spelled token by token: keywords, segments and the bars between segments, one behind
the other. Nothing in the name marks where one ends, so the lexer finds the same tokens again only
if no camel word and no keyword reaches across a border. Two conditions keep the tokens apart: the
segments hold no keyword of their own (`IsSegment`), and only tokens stand next to each other that
are not read as one (`readApart`).

> `pieces_spelling`: the pieces of the name are those of its tokens.

> `readTokens_spelled`: the lexer reads these tokens from them.
-/

namespace DerivedQuery.MethodName

open DerivedQuery Naming Unicode

/-! ## Tokens as they are spelled -/

/-- Whether no keyword stands at any of the words. -/
def keywordFree : List String → Bool
  | [] => true
  | word :: others => (keyword? word others).isNone && keywordFree others

/-- A text that can be spelled as a segment: ASCII letters and digits, an upper-case letter first,
and no keyword at any of its words. -/
structure IsSegment (text : String) : Prop where
  upper : text.toList.head?.any Char.isUpper = true
  alphanumeric : ∀ c ∈ text.toList, c.isAlphanum = true
  free : keywordFree (words text.toList) = true

instance (text : String) : Decidable (IsSegment text) :=
  decidable_of_iff
    ((text.toList.head?.any Char.isUpper && text.toList.all Char.isAlphanum &&
      keywordFree (words text.toList)) = true) <| by
    rw [Bool.and_eq_true, Bool.and_eq_true, List.all_eq_true]
    exact ⟨fun ⟨⟨h, h'⟩, h''⟩ => ⟨h, h', h''⟩, fun ⟨h, h', h''⟩ => ⟨⟨h, h'⟩, h''⟩⟩

/-- A token as it is spelled. -/
inductive Lexeme
  | keyword (k : Keyword)
  | segment (text : String)
  | bar
deriving DecidableEq, Repr

namespace Lexeme

/-- What the token stands for. -/
def kind : Lexeme → TokenKind
  | keyword k => k.kind
  | segment _ => .property
  | bar => .pathSeparator

/-- The characters of the token. -/
def text : Lexeme → String
  | keyword k => k.text
  | segment text => text
  | bar => "_"

/-- The pieces of the token. -/
def pieces : Lexeme → List Piece
  | keyword k => k.words.map Piece.word
  | segment text => (words text.toList).map Piece.word
  | bar => [Piece.underscore]

/-- The keyword is one of the vocabulary, the segment one that can be spelled. -/
def Valid : Lexeme → Prop
  | keyword k => k ∈ vocabulary
  | segment text => IsSegment text
  | bar => True

end Lexeme

/-- Whether a token stands for a comparator. -/
def TokenKind.isComparator : TokenKind → Bool
  | .comparator _ => true
  | _ => false

/-- Whether neighbouring tokens of these kinds are always read as two. Two segments would be one
property name, a segment that ends in `Order` would take a `By` away, and a comparator can be the
beginning of a longer one. -/
def readApart (first second : TokenKind) : Bool :=
  match first with
  | .property => second ≠ .property && second ≠ .by
  | .comparator _ => second ≠ .property && second ≠ .by && !second.isComparator
  | _ => true

/-- Neither a property nor `By` nor a comparator stands behind a comparator. -/
theorem of_readApart_comparator {first second : TokenKind} (hfirst : first.isComparator = true)
    (h : readApart first second = true) :
    second ≠ .property ∧ second ≠ .by ∧ second.isComparator = false := by
  cases first with
  | comparator op => simpa [readApart, and_assoc] using h
  | _ => cases hfirst

/-- The characters of the tokens, one behind the other. -/
def spelling (lexemes : List Lexeme) : List Char := lexemes.flatMap fun l => l.text.toList

/-- Tokens that can be spelled one behind the other. -/
structure Spelled (lexemes : List Lexeme) : Prop where
  valid : ∀ l ∈ lexemes, l.Valid
  apart : lexemes.IsChain fun l l' => readApart l.kind l'.kind = true

section Spelled

variable {l l' : Lexeme} {ls : List Lexeme}

theorem Spelled.tail (h : Spelled (l :: ls)) : Spelled ls :=
  ⟨fun l' hl' => h.valid l' (List.mem_cons_of_mem l hl'), h.apart.tail⟩

theorem Spelled.head_valid (h : Spelled (l :: ls)) : l.Valid := h.valid l List.mem_cons_self

theorem Spelled.head_apart (h : Spelled (l :: l' :: ls)) : readApart l.kind l'.kind = true :=
  h.apart.rel

end Spelled

/-! ## The vocabulary -/

/-- Whether a text starts with a capital and a small letter. -/
def startsCapitalized : List Char → Bool
  | c :: d :: _ => isUppercase c && !isLowercase c && isLowercase d
  | _ => false

theorem of_startsCapitalized {text : List Char} (h : startsCapitalized text = true) :
    ∃ c d tail, text = c :: d :: tail ∧ isUppercase c = true ∧ isLowercase c = false ∧
      isLowercase d = true := by
  unfold startsCapitalized at h
  split at h
  · next c d tail =>
    rw [Bool.and_eq_true, Bool.and_eq_true, Bool.not_eq_true'] at h
    exact ⟨c, d, tail, rfl, h.1.1, h.1.2, h.2⟩
  · cases h

/-- A keyword is cut into its words, starts with a capital and a small letter and ends in a small
letter. -/
theorem text_of_mem_vocabulary : ∀ k ∈ vocabulary,
    words k.text.toList = k.words ∧ startsCapitalized k.text.toList = true ∧
      k.text.toList.getLast?.any Char.isLower = true ∧ '_' ∉ k.text.toList := by
  decide

theorem keyword?_words : ∀ k ∈ vocabulary, keyword? k.first k.others = some k := by decide

/-- A word that is a keyword alone is the first word of no other keyword than a comparator. -/
theorem eq_of_first_eq : ∀ k ∈ vocabulary, k.kind.isComparator = false →
    ∀ k' ∈ vocabulary, k'.first = k.first → k' = k := by
  decide

/-- The keywords that can go on into a keyword behind them. -/
theorem first_mem_others : ∀ k ∈ vocabulary, ∀ k' ∈ vocabulary, k'.kind ≠ .by →
    k'.first ∈ k.others → k'.kind.isComparator = true ∧
      (k.first = "Not" ∨ k.others = ["Not", "Null"]) := by
  decide

/-- No keyword starts with `Null`, and none that starts with `Not` has it behind that. -/
theorem null_not_first : ∀ k ∈ vocabulary,
    k.first ≠ "Null" ∧ (k.first = "Not" → "Null" ∉ k.others) := by
  decide

/-- Words behind a place do not change which keyword stands there, if no keyword that starts with
the word goes on into them. -/
theorem keyword?_append {word : String} {others more : List String}
    (h : ∀ k ∈ vocabulary, k.first = word → ∀ next, next ≠ [] → next <+: more →
      k.others ≠ others ++ next) :
    keyword? word (others ++ more) = keyword? word others := by
  unfold keyword?
  refine List.find?_congr fun k hk => ?_
  by_cases hfirst : k.first = word
  · have hsame : k.others <+: others ++ more ↔ k.others <+: others := by
      refine ⟨fun hprefix => ?_, fun hprefix => hprefix.trans (List.prefix_append _ _)⟩
      rcases List.prefix_or_prefix_of_prefix hprefix (List.prefix_append others more) with
        hshort | ⟨next, hnext⟩
      · exact hshort
      · -- the keyword has all the words of `others` and goes on with `next`
        have hmore : next <+: more := by
          rwa [← hnext, List.prefix_append_right_inj] at hprefix
        by_cases hnil : next = []
        · rw [hnil, List.append_nil] at hnext
          exact hnext ▸ List.prefix_refl others
        · exact absurd hnext.symm (h k hk hfirst next hnil hmore)
    rw [Bool.eq_iff_iff]
    simp only [Bool.and_eq_true, List.isPrefixOf_iff_prefix, hsame]
  · have hne : (k.first == word) = false := beq_eq_false_iff_ne.mpr hfirst
    rw [hne, Bool.false_and, Bool.false_and]

/-- A word at which no keyword stands is no keyword on its own. -/
theorem ne_not_of_keyword? {word : String} {others : List String}
    (h : keyword? word others = none) : word ≠ "Not" := by
  rintro rfl
  have hnot := List.find?_eq_none.mp h ⟨.comparator .not, "Not", []⟩ (by decide)
  exact hnot rfl

/-! ## The pieces of a spelled name -/

theorem le_of_isUpper {c : Char} (h : c.isUpper = true) : c.val ≤ 'Z'.val :=
  (of_decide_eq_true h).2

theorem le_of_isLower {c : Char} (h : c.isLower = true) : 'a'.val ≤ c.val ∧ c.val ≤ 'z'.val := by
  have hand : (decide (c.val ≥ 'a'.val) && decide (c.val ≤ 'z'.val)) = true := h
  rwa [Bool.and_eq_true, decide_eq_true_eq, decide_eq_true_eq] at hand

theorem le_of_isDigit {c : Char} (h : c.isDigit = true) : c.val ≤ '9'.val := by
  have hand : (decide (c.val ≥ '0'.val) && decide (c.val ≤ '9'.val)) = true := h
  rw [Bool.and_eq_true, decide_eq_true_eq, decide_eq_true_eq] at hand
  exact hand.2

/-- A letter or digit of ASCII is upper case, lower case or a digit, and in ASCII. -/
theorem ascii_of_isAlphanum {c : Char} (h : c.isAlphanum = true) :
    c.val < 0x80 ∧ (c.isUpper = true ∨ c.isLower = true ∨ c.isDigit = true) := by
  have hcases : c.isUpper = true ∨ c.isLower = true ∨ c.isDigit = true := by
    have hor : (c.isUpper || c.isLower || c.isDigit) = true := h
    rwa [Bool.or_eq_true, Bool.or_eq_true, or_assoc] at hor
  refine ⟨?_, hcases⟩
  rcases hcases with h | h | h
  · exact UInt32.lt_of_le_of_lt (le_of_isUpper h) (by decide)
  · exact UInt32.lt_of_le_of_lt (le_of_isLower h).2 (by decide)
  · exact UInt32.lt_of_le_of_lt (le_of_isDigit h) (by decide)

/-- The characters of a segment: an upper-case letter first, a letter or digit last, and no
underscore. -/
theorem IsSegment.chars {text : String} (h : IsSegment text) :
    (∃ c tail, text.toList = c :: tail ∧ isUppercase c = true ∧ isLowercase c = false) ∧
      (∃ last, text.toList.getLast? = some last ∧ last.isAlphanum = true) ∧
      '_' ∉ text.toList := by
  obtain ⟨hupper, halnum, -⟩ := h
  cases hchars : text.toList with
  | nil =>
    rw [hchars] at hupper
    cases hupper
  | cons c tail =>
    rw [hchars] at hupper halnum
    have hc : c.isUpper = true := hupper
    obtain ⟨hascii, -⟩ := ascii_of_isAlphanum (halnum c List.mem_cons_self)
    refine ⟨⟨c, tail, rfl, ?_, ?_⟩, ⟨(c :: tail).getLast (List.cons_ne_nil c tail), ?_, ?_⟩, ?_⟩
    · rw [isUppercase_of_ascii hascii, hc]
    · rw [isLowercase_of_ascii hascii]
      refine Bool.eq_false_iff.mpr fun hlower => ?_
      exact absurd (UInt32.le_trans (le_of_isLower hlower).1 (le_of_isUpper hc)) (by decide)
    · rw [List.getLast?_eq_some_getLast]
    · exact halnum _ (List.getLast_mem _)
    · intro hmem
      exact absurd (halnum _ hmem) (by decide)

/-- Behind a letter or digit, a word starts at every text that starts with a capital and a small
letter; behind a small letter, at every segment. -/
theorem wordFollows_spelling {last : Char} {l : Lexeme} {ls : List Lexeme} (hl : l.Valid)
    (hlast : last.isAlphanum = true) (hbar : l ≠ .bar)
    (hsegment : l.kind = .property → last.isLower = true) :
    WordFollows last (spelling (l :: ls)) := by
  obtain ⟨hascii, hcases⟩ := ascii_of_isAlphanum hlast
  unfold spelling
  rw [List.flatMap_cons]
  cases l with
  | keyword k =>
    obtain ⟨-, hcapital, -⟩ := text_of_mem_vocabulary k hl
    obtain ⟨c, d, tail, hchars, hupper, hlower, hd⟩ := of_startsCapitalized hcapital
    show WordFollows last (k.text.toList ++ _)
    rw [hchars]
    refine ⟨c, _, rfl, hlower, ?_⟩
    show isWordStart last c (some d) = true
    unfold isWordStart
    rw [isUppercase_of_ascii hascii, isLowercase_of_ascii hascii, hupper, Option.any_some, hd]
    rcases hcases with h | h | h
    all_goals simp [h]
  | segment text =>
    obtain ⟨⟨c, tail, hchars, hupper, hlower⟩, -⟩ := IsSegment.chars hl
    show WordFollows last (text.toList ++ _)
    rw [hchars]
    refine ⟨c, _, rfl, hlower, ?_⟩
    unfold isWordStart
    rw [hupper, isLowercase_of_ascii hascii, hsegment rfl, Bool.true_or, Bool.true_or,
      Bool.true_and]
  | bar => exact absurd rfl hbar

/-- A text that ends in a letter or digit keeps its pieces in front of spelled tokens, if a segment
only follows on a small letter. -/
theorem pieces_append_spelling {text : List Char} {last : Char} {ls : List Lexeme}
    (hls : Spelled ls) (hbar : '_' ∉ text) (hlast : text.getLast? = some last)
    (halnum : last.isAlphanum = true)
    (hsegment : ∀ l ∈ ls.head?, l.kind = .property → last.isLower = true) :
    pieces (text ++ spelling ls) = (words text).map Piece.word ++ pieces (spelling ls) := by
  cases ls with
  | nil =>
    show pieces (text ++ []) = _ ++ []
    rw [List.append_nil, List.append_nil, pieces_of_not_mem hbar]
  | cons l ls =>
    by_cases hl : l = .bar
    · subst hl
      show pieces (text ++ '_' :: spelling ls) = _ ++ pieces ([] ++ '_' :: spelling ls)
      rw [pieces_append_underscore hbar, pieces_append_underscore List.not_mem_nil]
      rfl
    · exact pieces_append hbar hlast
        (wordFollows_spelling hls.head_valid halnum hl (hsegment l rfl))

/-- The pieces of a spelled name are those of its tokens. -/
theorem pieces_spelling {ls : List Lexeme} (h : Spelled ls) :
    pieces (spelling ls) = ls.flatMap Lexeme.pieces := by
  induction ls with
  | nil => rfl
  | cons l ls ih =>
    rw [List.flatMap_cons, ← ih h.tail]
    show pieces (l.text.toList ++ spelling ls) = _
    -- a segment is never followed by another one
    cases l with
    | keyword k =>
      obtain ⟨hwords, -, hlower, hbar⟩ := text_of_mem_vocabulary k h.head_valid
      obtain ⟨last, hlast, hlower⟩ := (Option.any_eq_true _ _).mp hlower
      show pieces (k.text.toList ++ spelling ls) = k.words.map Piece.word ++ _
      rw [← hwords]
      have halnum : (last.isUpper || last.isLower || last.isDigit) = true := by
        rw [hlower, Bool.or_true, Bool.true_or]
      exact pieces_append_spelling h.tail hbar hlast halnum fun _ _ _ => hlower
    | segment text =>
      obtain ⟨-, ⟨last, hlast, halnum⟩, hbar⟩ := IsSegment.chars h.head_valid
      refine pieces_append_spelling h.tail hbar hlast halnum fun l' hl' hkind => ?_
      cases ls with
      | nil => cases hl'
      | cons _ ls =>
        cases hl'
        have hapart := h.head_apart
        rw [hkind] at hapart
        cases hapart
    | bar =>
      show pieces ([] ++ '_' :: spelling ls) = _
      rw [pieces_append_underscore List.not_mem_nil]
      rfl

/-! ## The tokens of a spelled name -/

/-- The words at the front of spelled tokens. -/
def wordsAhead (ls : List Lexeme) : List String := leadingWords (ls.flatMap Lexeme.pieces)

theorem leadingWords_append (ws : List String) (rest : List Piece) :
    leadingWords (ws.map Piece.word ++ rest) = ws ++ leadingWords rest := by
  induction ws with
  | nil => rfl
  | cons w ws ih =>
    show w :: leadingWords (ws.map Piece.word ++ rest) = w :: (ws ++ leadingWords rest)
    rw [ih]

theorem wordsAhead_keyword (k : Keyword) (ls : List Lexeme) :
    wordsAhead (.keyword k :: ls) = k.first :: (k.others ++ wordsAhead ls) :=
  leadingWords_append k.words _

/-- Behind a segment or a comparator, words can only be those of a keyword. -/
theorem wordsAhead_cases {l : Lexeme} {ls : List Lexeme} (h : Spelled (l :: ls))
    (hl : l.kind = .property ∨ l.kind.isComparator = true) :
    wordsAhead ls = [] ∨ ∃ k ls', ls = .keyword k :: ls' := by
  cases ls with
  | nil => exact .inl rfl
  | cons l' ls' =>
    cases l' with
    | keyword k => exact .inr ⟨k, ls', rfl⟩
    | segment text =>
      have hapart : readApart l.kind .property = true := h.head_apart
      rcases hl with hl | hl
      · rw [hl] at hapart
        cases hapart
      · exact absurd rfl (of_readApart_comparator hl hapart).1
    | bar => exact .inl rfl

/-- A spelled keyword is the longest one at its place. -/
theorem keyword?_of_spelled {k : Keyword} {ls : List Lexeme} (h : Spelled (.keyword k :: ls)) :
    keyword? k.first (k.others ++ wordsAhead ls) = some k := by
  have hk : k ∈ vocabulary := h.head_valid
  rw [keyword?_append, keyword?_words k hk]
  intro k' hk' hfirst next hnext hprefix hothers
  by_cases hcomparator : k.kind.isComparator = true
  · -- a comparator can be the beginning of a longer one, so it matters what stands behind it
    rcases wordsAhead_cases h (.inr hcomparator) with hnil | ⟨k₂, ls', rfl⟩
    · exact hnext (List.prefix_nil.mp (hnil ▸ hprefix))
    · obtain ⟨-, hby, hnot⟩ := of_readApart_comparator hcomparator h.head_apart
      rw [wordsAhead_keyword] at hprefix
      obtain ⟨x, next, rfl⟩ := List.exists_cons_of_ne_nil hnext
      obtain ⟨rfl, -⟩ := List.cons_prefix_cons.mp hprefix
      have hmem : k₂.first ∈ k'.others := by
        rw [hothers]
        exact List.mem_append_right _ List.mem_cons_self
      have := (first_mem_others k' hk' k₂ h.tail.head_valid hby hmem).1
      rw [show k₂.kind.isComparator = false from hnot] at this
      cases this
  · -- any other keyword is the only one with its first word
    obtain rfl := eq_of_first_eq k hk (Bool.eq_false_iff.mpr hcomparator) k' hk' hfirst
    exact hnext (List.self_eq_append_right.mp hothers)

/-- No `Null` is read behind a spelled `Not`. -/
theorem not_null_of_spelled {k : Keyword} {ls : List Lexeme} (h : Spelled (.keyword k :: ls))
    (hcomparator : k.kind.isComparator = true) (hfirst : k.first = "Not") :
    ¬ ["Null"] <+: k.others ++ wordsAhead ls := by
  intro hprefix
  cases hothers : k.others with
  | cons word others =>
    rw [hothers] at hprefix
    obtain ⟨rfl, -⟩ := List.cons_prefix_cons.mp hprefix
    refine (null_not_first k h.head_valid).2 hfirst ?_
    rw [hothers]
    exact List.mem_cons_self
  | nil =>
    rw [hothers, List.nil_append] at hprefix
    rcases wordsAhead_cases h (.inr hcomparator) with hnil | ⟨k', ls', rfl⟩
    · rw [hnil] at hprefix
      cases List.prefix_nil.mp hprefix
    · rw [wordsAhead_keyword] at hprefix
      obtain ⟨hword, -⟩ := List.cons_prefix_cons.mp hprefix
      exact (null_not_first k' h.tail.head_valid).1 hword.symm

/-- No keyword starts inside a spelled segment, whatever is spelled behind it. -/
theorem keyword?_segment {text : String} {ls : List Lexeme} (h : Spelled (.segment text :: ls))
    {word : String} {others : List String} (hnone : keyword? word others = none) :
    keyword? word (others ++ wordsAhead ls) = none := by
  rw [keyword?_append, hnone]
  intro k hk hfirst next hnext hprefix hothers
  rcases wordsAhead_cases h (.inl rfl) with hnil | ⟨k₂, ls', rfl⟩
  · exact hnext (List.prefix_nil.mp (hnil ▸ hprefix))
  have hk₂ : k₂ ∈ vocabulary := h.tail.head_valid
  have hby : k₂.kind ≠ .by := by
    intro hkind
    have hapart : readApart .property k₂.kind = true := h.head_apart
    rw [hkind] at hapart
    cases hapart
  rw [wordsAhead_keyword] at hprefix
  obtain ⟨x, next, rfl⟩ := List.exists_cons_of_ne_nil hnext
  obtain ⟨rfl, hrest⟩ := List.cons_prefix_cons.mp hprefix
  have hmem : k₂.first ∈ k.others := by
    rw [hothers]
    exact List.mem_append_right _ List.mem_cons_self
  obtain ⟨hcomparator, hnot | hnull⟩ := first_mem_others k hk k₂ hk₂ hby hmem
  · exact ne_not_of_keyword? hnone (hfirst.symm.trans hnot)
  · -- an `Is` in the segment would need a `Not` and a `Null` behind it
    rw [hnull] at hothers
    cases others with
    | nil =>
      obtain ⟨hword, rfl⟩ := List.cons.inj hothers
      exact not_null_of_spelled h.tail hcomparator hword.symm hrest
    | cons word others =>
      obtain ⟨-, hothers⟩ := List.cons.inj hothers
      have hword : k₂.first = "Null" := by
        cases others with
        | nil => exact (List.cons.inj hothers).1.symm
        | cons word others => cases others <;> cases (List.cons.inj hothers).2
      exact (null_not_first k₂ hk₂).1 hword

/-- A run of words without keywords is read as one property name. -/
theorem propertyRun_append {ws : List String} {rest : List Piece}
    (hfree : ∀ word others, (word :: others) <:+ ws →
      keyword? word (others ++ leadingWords rest) = none)
    (hrest : propertyRun rest = ("", rest)) :
    propertyRun (ws.map Piece.word ++ rest) = (String.join ws, rest) := by
  induction ws with
  | nil => exact hrest
  | cons word others ih =>
    have htail := ih fun w ws hsuffix => hfree w ws (hsuffix.trans (List.suffix_cons word others))
    show propertyRun (.word word :: (others.map Piece.word ++ rest)) = _
    rw [propertyRun, leadingWords_append, hfree word others List.suffix_rfl, htail]
    rw [String.join_cons]

theorem join_words (text : String) : String.join (words text.toList) = text := by
  rw [← String.toList_inj, String.toList_join, flatMap_words]

theorem keyword?_of_keywordFree {ws : List String} (h : keywordFree ws = true) :
    ∀ word others, (word :: others) <:+ ws → keyword? word others = none := by
  induction ws with
  | nil =>
    intro word others hsuffix
    cases List.suffix_nil.mp hsuffix
  | cons w ws ih =>
    intro word others hsuffix
    rw [keywordFree, Bool.and_eq_true, Option.isNone_iff_eq_none] at h
    rcases List.suffix_cons_iff.mp hsuffix with heq | hsuffix
    · obtain ⟨rfl, rfl⟩ := List.cons.inj heq
      exact h.1
    · exact ih h.2 word others hsuffix

/-- Behind a segment, no property name goes on. -/
theorem propertyRun_behind_segment {text : String} {ls : List Lexeme}
    (h : Spelled (.segment text :: ls)) :
    propertyRun (ls.flatMap Lexeme.pieces) = ("", ls.flatMap Lexeme.pieces) := by
  cases ls with
  | nil => rfl
  | cons l ls =>
    cases l with
    | keyword k =>
      have hkeyword := keyword?_of_spelled h.tail
      show propertyRun (.word k.first :: (k.others.map Piece.word ++ ls.flatMap Lexeme.pieces)) = _
      rw [propertyRun, leadingWords_append]
      unfold wordsAhead at hkeyword
      rw [hkeyword]
      rfl
    | segment text' => cases (h.head_apart : readApart .property .property = true)
    | bar => rfl

/-- What a token stands for and the characters it was read from. -/
def Token.content (t : Token) : TokenKind × String := (t.kind, t.text)

/-- What a token that is spelled stands for and its characters. -/
def Lexeme.content (l : Lexeme) : TokenKind × String := (l.kind, l.text)

theorem readToken_keyword {k : Keyword} {ls : List Lexeme} (h : Spelled (.keyword k :: ls))
    (position : Nat) :
    readToken position (.word k.first) (k.others.map Piece.word ++ ls.flatMap Lexeme.pieces) =
      (⟨k.kind, k.text, position⟩, ls.flatMap Lexeme.pieces) := by
  have hkeyword := keyword?_of_spelled h
  unfold wordsAhead at hkeyword
  simp only [readToken, leadingWords_append, hkeyword]
  rw [List.drop_left' (by rw [List.length_map])]

theorem readToken_segment {text word : String} {others : List String} {ls : List Lexeme}
    (h : Spelled (.segment text :: ls)) (hwords : words text.toList = word :: others)
    (position : Nat) :
    readToken position (.word word) (others.map Piece.word ++ ls.flatMap Lexeme.pieces) =
      (⟨.property, text, position⟩, ls.flatMap Lexeme.pieces) := by
  have hfree : ∀ w ws, (w :: ws) <:+ word :: others →
      keyword? w (ws ++ wordsAhead ls) = none := by
    intro w ws hsuffix
    rw [← hwords] at hsuffix
    exact keyword?_segment h (keyword?_of_keywordFree h.head_valid.free w ws hsuffix)
  have hrun := propertyRun_append
    (fun w ws hsuffix => hfree w ws (hsuffix.trans (List.suffix_cons word others)))
    (propertyRun_behind_segment h)
  have hword := hfree word others List.suffix_rfl
  have htext : word ++ String.join others = text := by
    rw [← String.join_cons, ← hwords, join_words]
  unfold wordsAhead at hword
  simp only [readToken, leadingWords_append, hword, hrun, htext]

/-- The pieces of a spelled token in front of others are read as that token. -/
theorem readToken_spelled {l : Lexeme} {ls : List Lexeme} (h : Spelled (l :: ls)) (position : Nat) :
    ∃ piece rest, l.pieces ++ ls.flatMap Lexeme.pieces = piece :: rest ∧
      readToken position piece rest =
        (⟨l.kind, l.text, position⟩, ls.flatMap Lexeme.pieces) := by
  cases l with
  | keyword k => exact ⟨_, _, rfl, readToken_keyword h position⟩
  | segment text =>
    cases hwords : words text.toList with
    | nil =>
      -- a text without words is empty, but a segment starts with an upper-case letter
      obtain ⟨c, tail, hchars, -⟩ := h.head_valid.chars.1
      have hempty := flatMap_words text.toList
      rw [hwords, hchars] at hempty
      cases hempty
    | cons word others =>
      refine ⟨.word word, others.map Piece.word ++ ls.flatMap Lexeme.pieces, ?_,
        readToken_segment h hwords position⟩
      show (words text.toList).map Piece.word ++ _ = _
      rw [hwords]
      rfl
  | bar => exact ⟨.underscore, _, rfl, rfl⟩

/-- **The tokens of a spelled name are read back.** -/
theorem readTokens_spelled {ls : List Lexeme} (h : Spelled ls) (position : Nat) :
    (readTokens position (ls.flatMap Lexeme.pieces)).map Token.content =
      ls.map Lexeme.content := by
  induction ls generalizing position with
  | nil =>
    rw [List.flatMap_nil, readTokens]
    rfl
  | cons l ls ih =>
    obtain ⟨piece, rest, hpieces, hread⟩ := readToken_spelled h position
    rw [List.flatMap_cons, hpieces, readTokens]
    simp only [hread, List.map_cons, ih h.tail]
    rfl

end DerivedQuery.MethodName
