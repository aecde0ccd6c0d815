import DerivedQuery.Proofs.Except
import DerivedQuery.Proofs.MethodName.Lexemes

/-!
# How a name is divided into tokens

The words and underscores behind the operation of a name are divided into chunks, and each chunk is
read as one token. A chunk is a keyword, the words of a property name or an underscore, and what it
may be depends on what stands behind it (`Chunk.Fits`): a keyword is the longest one at its place,
and the words of a property name go on up to the next underscore or keyword.

These conditions leave no choice:

> `tokenize_divides`: the tokens of a name are those of the one division that meets them.
-/

namespace DerivedQuery.MethodName

open DerivedQuery

/-! ## Keywords at a place -/

/-- Whether the words of a keyword stand at the front of pieces. -/
def Keyword.StandsAt (k : Keyword) (pieces : List Piece) : Prop :=
  k.words.map Piece.word <+: pieces

/-- A keyword that is the longest of the vocabulary at the front of pieces. -/
structure LongestAt (k : Keyword) (pieces : List Piece) : Prop where
  entry : k ∈ vocabulary
  stands : k.StandsAt pieces
  longest : ∀ k' ∈ vocabulary, k'.StandsAt pieces → k'.words.length ≤ k.words.length

/-- Whether pieces begin with a word at which no keyword stands. -/
def BeginsFree (pieces : List Piece) : Prop :=
  (∃ word rest, pieces = .word word :: rest) ∧ ∀ k ∈ vocabulary, ¬k.StandsAt pieces

/-- The vocabulary has the keywords with more words first. -/
theorem pairwise_vocabulary :
    vocabulary.Pairwise fun k k' => k'.words.length ≤ k.words.length := by
  decide

theorem eq_of_words_eq : ∀ k ∈ vocabulary, ∀ k' ∈ vocabulary, k.words = k'.words → k = k' := by
  decide

theorem kind_ne_property : ∀ k ∈ vocabulary, k.kind ≠ .property := by decide

theorem word_injective : Function.Injective Piece.word := fun _ _ h => Piece.word.inj h

theorem prefix_leadingWords {ws : List String} {pieces : List Piece} :
    ws <+: leadingWords pieces ↔ ws.map Piece.word <+: pieces := by
  induction ws generalizing pieces with
  | nil => exact iff_of_true List.nil_prefix List.nil_prefix
  | cons w ws ih =>
    cases pieces with
    | nil => exact iff_of_false (by simp [leadingWords]) (by simp)
    | cons piece pieces =>
      cases piece with
      | word text => simp only [leadingWords, List.map_cons, List.cons_prefix_cons, ih,
          Piece.word.injEq]
      | underscore => exact iff_of_false (by simp [leadingWords]) (by simp)

theorem standsAt_word {k : Keyword} {word : String} {rest : List Piece} :
    k.StandsAt (.word word :: rest) ↔
      (k.first == word && k.others.isPrefixOf (leadingWords rest)) = true := by
  rw [Keyword.StandsAt, Keyword.words, List.map_cons, List.cons_prefix_cons, Piece.word.injEq,
    ← prefix_leadingWords, Bool.and_eq_true, beq_iff_eq, List.isPrefixOf_iff_prefix]

/-- Two keywords of one length at one place are the same. -/
theorem LongestAt.unique {k k' : Keyword} {pieces : List Piece} (h : LongestAt k pieces)
    (h' : LongestAt k' pieces) : k = k' := by
  have hlength : k.words.length = k'.words.length :=
    Nat.le_antisymm (h'.longest k h.entry h.stands) (h.longest k' h'.entry h'.stands)
  have hwords : k.words.map Piece.word = k'.words.map Piece.word := by
    refine (List.prefix_of_prefix_length_le h.stands h'.stands ?_).eq_of_length ?_
    all_goals simp [hlength]
  exact eq_of_words_eq k h.entry k' h'.entry (List.map_injective_iff.mpr word_injective hwords)

/-- The first keyword of the vocabulary that stands at a place is the longest one there. -/
theorem longestAt_of_keyword? {word : String} {rest : List Piece} {k : Keyword}
    (h : keyword? word (leadingWords rest) = some k) : LongestAt k (.word word :: rest) := by
  obtain ⟨hstands, before, behind, hsplit, hbefore⟩ := List.find?_eq_some_iff_append.mp h
  refine ⟨List.mem_of_find?_eq_some h, standsAt_word.mpr hstands, fun k' hk' hstands' => ?_⟩
  have hpairwise := pairwise_vocabulary
  rw [hsplit] at hk' hpairwise
  rcases List.mem_append.mp hk' with hk' | hk'
  · have hnot := hbefore k' hk'
    rw [standsAt_word.mp hstands'] at hnot
    cases hnot
  · rcases List.mem_cons.mp hk' with rfl | hk'
    · exact Nat.le_refl _
    · exact (List.pairwise_cons.mp (List.pairwise_append.mp hpairwise).2.1).1 k' hk'

theorem beginsFree_of_keyword? {word : String} {rest : List Piece}
    (h : keyword? word (leadingWords rest) = none) : BeginsFree (.word word :: rest) :=
  ⟨⟨word, rest, rfl⟩, fun k hk hstands =>
    List.find?_eq_none.mp h k hk (standsAt_word.mp hstands)⟩

/-! ## Chunks -/

/-- Pieces that are read as one token. -/
inductive Chunk
  | keyword (k : Keyword)
  | property (words : List String)
  | underscore
deriving DecidableEq, Repr

/-- Whether no keyword stands at any of the words in front of the pieces `after`. -/
def AllFree (words : List String) (after : List Piece) : Prop :=
  ∀ rest, rest ≠ [] → rest <:+ words → BeginsFree (rest.map Piece.word ++ after)

/-- A run of words that are all free, in front of pieces that do not begin with another free one. -/
structure FreeRun (words : List String) (after : List Piece) : Prop where
  nonempty : words ≠ []
  free : AllFree words after
  maximal : ¬BeginsFree after

theorem allFree_nil (after : List Piece) : AllFree [] after :=
  fun _ hne hsuffix => absurd (List.suffix_nil.mp hsuffix) hne

theorem AllFree.cons {word : String} {words : List String} {after : List Piece}
    (h : BeginsFree (.word word :: (words.map Piece.word ++ after))) (hwords : AllFree words after) :
    AllFree (word :: words) after := by
  intro rest hne hsuffix
  rcases List.suffix_cons_iff.mp hsuffix with rfl | hsuffix
  · exact h
  · exact hwords rest hne hsuffix

namespace FreeRun

variable {words words' more : List String} {after after' : List Piece}

theorem eq_nil (h : FreeRun words (more.map Piece.word ++ after))
    (h' : FreeRun (words ++ more) after) : more = [] := by
  by_contra hne
  exact h.maximal (h'.free more hne (List.suffix_append _ _))

/-- At one place only one run of free words begins. -/
theorem unique (h : FreeRun words after) (h' : FreeRun words' after')
    (heq : words.map Piece.word ++ after = words'.map Piece.word ++ after') : words = words' := by
  have hwords := List.map_injective_iff.mpr word_injective
  rcases List.append_eq_append_iff.mp heq with ⟨_, hlonger, rfl⟩ | ⟨_, hlonger, rfl⟩
  · obtain ⟨front, more, rfl, hfront, rfl⟩ := List.map_eq_append_iff.mp hlonger
    obtain rfl := hwords hfront
    rw [h.eq_nil h', List.append_nil]
  · obtain ⟨front, more, rfl, hfront, rfl⟩ := List.map_eq_append_iff.mp hlonger
    obtain rfl := hwords hfront
    rw [h'.eq_nil h, List.append_nil]

end FreeRun

namespace Chunk

variable {c c' : Chunk} {after after' : List Piece}

/-- The pieces of the chunk. -/
def pieces : Chunk → List Piece
  | keyword k => k.words.map Piece.word
  | property words => words.map Piece.word
  | underscore => [Piece.underscore]

/-- What the token stands for that the chunk is read as, and its text. -/
def content : Chunk → TokenKind × String
  | keyword k => (k.kind, k.text)
  | property words => (.property, String.join words)
  | underscore => (.pathSeparator, "_")

/-- Whether the chunk is what is read in front of the pieces `after`. -/
def Fits (after : List Piece) : Chunk → Prop
  | keyword k => LongestAt k (k.words.map Piece.word ++ after)
  | property words => FreeRun words after
  | underscore => True

theorem Fits.pieces_ne_nil (h : c.Fits after) : c.pieces ≠ [] := by
  cases c with
  | keyword k => exact List.cons_ne_nil _ _
  | property words => exact fun hnil => FreeRun.nonempty h (List.map_eq_nil_iff.mp hnil)
  | underscore => exact List.cons_ne_nil _ _

/-- A chunk begins free if and only if it is that of a property name. -/
theorem Fits.beginsFree_iff (h : c.Fits after) :
    BeginsFree (c.pieces ++ after) ↔ c.content.1 = .property := by
  cases c with
  | keyword k =>
    have hlongest : LongestAt k (k.words.map Piece.word ++ after) := h
    exact iff_of_false (fun hfree => hfree.2 k hlongest.entry hlongest.stands)
      (kind_ne_property k hlongest.entry)
  | property words =>
    exact iff_of_true (FreeRun.free h words (FreeRun.nonempty h) List.suffix_rfl) rfl
  | underscore =>
    refine iff_of_false ?_ ?_
    · rintro ⟨⟨_, _, heq⟩, -⟩
      cases heq
    · exact fun heq => by cases heq

/-- At one place only one chunk fits. -/
theorem Fits.unique (h : c.Fits after) (h' : c'.Fits after')
    (heq : c.pieces ++ after = c'.pieces ++ after') : c = c' := by
  have hproperty := h.beginsFree_iff
  rw [heq, h'.beginsFree_iff] at hproperty
  cases c with
  | keyword k =>
    cases c' with
    | keyword k' =>
      have hlongest : LongestAt k' (k'.words.map Piece.word ++ after') := h'
      have heq : k.words.map Piece.word ++ after = k'.words.map Piece.word ++ after' := heq
      rw [← heq] at hlongest
      rw [LongestAt.unique h hlongest]
    | property words => exact absurd (hproperty.mp rfl) (kind_ne_property k (LongestAt.entry h))
    | underscore => cases heq
  | property words =>
    cases c' with
    | keyword k' =>
      exact absurd (hproperty.mpr rfl) (kind_ne_property k' (LongestAt.entry h'))
    | property words' => rw [FreeRun.unique h h' heq]
    | underscore => cases hproperty.mpr rfl
  | underscore =>
    cases c' with
    | keyword k' => cases heq
    | property words => cases hproperty.mp rfl
    | underscore => rfl

end Chunk

/-! ## Divisions -/

/-- A division of pieces into chunks each of which fits where it stands. -/
structure Divides (chunks : List Chunk) (pieces : List Piece) : Prop where
  partition : chunks.flatMap Chunk.pieces = pieces
  fits : ∀ before c after, chunks = before ++ c :: after → c.Fits (after.flatMap Chunk.pieces)

namespace Divides

variable {c : Chunk} {chunks chunks' : List Chunk} {pieces : List Piece}

theorem nil : Divides [] [] :=
  ⟨rfl, fun before c after h => by cases List.append_eq_nil_iff.mp h.symm |>.2⟩

theorem cons (hc : c.Fits pieces) (h : Divides chunks pieces) :
    Divides (c :: chunks) (c.pieces ++ pieces) := by
  obtain ⟨rfl, hfits⟩ := h
  refine ⟨rfl, fun before c' after happend => ?_⟩
  cases before with
  | nil =>
    cases happend
    exact hc
  | cons first before =>
    obtain ⟨-, happend⟩ := List.cons.inj happend
    exact hfits before c' after happend

theorem head (h : Divides (c :: chunks) pieces) : c.Fits (chunks.flatMap Chunk.pieces) :=
  h.fits [] c chunks rfl

theorem tail (h : Divides (c :: chunks) pieces) : Divides chunks (chunks.flatMap Chunk.pieces) :=
  ⟨rfl, fun before c' after happend => h.fits (c :: before) c' after (by rw [happend]; rfl)⟩

/-- There is only one division. -/
theorem unique (h : Divides chunks pieces) (h' : Divides chunks' pieces) : chunks = chunks' := by
  induction chunks generalizing chunks' pieces with
  | nil =>
    cases chunks' with
    | nil => rfl
    | cons c' chunks' =>
      have hnil := h'.partition.trans h.partition.symm
      exact absurd (List.append_eq_nil_iff.mp hnil).1 h'.head.pieces_ne_nil
  | cons c chunks ih =>
    have heq := h.partition.trans h'.partition.symm
    cases chunks' with
    | nil => exact absurd (List.append_eq_nil_iff.mp heq).1 h.head.pieces_ne_nil
    | cons c' chunks' =>
      rw [List.flatMap_cons, List.flatMap_cons] at heq
      obtain rfl := h.head.unique h'.head heq
      rw [List.append_cancel_left_eq] at heq
      rw [ih h.tail (heq ▸ h'.tail)]

/-- No two property names stand next to each other. -/
theorem apart (h : Divides chunks pieces) :
    chunks.IsChain fun c c' => ¬(c.content.1 = .property ∧ c'.content.1 = .property) := by
  induction chunks generalizing pieces with
  | nil => exact .nil
  | cons c chunks ih =>
    cases chunks with
    | nil => exact .singleton c
    | cons c' chunks =>
      refine .cons_cons (fun hboth => ?_) (ih h.tail)
      have hfree : BeginsFree (c'.pieces ++ chunks.flatMap Chunk.pieces) :=
        h.tail.head.beginsFree_iff.mpr hboth.2
      cases c with
      | property words => exact FreeRun.maximal h.head hfree
      | keyword k => exact kind_ne_property k (LongestAt.entry h.head) hboth.1
      | underscore => cases hboth.1

end Divides

/-! ## Reading tokens -/

/-- The words up to the next underscore or keyword are free, and no free word stands behind them. -/
theorem propertyRun_spec (pieces : List Piece) :
    ∃ words, pieces = words.map Piece.word ++ (propertyRun pieces).2 ∧
      (propertyRun pieces).1 = String.join words ∧ AllFree words (propertyRun pieces).2 ∧
      ¬BeginsFree (propertyRun pieces).2 := by
  fun_induction propertyRun pieces with
  | case1 =>
    refine ⟨[], rfl, rfl, allFree_nil _, ?_⟩
    rintro ⟨⟨_, _, heq⟩, -⟩
    cases heq
  | case2 rest =>
    refine ⟨[], rfl, rfl, allFree_nil _, ?_⟩
    rintro ⟨⟨_, _, heq⟩, -⟩
    cases heq
  | case3 word rest k hkeyword =>
    have hlongest := longestAt_of_keyword? hkeyword
    exact ⟨[], rfl, rfl, allFree_nil _, fun hfree => hfree.2 k hlongest.entry hlongest.stands⟩
  | case4 word rest hkeyword more after hrun ih =>
    rw [hrun] at ih
    obtain ⟨words, hrest, hmore, hfree, hmaximal⟩ := ih
    have hword := beginsFree_of_keyword? hkeyword
    rw [hrest] at hword ⊢
    refine ⟨word :: words, rfl, ?_, hfree.cons hword, hmaximal⟩
    rw [String.join_cons, ← hmore]

/-- What is read as a token is a chunk that fits. -/
theorem readToken_spec (position : Nat) (piece : Piece) (rest : List Piece) :
    ∃ c : Chunk, piece :: rest = c.pieces ++ (readToken position piece rest).2 ∧
      (readToken position piece rest).1 = ⟨c.content.1, c.content.2, position⟩ ∧
      c.Fits (readToken position piece rest).2 := by
  cases piece with
  | underscore => exact ⟨.underscore, rfl, rfl, trivial⟩
  | word text =>
    rw [readToken]
    split
    next k hkeyword =>
      have hlongest := longestAt_of_keyword? hkeyword
      obtain ⟨hfirst, behind, hbehind⟩ := List.cons_prefix_cons.mp hlongest.stands
      have hdrop : rest.drop k.others.length = behind := by
        rw [← hbehind, List.drop_left' (List.length_map _)]
      have hpieces : Piece.word text :: rest = (Chunk.keyword k).pieces ++ behind := by
        rw [← hfirst, ← hbehind]
        rfl
      rw [hdrop]
      rw [hpieces] at hlongest
      exact ⟨.keyword k, hpieces, rfl, hlongest⟩
    next hkeyword =>
      obtain ⟨words, hrest, hmore, hfree, hmaximal⟩ := propertyRun_spec rest
      have hword := beginsFree_of_keyword? hkeyword
      rw [hrest] at hword
      refine ⟨.property (text :: words), congrArg (Piece.word text :: ·) hrest, ?_,
        List.cons_ne_nil _ _, hfree.cons hword, hmaximal⟩
      show Token.mk .property (text ++ (propertyRun rest).1) position = _
      rw [hmore, ← String.join_cons]
      rfl

/-- The tokens of pieces are those of a division. -/
theorem exists_divides (position : Nat) (pieces : List Piece) :
    ∃ chunks, Divides chunks pieces ∧
      (readTokens position pieces).map Token.content = chunks.map Chunk.content := by
  fun_induction readTokens position pieces with
  | case1 => exact ⟨[], .nil, rfl⟩
  | case2 position piece rest next ih =>
    obtain ⟨chunks, hchunks, htokens⟩ := ih
    obtain ⟨c, hpieces, htoken, hfits⟩ := readToken_spec position piece rest
    refine ⟨c :: chunks, hpieces ▸ hchunks.cons hfits, ?_⟩
    rw [List.map_cons, List.map_cons, htokens]
    exact congrArg (· :: _) (congrArg Token.content htoken)

/-! ## Whole names -/

theorem keyword_of_ofKeyword? {word : String} {op : Operation}
    (h : Operation.ofKeyword? word = some op) : word = op.keyword := by
  have hfound := List.find?_some h
  exact (beq_iff_eq.mp hfound).symm

/-- A name begins with an operation if the word is its first piece. -/
theorem readOperation_eq_ok {name : String} {token : Token} {rest : List Piece} :
    readOperation name = .ok (token, rest) ↔ ∃ op, piecesOf name = .word op.keyword :: rest ∧
      token = ⟨.operation op, op.keyword, 0⟩ := by
  constructor
  · intro h
    unfold readOperation at h
    split at h
    · cases h
    · cases h
    next text pieces hpieces =>
      split at h
      next op hop =>
        cases h
        obtain rfl := keyword_of_ofKeyword? hop
        exact ⟨op, hpieces, rfl⟩
      · cases h
  · rintro ⟨op, hpieces, rfl⟩
    unfold readOperation
    rw [hpieces]
    simp only [Operation.ofKeyword?_keyword]

theorem tokenize_eq_ok {name : String} {tokens : List Token} :
    tokenize name = .ok tokens ↔ ∃ op rest, piecesOf name = .word op.keyword :: rest ∧
      tokens = ⟨.operation op, op.keyword, 0⟩ :: readTokens op.keyword.length rest ++
        [Token.eof name.length] := by
  constructor
  · intro h
    obtain ⟨⟨token, rest⟩, hread, h⟩ := bind_eq_ok.mp h
    obtain ⟨op, hpieces, rfl⟩ := readOperation_eq_ok.mp hread
    cases h
    exact ⟨op, rest, hpieces, rfl⟩
  · rintro ⟨op, rest, hpieces, rfl⟩
    exact bind_eq_ok.mpr ⟨_, readOperation_eq_ok.mpr ⟨op, hpieces, rfl⟩, rfl⟩

/-- **Keywords are read from the left and as long as they are.** Behind the operation, the words
and underscores of a name that has tokens are divided into one chunk for each token: every keyword is
the longest entry of the vocabulary whose words stand there, every property name goes on through
words at which no entry stands for as long as it can, and every underscore stands by itself. So no
two property names are next to each other, and this is the only division of that kind. -/
theorem tokenize_divides {name : String} {tokens : List Token} (h : tokenize name = .ok tokens) :
    ∃ op rest chunks, piecesOf name = .word op.keyword :: rest ∧ Divides chunks rest ∧
      tokens.map Token.content =
        (.operation op, op.keyword) :: chunks.map Chunk.content ++ [(.eof, "")] ∧
      tokens.IsChain (fun t t' => ¬(t.kind = .property ∧ t'.kind = .property)) ∧
      ∀ others, Divides others rest → others = chunks := by
  obtain ⟨op, rest, hpieces, rfl⟩ := tokenize_eq_ok.mp h
  obtain ⟨chunks, hdivides, hcontent⟩ := exists_divides op.keyword.length rest
  have htokens : (⟨.operation op, op.keyword, 0⟩ :: readTokens op.keyword.length rest ++
      [Token.eof name.length]).map Token.content =
        (.operation op, op.keyword) :: chunks.map Chunk.content ++ [(.eof, "")] := by
    rw [List.map_append, List.map_cons, hcontent]
    rfl
  refine ⟨op, rest, chunks, hpieces, hdivides, htokens, ?_, fun others hothers =>
    hothers.unique hdivides⟩
  -- neither the operation in front nor the end is a property name
  have hchain : ((.operation op, op.keyword) :: chunks.map Chunk.content ++
      [(TokenKind.eof, "")]).IsChain fun x y => ¬(x.1 = .property ∧ y.1 = .property) := by
    rw [List.cons_append, List.isChain_cons, List.isChain_append, List.isChain_map]
    refine ⟨fun _ _ hboth => (by cases hboth.1), hdivides.apart, .singleton _, ?_⟩
    rintro x - y hy ⟨-, hproperty⟩
    cases hy
    cases hproperty
  rwa [← htokens, List.isChain_map] at hchain

/-- An `Order` without `By` and a `Null` without `Is` are words of property names, and of the
keywords that begin alike the longest is read. -/
theorem tokenize_divides_alike :
    let name := "findByOrderNotLikeOrNull_XGreaterThanOrderByIsDesc"
    let rest := (["By", "Order", "Not", "Like", "Or", "Null"].map Piece.word) ++ .underscore ::
      ["X", "Greater", "Than", "Order", "By", "Is", "Desc"].map Piece.word
    (∃ tokens, tokenize name = .ok tokens) ∧ piecesOf name = .word "find" :: rest ∧
      ∃ chunks, Divides chunks rest ∧ chunks.map Chunk.content = [
        (.by, "By"), (.property, "Order"), (.comparator .notLike, "NotLike"), (.or, "Or"),
        (.property, "Null"), (.pathSeparator, "_"), (.property, "X"),
        (.comparator .greaterThan, "GreaterThan"), (.orderBy, "OrderBy"), (.property, "Is"),
        (.desc, "Desc")] ∧
      ∀ others, Divides others rest → others = chunks := by
  intro name rest
  have hpieces : piecesOf name = .word "find" :: rest := by decide +kernel
  have htokens := tokenize_eq_ok.mpr ⟨.find, rest, hpieces, rfl⟩
  obtain ⟨op, rest', chunks, hpieces', hdivides, hcontent, -, hunique⟩ := tokenize_divides htokens
  obtain rfl : rest' = rest := (List.cons.inj (hpieces'.symm.trans hpieces)).2
  refine ⟨⟨_, htokens⟩, hpieces, chunks, hdivides, ?_, hunique⟩
  rw [List.map_append] at hcontent
  rw [← (List.cons.inj (List.append_cancel_right hcontent)).2]
  decide +kernel

end DerivedQuery.MethodName
