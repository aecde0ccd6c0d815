import DerivedQuery.Proofs.MethodName.Classification
import DerivedQuery.Proofs.MethodName.Division
import Mathlib.Data.Nat.PSub

/-!
# Where the tokens of a name stand

The tokens of a name tile it: their texts, one behind the other, are the name, and each has the
position of the characters before it (`Tiles`). The lexer only adds up the lengths of what it has
read. The same positions come out if each part between two underscores is cut by itself and its
words are counted from the start of the part (`placedPieces?_eq`), although an underscore then stands
one character before what has been counted.

> `tokenize_tiles`: when a name has tokens, how they tile it, and that a lexer gives the same ones
> one at a time.
-/

namespace DerivedQuery.MethodName

open DerivedQuery Naming

/-! ## The characters of pieces -/

/-- The characters of a piece. -/
def Piece.text : Piece → String
  | word text => text
  | underscore => "_"

/-- The characters of pieces, one behind the other. -/
def textOf (pieces : List Piece) : String := String.join (pieces.map Piece.text)

theorem textOf_append (pieces more : List Piece) :
    textOf (pieces ++ more) = textOf pieces ++ textOf more := by
  rw [textOf, List.map_append, String.join_append, textOf, textOf]

theorem textOf_cons (piece : Piece) (rest : List Piece) :
    textOf (piece :: rest) = piece.text ++ textOf rest := String.join_cons

theorem textOf_words (words : List String) :
    textOf (words.map Piece.word) = String.join words := by
  rw [textOf, List.map_map]
  exact congrArg String.join (List.map_id words)

theorem Chunk.textOf_pieces (c : Chunk) : textOf c.pieces = c.content.2 := by
  cases c with
  | keyword k => exact textOf_words k.words
  | property words => exact textOf_words words
  | underscore => rfl

/-- The pieces of the parts between underscores. -/
def partPieces (part : List Char) : List Piece := (words part).map Piece.word

theorem textOf_partPieces (part : List Char) : textOf (partPieces part) = String.ofList part := by
  rw [partPieces, textOf_words, ← String.toList_inj, String.toList_join, flatMap_words,
    String.toList_ofList]

theorem intercalate_singleton_cons {α : Type} (separator : α) (first : List α)
    (others : List (List α)) :
    [separator].intercalate (first :: others) = first ++ others.flatMap (separator :: ·) := by
  induction others generalizing first with
  | nil => rw [List.intercalate_singleton, List.flatMap_nil, List.append_nil]
  | cons second others ih =>
    rw [List.intercalate_cons_cons, ih, List.flatMap_cons, List.append_assoc]
    rfl

/-- A name has a first part, and all others stand behind underscores. -/
theorem exists_parts (name : String) : ∃ part parts, name.toList.splitOn '_' = part :: parts ∧
    name.toList = part ++ parts.flatMap ('_' :: ·) ∧
    piecesOf name = partPieces part ++ parts.flatMap fun part => .underscore :: partPieces part := by
  obtain ⟨part, parts, hsplit⟩ := List.exists_cons_of_ne_nil (List.splitOn_ne_nil '_' name.toList)
  refine ⟨part, parts, hsplit, ?_, ?_⟩
  · rw [← intercalate_singleton_cons, ← hsplit, List.intercalate_splitOn]
  · rw [piecesOf_eq, MethodName.pieces, hsplit, List.map_cons, intercalate_singleton_cons,
      List.flatMap_map]
    rfl

/-- The pieces of a name have its characters. -/
theorem textOf_piecesOf (name : String) : textOf (piecesOf name) = name := by
  obtain ⟨part, parts, -, hname, hpieces⟩ := exists_parts name
  have hparts : (textOf (parts.flatMap fun part => .underscore :: partPieces part)).toList =
      parts.flatMap ('_' :: ·) := by
    clear hname hpieces
    induction parts with
    | nil => rfl
    | cons part parts ih =>
      rw [List.flatMap_cons, textOf_append, textOf_cons, textOf_partPieces, String.toList_append,
        String.toList_append, ih, String.toList_ofList]
      rfl
  rw [← String.toList_inj, hpieces, textOf_append, textOf_partPieces, String.toList_append, hparts,
    String.toList_ofList, ← hname]

/-- No piece of a name is empty. -/
theorem text_ne_empty {name : String} : ∀ piece ∈ piecesOf name, piece.text ≠ "" := by
  obtain ⟨part, parts, -, -, hpieces⟩ := exists_parts name
  have hpart : ∀ part, ∀ piece ∈ partPieces part, piece.text ≠ "" := by
    intro part piece hpiece
    obtain ⟨_, htext, rfl⟩ := List.mem_map.mp hpiece
    obtain ⟨word, hword, rfl⟩ := List.mem_map.mp htext
    intro hempty
    exact ne_nil_of_mem_camelWords hword (String.ofList_eq_empty_iff.mp hempty)
  intro piece hpiece
  rw [hpieces, List.mem_append, List.mem_flatMap] at hpiece
  rcases hpiece with hpiece | ⟨part, -, hpiece⟩
  · exact hpart _ piece hpiece
  · rcases List.mem_cons.mp hpiece with rfl | hpiece
    · exact fun hempty => absurd hempty (by decide)
    · exact hpart part piece hpiece

/-! ## Offsets of pieces -/

/-- Every piece with the number of characters before it, when `start` characters precede them
all. -/
def placedFrom (start : Nat) : List Piece → List (Nat × Piece)
  | [] => []
  | piece :: rest => (start, piece) :: placedFrom (start + piece.text.length) rest

theorem placedFrom_append (start : Nat) (pieces more : List Piece) :
    placedFrom start (pieces ++ more) =
      placedFrom start pieces ++ placedFrom (start + (textOf pieces).length) more := by
  induction pieces generalizing start with
  | nil => rfl
  | cons piece pieces ih =>
    rw [List.cons_append, placedFrom, ih, textOf_cons, String.length_append, ← Nat.add_assoc]
    rfl

theorem map_snd_placedFrom (start : Nat) (pieces : List Piece) :
    (placedFrom start pieces).map Prod.snd = pieces := by
  induction pieces generalizing start with
  | nil => rfl
  | cons piece pieces ih => rw [placedFrom, List.map_cons, ih]

/-- The words of a part, each with its offset in the part behind the `offset` characters before
it. -/
def placedWords (offset : Nat) (part : List Char) : List (Nat × Piece) :=
  (withOffsets 0 (camelWords part)).map fun word => (offset + word.1, .word word.2)

/-- The pieces of parts behind underscores, when `offset` characters precede the first of them: its
underscore is the last of these characters. There is no result if there is no such character. -/
def placedParts? (offset : Nat) : List (List Char) → Option (List (Nat × Piece))
  | [] => some []
  | part :: parts =>
    offset.ppred.bind fun bar =>
      (placedParts? (offset + part.length + 1) parts).map fun behind =>
        (bar, .underscore) :: placedWords offset part ++ behind

/-- The pieces of a name, each with its offset, part by part. -/
def placedPieces? (name : String) : Option (List (Nat × Piece)) :=
  match name.toList.splitOn '_' with
  | [] => some []
  | part :: parts => (placedParts? (part.length + 1) parts).map (placedWords 0 part ++ ·)

theorem placedWords_eq (offset : Nat) (part : List Char) :
    placedWords offset part = placedFrom offset (partPieces part) := by
  have hwords : ∀ start (ws : List (List Char)),
      (withOffsets start ws).map (fun word => (offset + word.1, Piece.word word.2)) =
        placedFrom (offset + start) (ws.map fun word => .word (String.ofList word)) := by
    intro start ws
    induction ws generalizing start with
    | nil => rfl
    | cons word ws ih =>
      have hlength : (Piece.word (String.ofList word)).text.length = word.length :=
        String.length_ofList
      rw [withOffsets, List.map_cons, List.map_cons, placedFrom, ih, hlength, Nat.add_assoc]
  rw [placedWords, hwords, partPieces, words, List.map_map]
  rfl

theorem placedParts?_eq (bar : Nat) (parts : List (List Char)) :
    placedParts? (bar + 1) parts =
      some (placedFrom bar (parts.flatMap fun part => .underscore :: partPieces part)) := by
  induction parts generalizing bar with
  | nil => rfl
  | cons part parts ih =>
    have hlength : (textOf (partPieces part)).length = part.length := by
      rw [textOf_partPieces, String.length_ofList]
    have hbar : Piece.underscore.text.length = 1 := rfl
    rw [placedParts?, ih, List.flatMap_cons, placedFrom_append, placedFrom, textOf_cons,
      String.length_append, hlength, hbar, placedWords_eq]
    show some _ = some _
    rw [show bar + 1 + part.length = bar + (1 + part.length) by omega]

/-- Counted part by part, every piece has the offset of the characters before it. -/
theorem placedPieces?_eq (name : String) :
    placedPieces? name = some (placedFrom 0 (piecesOf name)) := by
  obtain ⟨part, parts, hsplit, -, hpieces⟩ := exists_parts name
  have hlength : (textOf (partPieces part)).length = part.length := by
    rw [textOf_partPieces, String.length_ofList]
  rw [placedPieces?, hsplit, hpieces, placedFrom_append, hlength, Nat.zero_add]
  show (placedParts? (part.length + 1) parts).map _ = _
  rw [placedParts?_eq, placedWords_eq]
  rfl

/-! ## Tokens in their places -/

/-- Whether every token has the position of the characters before it, `start` and those of the
tokens in front of it. -/
def Consecutive (start : Nat) : List Token → Prop
  | [] => True
  | t :: ts => t.position = start ∧ Consecutive (start + t.text.length) ts

/-- The characters of tokens, one behind the other. -/
def textOfTokens (tokens : List Token) : String := String.join (tokens.map (·.text))

theorem textOfTokens_cons (t : Token) (ts : List Token) :
    textOfTokens (t :: ts) = t.text ++ textOfTokens ts := String.join_cons

theorem consecutive_append (start : Nat) (ts more : List Token) :
    Consecutive start (ts ++ more) ↔
      Consecutive start ts ∧ Consecutive (start + (textOfTokens ts).length) more := by
  induction ts generalizing start with
  | nil => exact (and_iff_right trivial).symm
  | cons t ts ih =>
    rw [List.cons_append, Consecutive, Consecutive, ih, textOfTokens_cons, String.length_append,
      ← Nat.add_assoc, and_assoc]

/-- Whether a token has the characters of some pieces and the offset of the first one. -/
def ReadFrom (group : List (Nat × Piece)) (t : Token) : Prop :=
  group.head?.map Prod.fst = some t.position ∧ t.text = textOf (group.map Prod.snd)

theorem readFrom_placedFrom {start : Nat} {group : List Piece} (hne : group ≠ []) {t : Token}
    (hposition : t.position = start) (htext : t.text = textOf group) :
    ReadFrom (placedFrom start group) t := by
  refine ⟨?_, ?_⟩
  · obtain ⟨piece, rest, rfl⟩ := List.exists_cons_of_ne_nil hne
    rw [hposition]
    rfl
  · rw [map_snd_placedFrom, htext]

/-- Tokens that take up all of some pieces, which `start` characters precede. -/
structure Covers (start : Nat) (pieces : List Piece) (tokens : List Token) : Prop where
  text : textOfTokens tokens = textOf pieces
  nonempty : ∀ t ∈ tokens, t.text ≠ ""
  consecutive : Consecutive start tokens
  groups : ∃ groups, groups.flatten = placedFrom start pieces ∧ List.Forall₂ ReadFrom groups tokens

/-- One more token takes up the pieces in front. -/
theorem Covers.cons {start : Nat} {t : Token} {group rest : List Piece} {tokens : List Token}
    (hne : group ≠ []) (hgroup : ∀ piece ∈ group, piece.text ≠ "") (hposition : t.position = start)
    (htext : t.text = textOf group) (h : Covers (start + t.text.length) rest tokens) :
    Covers start (group ++ rest) (t :: tokens) where
  text := by rw [textOfTokens_cons, textOf_append, htext, h.text]
  nonempty := by
    refine List.forall_mem_cons.mpr ⟨?_, h.nonempty⟩
    obtain ⟨piece, others, rfl⟩ := List.exists_cons_of_ne_nil hne
    rw [htext, textOf_cons]
    exact fun hempty => hgroup piece (.head _) (String.append_eq_empty_iff.mp hempty).1
  consecutive := ⟨hposition, h.consecutive⟩
  groups := by
    obtain ⟨groups, hflatten, hread⟩ := h.groups
    refine ⟨placedFrom start group :: groups, ?_,
      .cons (readFrom_placedFrom hne hposition htext) hread⟩
    rw [List.flatten_cons, hflatten, placedFrom_append, htext]

/-- The tokens that are read from pieces take up all of them. -/
theorem covers_readTokens (start : Nat) (pieces : List Piece)
    (h : ∀ piece ∈ pieces, piece.text ≠ "") : Covers start pieces (readTokens start pieces) := by
  fun_induction readTokens start pieces with
  | case1 => exact ⟨rfl, fun t ht => (by cases ht), trivial, [], rfl, .nil⟩
  | case2 start piece rest next ih =>
    obtain ⟨c, hpieces, htoken, hfits⟩ := readToken_spec start piece rest
    rw [hpieces, List.forall_mem_append] at h
    rw [hpieces]
    have htext : next.1.text = textOf c.pieces := by
      rw [c.textOf_pieces]
      exact congrArg Token.text htoken
    exact (ih h.2).cons hfits.pieces_ne_nil h.1 (congrArg Token.position htoken) htext

/-! ## Tokens one at a time -/

/-- A lexer behind the operation gives the tokens of what is ahead, and then the end again and
again. -/
theorem pull_ahead (name : String) {count more : Nat} (hmore : count ≤ more) (pieces : List Piece)
    (position : Nat) :
    Lexer.pull count ⟨name, some pieces, position⟩ =
      ((readTokens position pieces ++
        List.replicate more (Token.eof name.length)).take count).map .ok := by
  induction count generalizing pieces position with
  | zero => rfl
  | succ count ih =>
    have ih := ih (by omega)
    cases pieces with
    | nil =>
      have hend := ih [] position
      rw [readTokens, List.nil_append, List.take_replicate, Nat.min_eq_left (by omega)] at hend ⊢
      show Except.ok (Token.eof name.length) :: Lexer.pull count ⟨name, some [], position⟩ = _
      rw [hend]
      rfl
    | cons piece rest =>
      rw [readTokens, List.cons_append, List.take_succ_cons, List.map_cons, ← ih]
      rfl

/-- A lexer from the start of a name gives its tokens and then the end again and again. -/
theorem pull_of_ok {name : String} {tokens : List Token} (h : tokenize name = .ok tokens)
    (count : Nat) :
    (Lexer.start name).pull count =
      ((tokens ++ List.replicate count (Token.eof name.length)).take count).map .ok := by
  obtain ⟨op, rest, hpieces, rfl⟩ := tokenize_eq_ok.mp h
  cases count with
  | zero => rfl
  | succ count =>
    have hnext : (Lexer.start name).next = .ok (⟨.operation op, op.keyword, 0⟩,
        ⟨name, some rest, op.keyword.length⟩) :=
      bind_eq_ok.mpr ⟨_, readOperation_eq_ok.mpr ⟨op, hpieces, rfl⟩, rfl⟩
    rw [Lexer.pull, hnext]
    show Except.ok _ :: Lexer.pull count _ = _
    -- the end of the name is the first of the ends that follow
    rw [pull_ahead name (show count ≤ count + 2 by omega), List.append_assoc, List.cons_append,
      List.take_succ_cons]
    rfl

/-- A lexer that finds no operation keeps giving the same error. -/
theorem pull_of_error {name : String} {e : LexError} (h : tokenize name = .error e) (count : Nat) :
    (Lexer.start name).pull count = List.replicate count (.error e) := by
  have hnext : (Lexer.start name).next = .error e := by
    rcases bind_eq_error.mp h with hread | ⟨_, -, h⟩
    · exact bind_eq_error.mpr (.inl hread)
    · cases h
  induction count with
  | zero => rfl
  | succ count ih =>
    rw [Lexer.pull, hnext]
    exact congrArg _ ih

/-! ## Whole names -/

/-- The camel word at the start of a name, if no underscore stands there. -/
def firstWord? (name : String) : Option String :=
  (words (name.toList.takeWhile (· != '_'))).head?

/-- Behind the words at the front of a text no further word stands. -/
theorem exists_behind_words (text : List Char) :
    ∃ rest, pieces text = partPieces (text.takeWhile (· != '_')) ++ rest ∧
      ∀ word more, rest ≠ .word word :: more := by
  have htake : ∀ part rest : List Char, '_' ∉ part →
      (part ++ rest).takeWhile (· != '_') = part ++ rest.takeWhile (· != '_') := by
    intro part rest hpart
    refine List.takeWhile_append_of_pos fun c hc => bne_iff_ne.mpr ?_
    rintro rfl
    exact hpart hc
  by_cases hmem : '_' ∈ text
  · obtain ⟨part, tail, rfl, hpart⟩ := List.eq_append_cons_of_mem hmem
    rw [htake part _ hpart, List.takeWhile_cons_of_neg (by decide), List.append_nil,
      pieces_append_underscore hpart]
    exact ⟨_, rfl, fun _ _ heq => by cases heq⟩
  · have hall := htake text [] hmem
    rw [List.append_nil, List.takeWhile_nil, List.append_nil] at hall
    rw [hall, pieces_of_not_mem hmem]
    exact ⟨[], (List.append_nil _).symm, fun _ _ heq => by cases heq⟩

theorem firstWord?_eq_some {name word : String} :
    firstWord? name = some word ↔ ∃ rest, piecesOf name = .word word :: rest := by
  obtain ⟨rest, hpieces, hrest⟩ := exists_behind_words name.toList
  rw [piecesOf_eq, hpieces, firstWord?, partPieces]
  cases words (name.toList.takeWhile (· != '_')) with
  | nil => exact iff_of_false (fun h => by cases h) fun ⟨more, h⟩ => hrest word more h
  | cons first others =>
    constructor
    · intro h
      cases h
      exact ⟨_, rfl⟩
    · rintro ⟨more, h⟩
      cases h
      rfl

/-- A name has no tokens if it does not begin with the word of an operation. -/
theorem exists_error_iff (name : String) :
    (∃ e, tokenize name = .error e) ↔
      name = "" ∨ ∀ op : Operation, firstWord? name ≠ some op.keyword := by
  have hok : (∃ tokens, tokenize name = .ok tokens) ↔
      ∃ op : Operation, firstWord? name = some op.keyword := by
    constructor
    · rintro ⟨tokens, h⟩
      obtain ⟨op, rest, hpieces, -⟩ := tokenize_eq_ok.mp h
      exact ⟨op, firstWord?_eq_some.mpr ⟨rest, hpieces⟩⟩
    · rintro ⟨op, h⟩
      obtain ⟨rest, hpieces⟩ := firstWord?_eq_some.mp h
      exact ⟨_, tokenize_eq_ok.mpr ⟨op, rest, hpieces, rfl⟩⟩
  have hempty : name = "" → ∀ op : Operation, firstWord? name ≠ some op.keyword := by
    rintro rfl op h
    cases h
  rw [or_iff_right_of_imp hempty, ← not_exists, ← hok]
  cases tokenize name with
  | ok tokens => exact iff_of_false (fun ⟨e, h⟩ => by cases h) fun h => h ⟨tokens, rfl⟩
  | error e => exact iff_of_true ⟨e, rfl⟩ fun ⟨tokens, h⟩ => by cases h

/-- Tokens that tile a name: all its characters, each token but the end some of them. -/
structure Tiles (name : String) (tokens : List Token) : Prop where
  text : String.join (tokens.map (·.text)) = name
  nonempty : ∀ t ∈ tokens.dropLast, t.text ≠ ""
  ending : tokens.getLast? = some (Token.eof name.length)
  notEnding : ∀ t ∈ tokens.dropLast, t.kind ≠ .eof
  position : ∀ before t after, tokens = before ++ t :: after →
    t.position = (String.join (before.map (·.text))).length
  /-- Counted part by part, the pieces of a token have its characters and the first of them its
  position. -/
  counted : ∃ groups, placedPieces? name = some groups.flatten ∧
    List.Forall₂ ReadFrom groups tokens.dropLast

/-- The tokens but the end take up all pieces of a name. -/
theorem covers_of_ok {name : String} {tokens : List Token} (h : tokenize name = .ok tokens) :
    ∃ first, tokens = first ++ [Token.eof name.length] ∧ (∀ t ∈ first, t.kind ≠ .eof) ∧
      Covers 0 (piecesOf name) first := by
  obtain ⟨op, rest, hpieces, rfl⟩ := tokenize_eq_ok.mp h
  refine ⟨_, rfl, List.forall_mem_cons.mpr ⟨fun heq => (by cases heq), fun t ht =>
    kind_ne_eof_of_mem_readTokens ht⟩, ?_⟩
  have hnonempty := @text_ne_empty name
  rw [hpieces] at hnonempty ⊢
  obtain ⟨hoperation, hrest⟩ := List.forall_mem_cons.mp hnonempty
  have hbehind : Covers (0 + op.keyword.length) rest (readTokens op.keyword.length rest) := by
    rw [Nat.zero_add]
    exact covers_readTokens op.keyword.length rest hrest
  show Covers 0 ([Piece.word op.keyword] ++ rest) _
  exact Covers.cons (List.cons_ne_nil _ _) (List.forall_mem_singleton.mpr hoperation) rfl
    (textOf_words [op.keyword]).symm hbehind

theorem tiles_of_ok {name : String} {tokens : List Token} (h : tokenize name = .ok tokens) :
    Tiles name tokens := by
  obtain ⟨first, rfl, hkinds, hcovers⟩ := covers_of_ok h
  have htext : textOfTokens first = name := hcovers.text.trans (textOf_piecesOf name)
  refine ⟨?_, ?_, List.getLast?_concat, ?_, ?_, ?_⟩
  · rw [List.map_append, String.join_append]
    show textOfTokens first ++ "" = name
    rw [htext, String.append_empty]
  · rw [List.dropLast_concat]
    exact hcovers.nonempty
  · rw [List.dropLast_concat]
    exact hkinds
  · intro before t after happend
    have hall : Consecutive 0 (first ++ [Token.eof name.length]) := by
      rw [consecutive_append, htext, Nat.zero_add]
      exact ⟨hcovers.consecutive, rfl, trivial⟩
    rw [happend, consecutive_append, Nat.zero_add] at hall
    exact hall.2.1
  · obtain ⟨groups, hflatten, hread⟩ := hcovers.groups
    rw [List.dropLast_concat]
    exact ⟨groups, by rw [placedPieces?_eq, hflatten], hread⟩

/-- **The tokens of a name tile it.** A name has none if and only if it is empty or does not begin
with the word of an operation. A lexer gives them one at a time, and behind the last of them the end
again and again; if there are none, it gives the same error again and again. -/
theorem tokenize_tiles (name : String) :
    (∀ tokens, tokenize name = .ok tokens → Tiles name tokens ∧
      ∀ count, (Lexer.start name).pull count =
        ((tokens ++ List.replicate count (Token.eof name.length)).take count).map .ok) ∧
    (∀ e, tokenize name = .error e →
      ∀ count, (Lexer.start name).pull count = List.replicate count (.error e)) ∧
    ((∃ e, tokenize name = .error e) ↔
      name = "" ∨ ∀ op : Operation, firstWord? name ≠ some op.keyword) :=
  ⟨fun _ h => ⟨tiles_of_ok h, pull_of_ok h⟩, fun _ h => pull_of_error h, exists_error_iff name⟩

/-- Characters outside ASCII count once, and two underscores are two tokens. A name that begins with
an underscore has none. -/
theorem tokenize_tiles_umlaut :
    let tokens : List Token := [⟨.operation .find, "find", 0⟩, ⟨.by, "By", 4⟩,
      ⟨.property, "ÜberName", 6⟩, ⟨.pathSeparator, "_", 14⟩, ⟨.pathSeparator, "_", 15⟩,
      ⟨.property, "URL", 16⟩, ⟨.comparator .like, "Like", 19⟩, ⟨.pathSeparator, "_", 23⟩,
      Token.eof 24]
    tokenize "findByÜberName__URLLike_" = .ok tokens ∧ Tiles "findByÜberName__URLLike_" tokens ∧
      (Lexer.start "findByÜberName__URLLike_").pull 11 =
        (tokens ++ [Token.eof 24, Token.eof 24]).map .ok ∧
      tokenize "_find" = .error (.missingOperation "_find") ∧
      (Lexer.start "_find").pull 3 = List.replicate 3 (.error (.missingOperation "_find")) := by
  intro tokens
  have htokens : tokenize "findByÜberName__URLLike_" = .ok tokens := by decide +kernel
  have hbar : tokenize "_find" = .error (.missingOperation "_find") := by decide +kernel
  obtain ⟨htiles, hpull⟩ := (tokenize_tiles "findByÜberName__URLLike_").1 tokens htokens
  have herror := (tokenize_tiles "_find").2.1 _ hbar 3
  refine ⟨htokens, htiles, ?_, hbar, herror⟩
  rw [hpull 11]
  rfl

end DerivedQuery.MethodName
