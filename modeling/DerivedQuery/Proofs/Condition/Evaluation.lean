import DerivedQuery.Statement.Where
import DerivedQuery.Proofs.Condition.Words

/-!
# What a body comes out as

At run time the parts of a body are kept or dropped, and what is left is joined to the text of a
statement. `Runtime.text` is that text: character data with the bound values in it is one piece, a
part under a test gives its pieces if the test holds, a trimmed part gives one piece or none, and
all pieces are joined with blanks.

For proofs, `Runtime.flat` writes the same words down without cutting pieces
(`blankWords_text`), and takes a body apart wherever it was put together (`flat_append`).
-/

namespace DerivedQuery

/-- What decides at run time how a statement comes out. -/
structure Runtime where
  /-- Whether the value of a name is there. -/
  present : String → Bool
  /-- Whether a test holds. -/
  holds : String → Bool
  /-- What a loop comes out as. -/
  repeated : LoopRule → Body → List Char

/-! ## Trimming -/

/-- The text without the first of the given texts that it starts with. -/
def stripFirst (overrides : List String) (text : List Char) : List Char :=
  match overrides.find? fun o => o.toList.isPrefixOf text with
  | some o => text.drop o.toList.length
  | none => text

/-- The text without the first of the given texts that it ends with. -/
def stripLast (overrides : List String) (text : List Char) : List Char :=
  match overrides.find? fun o => o.toList.isSuffixOf text with
  | some o => text.take (text.length - o.toList.length)
  | none => text

/-- The text between others, with a blank to each that is not empty. -/
def enclose (opening closing : String) (text : List Char) : List Char :=
  (if opening.isEmpty then [] else opening.toList ++ [' ']) ++ text ++
    (if closing.isEmpty then [] else ' ' :: closing.toList)

/-- What a trimmed text comes out as: nothing if it is blank. -/
def TrimRule.apply (rule : TrimRule) (text : List Char) : List Char :=
  let inner := trimBlanks text
  if inner.isEmpty then []
  else
    enclose rule.opening rule.closing
      (stripLast rule.closingOverrides (stripFirst rule.openingOverrides inner))

/-! ## Evaluation -/

/-- The pieces so far and the character data after them. -/
structure Output where
  pieces : List (List Char) := []
  run : List Char := []

namespace Output

/-- The pieces, of which the character data is the last one. -/
def flushed (o : Output) : List (List Char) :=
  if o.run.isEmpty then o.pieces else o.pieces ++ [o.run]

/-- The output with one more piece, if that is not empty. -/
def add (o : Output) (piece : List Char) : Output :=
  ⟨if piece.isEmpty then o.flushed else o.flushed ++ [piece], []⟩

end Output

/-- A bound value in the text of a statement. -/
def placeholder (name : String) : List Char := (r"#{" ++ name ++ r"}").toList

namespace Runtime

variable (rt : Runtime)

mutual

/-- The output after a fragment. -/
def emit (o : Output) : Fragment → Output
  | .text text => { o with run := o.run ++ text.toList }
  | .param name => { o with run := o.run ++ placeholder name }
  | .when test body =>
    if rt.holds test then ⟨(emitAll ⟨o.flushed, []⟩ body).flushed, []⟩ else ⟨o.flushed, []⟩
  | .trim rule body => o.add (rule.apply ([' '].intercalate (emitAll {} body).flushed))
  | .forEach rule body => o.add (rt.repeated rule body)

/-- The output after fragments. -/
def emitAll (o : Output) : List Fragment → Output
  | [] => o
  | f :: fs => emitAll (emit o f) fs

end

/-- The text a body comes out as. -/
def text (body : Body) : List Char := [' '].intercalate (rt.emitAll {} body).flushed

mutual

/-- The words of a fragment's text: what is not character data has blanks on both sides. -/
def flatFragment : Fragment → List Char
  | .text text => text.toList
  | .param name => placeholder name
  | .when test body => ' ' :: ((if rt.holds test then flat body else []) ++ [' '])
  | .trim rule body => ' ' :: (rule.apply (rt.text body) ++ [' '])
  | .forEach rule body => ' ' :: (rt.repeated rule body ++ [' '])

/-- The words of a body's text. -/
def flat : List Fragment → List Char
  | [] => []
  | f :: fs => flatFragment f ++ flat fs

end

/-- The tests for values among `names` say whether all of these values are there. -/
def Decides (names : List String) : Prop :=
  ∀ tested, tested ≠ [] → (∀ name ∈ tested, name ∈ names) →
    rt.holds (Clause.presenceTest tested) = tested.all rt.present

variable {rt}

@[simp] theorem flat_nil : rt.flat [] = [] := rfl

@[simp] theorem flat_cons (f : Fragment) (fs : Body) :
    rt.flat (f :: fs) = rt.flatFragment f ++ rt.flat fs := rfl

/-- Text that is joined has the words of both texts. -/
theorem flatFragment_text_append (a b : String) :
    rt.flatFragment (.text (a ++ b)) = rt.flatFragment (.text a) ++ rt.flatFragment (.text b) :=
  String.toList_append

/-- Joining text with the text before it changes no word. -/
@[simp] theorem flat_push (body : Body) (f : Fragment) :
    rt.flat (body.push f) = rt.flat body ++ rt.flatFragment f :=
  Body.read_push rfl flat_cons flatFragment_text_append body f

/-- A body that is put together comes out as its parts do. -/
@[simp] theorem flat_append (body more : Body) :
    rt.flat (Body.append body more) = rt.flat body ++ rt.flat more :=
  Body.read_append rfl flat_cons flatFragment_text_append body more

/-- The words of the pieces and of the character data behind them. -/
theorem flatMap_flushed (o : Output) :
    o.flushed.flatMap blankWords = o.pieces.flatMap blankWords ++ blankWords o.run := by
  unfold Output.flushed
  split
  · next h => simp [List.isEmpty_iff.mp h]
  · simp

/-- A piece ends the character data before it. -/
theorem words_add (o : Output) (piece rest : List Char) :
    (o.add piece).pieces.flatMap blankWords ++ blankWords ((o.add piece).run ++ rest) =
      o.pieces.flatMap blankWords ++ blankWords (o.run ++ ' ' :: (piece ++ ' ' :: rest)) := by
  unfold Output.add
  rw [blankWords_append_blank, blankWords_append_blank]
  split
  · next h => simp [flatMap_flushed, List.isEmpty_iff.mp h]
  · simp [flatMap_flushed]

mutual

/-- Evaluating a fragment adds its words behind the character data. -/
theorem flatMap_emit (f : Fragment) (o : Output) (rest : List Char) :
    (rt.emit o f).pieces.flatMap blankWords ++ blankWords ((rt.emit o f).run ++ rest) =
      o.pieces.flatMap blankWords ++ blankWords (o.run ++ rt.flatFragment f ++ rest) := by
  match f with
  | .text text => simp [emit, flatFragment]
  | .param name => simp [emit, flatFragment]
  | .when test body =>
    have hinner := flatMap_emitAll body ⟨o.flushed, []⟩ []
    by_cases hholds : rt.holds test
    · simp only [emit, flatFragment, if_pos hholds, List.nil_append, List.append_nil,
        flatMap_flushed, blankWords_append_blank, List.append_assoc, List.cons_append] at hinner ⊢
      rw [← List.append_assoc, hinner]
      simp only [List.append_assoc]
    · simp only [emit, flatFragment, if_neg hholds, flatMap_flushed, List.nil_append,
        List.append_assoc, List.cons_append, blankWords_append_blank, blankWords_blank_cons]
  | .trim rule body =>
    rw [emit, words_add]
    simp [flatFragment, text]
  | .forEach rule body =>
    rw [emit, words_add]
    simp [flatFragment]

/-- Evaluating fragments adds their words behind the character data. -/
theorem flatMap_emitAll (fs : List Fragment) (o : Output) (rest : List Char) :
    (rt.emitAll o fs).pieces.flatMap blankWords ++ blankWords ((rt.emitAll o fs).run ++ rest) =
      o.pieces.flatMap blankWords ++ blankWords (o.run ++ rt.flat fs ++ rest) := by
  match fs with
  | [] => simp [emitAll]
  | f :: fs =>
    rw [emitAll, flatMap_emitAll fs, List.append_assoc, flatMap_emit f, flat_cons]
    simp

end

/-- The text of a body has the words of its parts. -/
theorem blankWords_text (body : Body) : blankWords (rt.text body) = blankWords (rt.flat body) := by
  rw [text, blankWords_intercalate, flatMap_flushed]
  simpa using flatMap_emitAll body {} []

end Runtime

/-! ## Tests that are read -/

/-- The first of every four: the names in the words `a != null and b != null`. -/
def everyFourth {α : Type} : List α → List α
  | x :: _ :: _ :: _ :: others => x :: everyFourth others
  | x :: _ => [x]
  | [] => []

/-- The names that a test compares with `null`. -/
def comparedNames (test : String) : List String :=
  (everyFourth (blankWords test.toList)).map String.ofList

/-- The words of a test for values, if a name is one word. -/
theorem blankWords_presenceTest (name : String) (names : List String)
    (h : ∀ n ∈ name :: names, n ≠ "" ∧ ' ' ∉ n.toList) :
    blankWords (Clause.presenceTest (name :: names)).toList =
      [name.toList, "!=".toList, "null".toList] ++
        names.flatMap fun n => ["and".toList, n.toList, "!=".toList, "null".toList] := by
  have hone : ∀ n ∈ name :: names, blankWords (n ++ " != null").toList =
      [n.toList, "!=".toList, "null".toList] := by
    intro n hn
    obtain ⟨hempty, hblank⟩ := h n hn
    rw [String.toList_append, blankWords_word_append (by simpa using hempty) hblank (by simp)]
    rfl
  clear h
  induction names generalizing name with
  | nil =>
    show blankWords (String.intercalate " and " [name ++ " != null"]).toList = _
    rw [String.intercalate_singleton, hone name List.mem_cons_self]
    rfl
  | cons next names ih =>
    obtain ⟨hname, hnames⟩ := List.forall_mem_cons.mp hone
    have hand : (Clause.presenceTest (name :: next :: names)).toList =
        (name ++ " != null").toList ++
          ' ' :: ("and".toList ++ ' ' :: (Clause.presenceTest (next :: names)).toList) := by
      show (String.intercalate " and " (_ :: _ :: _)).toList = _
      rw [String.intercalate_cons_cons, String.toList_append, String.toList_append,
        List.append_assoc]
      rfl
    rw [hand, blankWords_append_blank, blankWords_append_blank, hname,
      blankWords_of_not_mem (w := "and".toList) (by decide) (by decide), ih next hnames]
    rfl

/-- A test for values names these values, if a name is one word. -/
theorem comparedNames_presenceTest {names : List String} (hne : names ≠ [])
    (h : ∀ name ∈ names, name ≠ "" ∧ ' ' ∉ name.toList) :
    comparedNames (Clause.presenceTest names) = names := by
  cases names with
  | nil => exact absurd rfl hne
  | cons name names =>
    have hevery : ∀ (name : String) (names : List String),
        everyFourth ([name.toList, "!=".toList, "null".toList] ++
          names.flatMap fun n => ["and".toList, n.toList, "!=".toList, "null".toList]) =
        (name :: names).map String.toList := by
      intro name names
      induction names generalizing name with
      | nil => rfl
      | cons next names ih => exact congrArg (name.toList :: ·) (ih next)
    rw [comparedNames, blankWords_presenceTest name names h, hevery]
    simp

namespace Runtime

/-- The runtime in which a test holds if every name it compares with `null` has a value. -/
def ofPresent (present : String → Bool) (repeated : LoopRule → Body → List Char) : Runtime :=
  ⟨present, fun test => (comparedNames test).all present, repeated⟩

/-- Reading the tests decides names that are words. -/
theorem decides_ofPresent (present : String → Bool) (repeated : LoopRule → Body → List Char)
    {names : List String} (h : ∀ name ∈ names, name ≠ "" ∧ ' ' ∉ name.toList) :
    (ofPresent present repeated).Decides names := by
  intro tested hne hnames
  have hcompared := comparedNames_presenceTest hne fun name hname => h name (hnames name hname)
  show (comparedNames (Clause.presenceTest tested)).all present = _
  rw [hcompared]
  rfl

end Runtime

end DerivedQuery
