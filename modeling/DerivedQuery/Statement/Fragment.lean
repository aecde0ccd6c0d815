/-!
# Fragments of a statement

The body of a statement is a list of fragments: text, bound values, and parts that depend on the
values at run time. `push` adds a fragment at the end of a body and merges text with the text
before it, so that bodies built with it have no two neighbouring texts.

Mirrors `SqlFragment`, `push` and `push_text`.
-/

namespace DerivedQuery

/-- What surrounds a trimmed body that is not empty, and what is stripped from its ends first. -/
structure TrimRule where
  opening : String := ""
  closing : String := ""
  /-- The texts of which one is stripped from the start. -/
  openingOverrides : List String := []
  /-- The texts of which one is stripped from the end. -/
  closingOverrides : List String := []
deriving DecidableEq, Repr

/-- The collection a body is repeated for, the name of its current element, and what stands before,
between and after the repetitions. -/
structure LoopRule where
  collection : String
  item : String
  opening : String := ""
  separator : String := ""
  closing : String := ""
deriving DecidableEq, Repr

/-- A part of a statement. -/
inductive Fragment
  | text (text : String)
  /-- A bound value. -/
  | param (name : String)
  /-- A body that counts only if a test holds. -/
  | when (test : String) (body : List Fragment)
  /-- A body with its ends adjusted; nothing if the body comes out empty. -/
  | trim (rule : TrimRule) (body : List Fragment)
  /-- A body repeated for each element of a collection. -/
  | forEach (rule : LoopRule) (body : List Fragment)
deriving Repr, Inhabited

namespace Fragment

mutual

/-- Whether two fragments are equal. -/
def decEq : (f g : Fragment) → Decidable (f = g)
  | .text a, .text b =>
    if h : a = b then isTrue (by rw [h]) else isFalse (by intro e; cases e; exact h rfl)
  | .param a, .param b =>
    if h : a = b then isTrue (by rw [h]) else isFalse (by intro e; cases e; exact h rfl)
  | .when a fs, .when b gs =>
    if h : a = b then
      match decEqList fs gs with
      | isTrue h' => isTrue (by rw [h, h'])
      | isFalse h' => isFalse (by intro e; cases e; exact h' rfl)
    else isFalse (by intro e; cases e; exact h rfl)
  | .trim a fs, .trim b gs =>
    if h : a = b then
      match decEqList fs gs with
      | isTrue h' => isTrue (by rw [h, h'])
      | isFalse h' => isFalse (by intro e; cases e; exact h' rfl)
    else isFalse (by intro e; cases e; exact h rfl)
  | .forEach a fs, .forEach b gs =>
    if h : a = b then
      match decEqList fs gs with
      | isTrue h' => isTrue (by rw [h, h'])
      | isFalse h' => isFalse (by intro e; cases e; exact h' rfl)
    else isFalse (by intro e; cases e; exact h rfl)
  | .text _, .param _ | .text _, .when _ _ | .text _, .trim _ _ | .text _, .forEach _ _
  | .param _, .text _ | .param _, .when _ _ | .param _, .trim _ _ | .param _, .forEach _ _
  | .when _ _, .text _ | .when _ _, .param _ | .when _ _, .trim _ _ | .when _ _, .forEach _ _
  | .trim _ _, .text _ | .trim _ _, .param _ | .trim _ _, .when _ _ | .trim _ _, .forEach _ _
  | .forEach _ _, .text _ | .forEach _ _, .param _ | .forEach _ _, .when _ _
  | .forEach _ _, .trim _ _ => isFalse (by intro e; cases e)

/-- Whether two bodies are equal. -/
def decEqList : (fs gs : List Fragment) → Decidable (fs = gs)
  | [], [] => isTrue rfl
  | [], _ :: _ | _ :: _, [] => isFalse (by intro e; cases e)
  | f :: fs, g :: gs =>
    match decEq f g with
    | isFalse h => isFalse (by intro e; cases e; exact h rfl)
    | isTrue h =>
      match decEqList fs gs with
      | isTrue h' => isTrue (by rw [h, h'])
      | isFalse h' => isFalse (by intro e; cases e; exact h' rfl)

end

instance : DecidableEq Fragment := decEq

end Fragment

/-- A sequence of fragments. -/
abbrev Body := List Fragment

namespace Body

/-- The body with a fragment at its end; text joins the text before it. -/
def push : Body → Fragment → Body
  | [.text before], .text after => [.text (before ++ after)]
  | [], f => [f]
  | g :: rest, f => g :: push rest f

/-- The body with text at its end, if there is any text. -/
def pushText (body : Body) (text : String) : Body :=
  if text.isEmpty then body else body.push (.text text)

/-- The body with the fragments of another one at its end. -/
def append (body more : Body) : Body := more.foldl push body

section Reading

variable {α : Type} {read : Fragment → List α} {readAll : Body → List α}

/-- A reading of fragments one after another that takes joined texts apart does not see where a
fragment was added. -/
theorem read_push (hnil : readAll [] = [])
    (hcons : ∀ f fs, readAll (f :: fs) = read f ++ readAll fs)
    (htext : ∀ a b, read (.text (a ++ b)) = read (.text a) ++ read (.text b))
    (body : Body) (f : Fragment) : readAll (body.push f) = readAll body ++ read f := by
  fun_induction push body f with
  | case1 before after => simp [hnil, hcons, htext]
  | case2 => simp [hnil, hcons]
  | case3 f g rest h ih => simp [hcons, ih]

/-- A reading of fragments one after another that takes joined texts apart does not see where a
body was put together. -/
theorem read_append (hnil : readAll [] = [])
    (hcons : ∀ f fs, readAll (f :: fs) = read f ++ readAll fs)
    (htext : ∀ a b, read (.text (a ++ b)) = read (.text a) ++ read (.text b))
    (body more : Body) : readAll (body.append more) = readAll body ++ readAll more := by
  unfold append
  induction more generalizing body with
  | nil => simp [hnil]
  | cons f more ih =>
    rw [List.foldl_cons, ih, read_push hnil hcons htext, hcons, List.append_assoc]

end Reading

end Body

end DerivedQuery
