import DerivedQuery.Statement.Basic

/-!
# Bodies that are put together

`Body.append` joins the text at the border of two bodies. Which parts were put together first does
not show in the result (`append_append`), and neither does it whether texts were joined before they
came behind another body (`append_concat`). In the written form nothing of the joining shows at
all: a body that was put together is written as its parts are, one after another
(`renderBody_append`).
-/

namespace DerivedQuery

open DerivedQuery.Xml

namespace Body

@[simp] theorem append_nil (body : Body) : body.append [] = body := rfl

theorem append_cons (body : Body) (f : Fragment) (more : Body) :
    body.append (f :: more) = (body.push f).append more := rfl

/-- Fragments one after another are added one after another. -/
theorem append_concat (body more last : Body) :
    body.append (more ++ last) = (body.append more).append last := List.foldl_append

theorem push_cons_cons (f g : Fragment) (rest : Body) (h : Fragment) :
    push (f :: g :: rest) h = f :: push (g :: rest) h := by
  cases f <;> rfl

/-- Texts that are added one after another are joined as one. -/
theorem push_text_text (body : Body) (a b : String) :
    (body.push (.text a)).push (.text b) = body.push (.text (a ++ b)) := by
  induction body with
  | nil => rfl
  | cons f rest ih =>
    cases rest with
    | nil =>
      cases f with
      | text before =>
        show [Fragment.text (before ++ a ++ b)] = [.text (before ++ (a ++ b))]
        rw [String.append_assoc]
      | param | when | trim | forEach => rfl
    | cons g rest =>
      rw [push_cons_cons, push_cons_cons, ← ih]
      cases hpush : push (g :: rest) (.text a) with
      | nil => cases g <;> cases rest <;> cases hpush
      | cons h more => rw [push_cons_cons]

/-- A fragment that was added at the end comes behind everything else. -/
theorem append_push (body more : Body) (f : Fragment) :
    body.append (more.push f) = (body.append more).push f := by
  fun_induction push more f generalizing body with
  | case1 before after => exact (push_text_text body before after).symm
  | case2 f => rfl
  | case3 f g rest h ih =>
    rw [append_cons, append_cons, ih]

/-- Which parts were put together first does not matter. -/
theorem append_append (body more last : Body) :
    body.append (more.append last) = (body.append more).append last := by
  induction last generalizing more with
  | nil => rfl
  | cons f last ih => rw [append_cons, ih, append_push, append_cons]

end Body

/-! ## The written form -/

theorem escapeText_append (a b : String) : escapeText (a ++ b) = escapeText a ++ escapeText b := by
  rw [escapeText, String.toList_append, List.flatMap_append, String.ofList_append]
  rfl

/-- Fragments one after another are written one after another. -/
theorem renderBody_concat (body more : Body) :
    renderBody (body ++ more) = renderBody body ++ renderBody more := by
  induction body with
  | nil => rw [List.nil_append, renderBody, String.empty_append]
  | cons f body ih => rw [List.cons_append, renderBody, renderBody, ih, String.append_assoc]

theorem renderBody_flatMap {α : Type} (xs : List α) (body : α → Body) :
    renderBody (xs.flatMap body) = String.join (xs.map fun x => renderBody (body x)) := by
  induction xs with
  | nil => rfl
  | cons x xs ih =>
    rw [List.flatMap_cons, renderBody_concat, ih, List.map_cons, String.join_cons]

/-- A fragment that was added is written behind the body. -/
theorem renderBody_push (body : Body) (f : Fragment) :
    renderBody (body.push f) = renderBody body ++ f.render := by
  fun_induction Body.push body f with
  | case1 before after =>
    show escapeText (before ++ after) ++ "" = escapeText before ++ "" ++ escapeText after
    rw [escapeText_append, String.append_empty, String.append_empty]
  | case2 f =>
    show f.render ++ "" = "" ++ f.render
    rw [String.append_empty, String.empty_append]
  | case3 f g rest h ih => rw [renderBody, renderBody, ih, String.append_assoc]

/-- A body that was put together is written as its parts are. -/
theorem renderBody_append (body more : Body) :
    renderBody (body.append more) = renderBody body ++ renderBody more := by
  induction more generalizing body with
  | nil => rw [Body.append_nil, renderBody, String.append_empty]
  | cons f more ih => rw [Body.append_cons, ih, renderBody_push, renderBody, String.append_assoc]

end DerivedQuery
