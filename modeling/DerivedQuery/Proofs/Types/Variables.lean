import DerivedQuery.Types.TypeRef
import Mathlib.Data.List.Basic

/-!
# Variables of types

The variables that a type mentions, and what substitution makes of them. A type is `Over` the
parameters of a declaration if it mentions no other variables, and closed if it mentions none.

Arguments that supply all parameters of a declaration leave none of its variables in a type over
them (`over_substitute`), and what is substituted afterwards is substituted in the arguments
(`substitute_substitute`).
-/

namespace DerivedQuery.Types.TypeRef

/-- What holds of a declared type if it does of its arguments, of an array if it does of its
element, and of every other type, holds of all types. -/
@[induction_eliminator]
theorem induction {motive : TypeRef → Prop} (primitive : ∀ name, motive (.primitive name))
    (void : motive .void) (array : ∀ element, motive element → motive (.array element))
    (declared : ∀ name args, (∀ a ∈ args, motive a) → motive (.declared name args))
    (var : ∀ name owner, motive (.var name owner)) (t : TypeRef) : motive t :=
  @TypeRef.rec motive (fun args => ∀ a ∈ args, motive a) primitive void array declared var
    (List.forall_mem_nil _) (fun _ _ hhead htail => List.forall_mem_cons.mpr ⟨hhead, htail⟩) t

/-! ## Functions on the arguments of a declared type -/

theorem linkVarsAll_eq_map (params : List String) (owner : String) (ts : List TypeRef) :
    linkVarsAll params owner ts = ts.map (·.linkVars params owner) := by
  induction ts with
  | nil => rfl
  | cons t ts ih => rw [linkVarsAll, ih, List.map_cons]

theorem substituteAll_eq_map (owner : String) (params : List String) (args ts : List TypeRef) :
    substituteAll owner params args ts = ts.map (·.substitute owner params args) := by
  induction ts with
  | nil => rfl
  | cons t ts ih => rw [substituteAll, ih, List.map_cons]

@[simp] theorem substitute_declared (owner : String) (params : List String)
    (args inner : List TypeRef) (name : String) :
    (declared name inner).substitute owner params args =
      .declared name (inner.map (·.substitute owner params args)) := by
  rw [substitute, substituteAll_eq_map]

/-! ## Variables -/

mutual

/-- The variables that the type mentions, each with its declaration's name first. -/
def vars : TypeRef → List (String × String)
  | .primitive _ | .void => []
  | .array element => element.vars
  | .declared _ args => varsOfAll args
  | .var name owner => [(owner, name)]

/-- The variables that several types mention. -/
def varsOfAll : List TypeRef → List (String × String)
  | [] => []
  | t :: ts => t.vars ++ varsOfAll ts

end

theorem vars_declared (name : String) (args : List TypeRef) :
    (declared name args).vars = args.flatMap vars := by
  rw [vars]
  induction args with
  | nil => rfl
  | cons t ts ih => rw [varsOfAll, ih, List.flatMap_cons]

/-- Whether the type mentions no variables but the given parameters of a declaration. -/
def Over (owner : String) (params : List String) (t : TypeRef) : Prop :=
  ∀ v ∈ t.vars, v.1 = owner ∧ v.2 ∈ params

/-- Whether the type mentions no variable. -/
def Closed (t : TypeRef) : Prop := t.vars = []

instance (owner : String) (params : List String) (t : TypeRef) : Decidable (t.Over owner params) :=
  inferInstanceAs (Decidable (∀ v ∈ t.vars, v.1 = owner ∧ v.2 ∈ params))

instance (t : TypeRef) : Decidable t.Closed := inferInstanceAs (Decidable (t.vars = []))

theorem Over.of_mem {owner name : String} {params : List String} {args : List TypeRef}
    (h : (declared name args).Over owner params) {a : TypeRef} (ha : a ∈ args) :
    a.Over owner params := by
  intro v hv
  exact h v (by rw [vars_declared]; exact List.mem_flatMap.mpr ⟨a, ha, hv⟩)

theorem over_declared {owner name : String} {params : List String} {args : List TypeRef}
    (h : ∀ a ∈ args, a.Over owner params) : (declared name args).Over owner params := by
  intro v hv
  rw [vars_declared] at hv
  obtain ⟨a, ha, hv⟩ := List.mem_flatMap.mp hv
  exact h a ha v hv

theorem Over.closed {owner : String} {t : TypeRef} (h : t.Over owner []) : t.Closed :=
  List.eq_nil_iff_forall_not_mem.mpr fun v hv => by cases (h v hv).2

theorem Closed.of_mem {name : String} {args : List TypeRef} (h : (declared name args).Closed)
    {a : TypeRef} (ha : a ∈ args) : a.Closed := by
  rw [Closed, vars_declared] at h
  exact List.flatMap_eq_nil_iff.mp h a ha

/-! ## Substitution -/

theorem argumentFor?_map (params : List String) (args : List TypeRef) (f : TypeRef → TypeRef)
    (name : String) :
    argumentFor? params (args.map f) name = (argumentFor? params args name).map f := by
  unfold argumentFor?
  cases params.idxOf? name with
  | none => rfl
  | some i => exact List.getElem?_map

/-- A parameter has an argument if all parameters have. -/
theorem exists_argument {params : List String} {args : List TypeRef} {name : String}
    (hname : name ∈ params) (hlen : params.length ≤ args.length) :
    ∃ i a, params.idxOf? name = some i ∧ args[i]? = some a ∧
      argumentFor? params args name = some a := by
  obtain ⟨i, hi⟩ := Option.isSome_iff_exists.mp (List.isSome_idxOf?.mpr hname)
  have hlt : i < params.length := (List.idxOf?_eq_some_iff.mp hi).1
  have hget : args[i]? = some args[i] := List.getElem?_eq_getElem (by omega)
  refine ⟨i, args[i], hi, hget, ?_⟩
  rw [argumentFor?, hi]
  exact hget

/-- Without arguments nothing is replaced. -/
@[simp] theorem substitute_nil (t : TypeRef) (owner : String) (params : List String) :
    t.substitute owner params [] = t := by
  induction t with
  | primitive | void => rfl
  | array element ih => rw [substitute, ih]
  | declared name args ih => rw [substitute_declared, List.map_congr_left ih, List.map_id']
  | var name other =>
    have hnone : argumentFor? params [] name = none := by
      unfold argumentFor?
      cases params.idxOf? name <;> rfl
    rw [substitute, hnone]
    exact ite_self _

/-- A type without variables stays as it is. -/
theorem Closed.substitute {t : TypeRef} (h : t.Closed) (owner : String) (params : List String)
    (args : List TypeRef) : t.substitute owner params args = t := by
  induction t with
  | primitive | void => rfl
  | array element ih => rw [TypeRef.substitute, ih h]
  | declared name inner ih =>
    rw [substitute_declared, List.map_congr_left fun a ha => ih a ha (h.of_mem ha), List.map_id']
  | var => cases h

section Supplied

variable {owner : String} {params : List String} {args : List TypeRef} {t : TypeRef}

/-- Two substitutions, one after the other, are one of the arguments that the second one is made
in, if the first one replaces every variable. -/
theorem substitute_substitute (h : t.Over owner params) (hlen : params.length ≤ args.length)
    (owner' : String) (params' : List String) (args' : List TypeRef) :
    (t.substitute owner params args).substitute owner' params' args' =
      t.substitute owner params (args.map (·.substitute owner' params' args')) := by
  induction t with
  | primitive | void => rfl
  | array element ih => simp only [substitute, ih h]
  | declared name inner ih =>
    simp only [substitute_declared, List.map_map]
    exact congrArg _ (List.map_congr_left fun a ha => ih a ha (h.of_mem ha))
  | var name other =>
    obtain ⟨rfl, hname⟩ := h _ (.head _)
    obtain ⟨i, a, -, -, ha⟩ := exists_argument hname hlen
    simp only [substitute, if_true, argumentFor?_map, ha, Option.map_some, Option.getD_some]

/-- Arguments for all variables bring in their own variables. -/
theorem over_substitute {owner' : String} {params' : List String} (h : t.Over owner params)
    (hlen : params.length ≤ args.length) (hargs : ∀ a ∈ args, a.Over owner' params') :
    (t.substitute owner params args).Over owner' params' := by
  induction t with
  | primitive | void => exact fun v hv => by cases hv
  | array element ih => exact ih h
  | declared name inner ih =>
    rw [substitute_declared]
    refine over_declared fun a ha => ?_
    obtain ⟨b, hb, rfl⟩ := List.mem_map.mp ha
    exact ih b hb (h.of_mem hb)
  | var name other =>
    obtain ⟨rfl, hname⟩ := h _ (.head _)
    obtain ⟨i, a, -, hget, ha⟩ := exists_argument hname hlen
    rw [substitute, if_pos rfl, ha]
    exact hargs a (List.mem_of_getElem? hget)

end Supplied

end DerivedQuery.Types.TypeRef
