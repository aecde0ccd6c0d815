import DerivedQuery.Proofs.Types.Closure
import DerivedQuery.Types.Resolver

/-!
# What a mapper supplies for a variable

A way up the hierarchy is a list of links, each a supertype as the declaration before it gives it.
`along` puts the arguments of the links into a type, the last link first, so that a type in the
declaration at the end becomes one as seen from the start. The walk over supertypes goes the other
way and puts arguments into each link as it comes to it (`seenFrom_follow`).

If only one way leads from a mapper to a declaration, the argument the mapper supplies for one of
its parameters is what the parameter becomes along that way (`argument?_inherited`).
-/

namespace DerivedQuery.Types

namespace TypeTable

variable {table : TypeTable}

/-! ## Ways up the hierarchy -/

/-- A way from one declaration up to another one, by the supertypes as they are declared. -/
inductive Ascends (table : TypeTable) : String → List TypeRef → String → Prop
  | here (name : String) : Ascends table name [] name
  | step {name next target : String} {args links : List TypeRef}
    (declares : .declared next args ∈ table.declaredSupertypes name)
    (further : Ascends table next links target) :
    Ascends table name (.declared next args :: links) target

/-- A way ends where it starts, or its first link is a supertype of its start. -/
theorem Ascends.first {name target : String} {links : List TypeRef}
    (h : table.Ascends name links target) :
    name = target ∧ links = [] ∨ ∃ next args rest,
      .declared next args ∈ table.declaredSupertypes name ∧
        table.Ascends next rest target ∧ links = .declared next args :: rest := by
  cases h with
  | here => exact .inl ⟨rfl, rfl⟩
  | step declares further => exact .inr ⟨_, _, _, declares, further, rfl⟩

theorem Ascends.concat {name middle target : String} {links args : List TypeRef}
    (h : table.Ascends name links middle)
    (hlast : .declared target args ∈ table.declaredSupertypes middle) :
    table.Ascends name (links ++ [.declared target args]) target := by
  induction h with
  | here name => exact .step hlast (.here target)
  | step declares _ ih => exact .step declares (ih hlast)

/-- A way of at least one link on which every link supplies all parameters of its declaration, with
arguments over the parameters of the declaration before it. Of the first declaration `params` are
supplied. -/
inductive Inherits (table : TypeTable) : String → List String → List TypeRef → String → Prop
  | direct {name next : String} {params : List String} {args : List TypeRef}
    (declares : .declared next args ∈ table.declaredSupertypes name)
    (scope : ∀ a ∈ args, a.Over name params)
    (supplies : (table.typeParams next).length ≤ args.length) :
    Inherits table name params [.declared next args] next
  | further {name next target : String} {params : List String} {args links : List TypeRef}
    (declares : .declared next args ∈ table.declaredSupertypes name)
    (scope : ∀ a ∈ args, a.Over name params)
    (supplies : (table.typeParams next).length ≤ args.length)
    (rest : Inherits table next (table.typeParams next) links target) :
    Inherits table name params (.declared next args :: links) target

section

variable {name target : String} {params : List String} {links : List TypeRef}

theorem Inherits.ascends (h : table.Inherits name params links target) :
    table.Ascends name links target := by
  induction h with
  | direct declares => exact .step declares (.here _)
  | further declares _ _ _ ih => exact .step declares ih

/-- A type in the declaration at the end of a way as seen from its start. -/
def along (table : TypeTable) (links : List TypeRef) (t : TypeRef) : TypeRef :=
  links.foldr table.seenFrom t

/-- The type at the end of a way from `start`. -/
def follow (table : TypeTable) (start : TypeRef) (links : List TypeRef) : TypeRef :=
  links.foldl table.seenFrom start

theorem over_seenFrom {owner next : String} {ps : List String} {args : List TypeRef} {t : TypeRef}
    (ht : t.Over next (table.typeParams next)) (hscope : ∀ a ∈ args, a.Over owner ps)
    (hsupplies : (table.typeParams next).length ≤ args.length) :
    (table.seenFrom (.declared next args) t).Over owner ps :=
  TypeRef.over_substitute ht hsupplies hscope

/-- Along a way the variables of its end become types over what the start is supplied with. -/
theorem over_along (h : table.Inherits name params links target) {t : TypeRef}
    (ht : t.Over target (table.typeParams target)) : (table.along links t).Over name params := by
  induction h with
  | direct _ scope supplies => exact over_seenFrom ht scope supplies
  | further _ scope supplies _ ih => exact over_seenFrom (ih ht) scope supplies

/-- Putting arguments into a link first, and then its arguments into a type, comes to the same as
the other way round. -/
theorem seenFrom_seenFrom {next : String} {args : List TypeRef} {t : TypeRef}
    (ht : t.Over next (table.typeParams next))
    (hsupplies : (table.typeParams next).length ≤ args.length) (start : TypeRef) :
    table.seenFrom (table.seenFrom start (.declared next args)) t =
      table.seenFrom start (table.seenFrom (.declared next args) t) := by
  cases start with
  | primitive | void | array | var => rfl
  | declared name args' =>
    show table.seenFrom ((TypeRef.declared next args).substitute _ _ _) t = _
    rw [TypeRef.substitute_declared]
    exact (TypeRef.substitute_substitute ht hsupplies _ _ _).symm

/-- A type seen from the end of a way is what it becomes along the way, seen from the start. -/
theorem seenFrom_follow (h : table.Inherits name params links target) {t : TypeRef}
    (ht : t.Over target (table.typeParams target)) (start : TypeRef) :
    table.seenFrom (table.follow start links) t = table.seenFrom start (table.along links t) := by
  induction h generalizing start with
  | direct _ _ supplies => exact seenFrom_seenFrom ht supplies start
  | further _ _ supplies rest ih =>
    show table.seenFrom (table.follow (table.seenFrom start _) _) t = _
    rw [ih ht]
    exact seenFrom_seenFrom (over_along rest ht) supplies start

/-- The type at the end of a way has arguments for all parameters. -/
theorem exists_follow (h : table.Inherits name params links target) (args₀ : List TypeRef) :
    ∃ args, table.follow (.declared name args₀) links = .declared target args ∧
      (table.typeParams target).length ≤ args.length := by
  induction h generalizing args₀ with
  | @direct name next _ args _ _ supplies =>
    refine ⟨args.map (·.substitute name (table.typeParams name) args₀), ?_, ?_⟩
    · exact TypeRef.substitute_declared name _ args₀ args next
    · rwa [List.length_map]
  | @further name next _ _ args _ _ _ _ _ ih =>
    obtain ⟨args', hfollow, hlen⟩ := ih (args.map (·.substitute name (table.typeParams name) args₀))
    refine ⟨args', ?_, hlen⟩
    rw [← hfollow]
    exact congrArg (table.follow · _) (TypeRef.substitute_declared name _ args₀ args next)

end

/-! ## Ways and the walk -/

/-- The names at the ends of ways are met. -/
theorem exists_of_ascends {start target : String} {links : List TypeRef}
    (h : table.Ascends start links target) {root : TypeRef}
    (hstart : ∃ t ∈ root :: table.closure root, t.erasure? = some start) :
    ∃ t ∈ root :: table.closure root, t.erasure? = some target := by
  induction h with
  | here => exact hstart
  | @step name next target args links declares _ ih =>
    refine ih ?_
    obtain ⟨t, ht, hname⟩ := hstart
    cases t with
    | primitive | void | array | var => cases hname
    | declared other args' =>
      obtain rfl : other = name := Option.some.inj hname
      have hsup : table.seenFrom (.declared other args') (.declared next args) ∈
          table.supertypes (.declared other args') := by
        rw [supertypes_declared]
        exact List.mem_map_of_mem declares
      have hnext : (table.seenFrom (.declared other args') (.declared next args)).erasure? =
          some next := erasure?_seenFrom (fun _ _ h => by cases h) _
      rcases covered_closure root _ ht _ hsup next hnext with hmem | hmet
      · cases hmem
      · exact hmet

/-- Whatever is met stands at the end of a way. -/
theorem exists_ascends (hext : table.ExtendsTypes) {root target : String} {t : TypeRef}
    (ht : t ∈ TypeRef.simple root :: table.closure (.simple root))
    (hname : t.erasure? = some target) :
    ∃ links, table.Ascends root links target ∧ t = table.follow (.simple root) links := by
  let P (t : TypeRef) : Prop := ∀ target, t.erasure? = some target →
    ∃ links, table.Ascends root links target ∧ t = table.follow (.simple root) links
  have hroot : P (.simple root) := by
    rintro target ⟨⟩
    exact ⟨[], .here root, rfl⟩
  have hstep : ∀ t, P t → ∀ s ∈ table.supertypes t, P s := by
    intro t ht s hs target hname
    cases t with
    | primitive | void | array | var => cases hs
    | declared name args =>
      obtain ⟨links, hway, hfollow⟩ := ht name rfl
      rw [supertypes_declared] at hs
      obtain ⟨u, hu, rfl⟩ := List.mem_map.mp hs
      rw [erasure?_seenFrom (hext.ne_var hu)] at hname
      cases u with
      | primitive | void | array | var => cases hname
      | declared next args' =>
        obtain rfl : next = target := Option.some.inj hname
        refine ⟨_, hway.concat hu, ?_⟩
        rw [hfollow, follow, follow, List.foldl_append, List.foldl_cons, List.foldl_nil]
  have hall : ∀ u ∈ TypeRef.simple root :: table.closure (.simple root), P u :=
    List.forall_mem_cons.mpr ⟨hroot, forall_mem_closure hstep hroot⟩
  exact hall t ht target hname

end TypeTable

/-! ## The argument for a parameter -/

theorem findSome?_eq_of_forall {α β : Type} {f : α → Option β} {b : β} {l : List α}
    (hsome : ∃ a ∈ l, f a = some b) (hall : ∀ a ∈ l, ∀ c, f a = some c → c = b) :
    l.findSome? f = some b := by
  obtain ⟨a, ha, hfa⟩ := hsome
  have hfound : (l.findSome? f).isSome :=
    List.findSome?_isSome_iff.mpr ⟨a, ha, Option.isSome_iff_exists.mpr ⟨b, hfa⟩⟩
  obtain ⟨c, hc⟩ := Option.isSome_iff_exists.mp hfound
  obtain ⟨a', ha', hfa'⟩ := List.exists_of_findSome?_eq_some hc
  rw [hc, hall a' ha' c hfa']

/-- If only one way leads to a declaration, the mapper supplies for a parameter of it what the
parameter becomes along the way. -/
theorem Resolver.argument?_inherited {r : Resolver} {mapper target param : String}
    {links : List TypeRef} (hext : r.table.ExtendsTypes)
    (hway : r.table.Inherits mapper [] links target)
    (honly : ∀ other, r.table.Ascends mapper other target → other = links)
    (hparam : param ∈ r.table.typeParams target) :
    r.argument? (.simple mapper) param target =
      some (r.table.along links (.var param target)) := by
  obtain ⟨args, hfollow, hlen⟩ := TypeTable.exists_follow hway []
  obtain ⟨index, arg, hindex, hget, harg⟩ := TypeRef.exists_argument hparam hlen
  have hseen : r.table.along links (.var param target) = arg := by
    have hover : (TypeRef.var param target).Over target (r.table.typeParams target) := by
      intro v hv
      obtain rfl := List.mem_singleton.mp hv
      exact ⟨rfl, hparam⟩
    have h := TypeTable.seenFrom_follow hway hover (.simple mapper)
    rw [TypeRef.simple, hfollow] at h
    simpa [TypeTable.seenFrom, TypeRef.substitute, harg] using h.symm
  have hend : ∀ t ∈ TypeRef.simple mapper :: r.table.closure (.simple mapper),
      t.erasure? = some target → t = .declared target args := by
    intro t ht hname
    obtain ⟨other, hother, rfl⟩ := TypeTable.exists_ascends hext ht hname
    rw [honly other hother]
    exact hfollow
  rw [hseen, Resolver.argument?, hindex]
  refine findSome?_eq_of_forall ?_ ?_
  · have hstart : ∃ t ∈ TypeRef.simple mapper :: r.table.closure (.simple mapper),
        t.erasure? = some mapper := ⟨_, .head _, rfl⟩
    obtain ⟨t, ht, hname⟩ := TypeTable.exists_of_ascends hway.ascends hstart
    refine ⟨t, ht, ?_⟩
    rw [if_pos hname, hend t ht hname]
    exact hget
  · intro t ht c hc
    split at hc
    next hname =>
      rw [hend t ht hname] at hc
      exact Option.some.inj (hc.symm.trans hget)
    next => cases hc

end DerivedQuery.Types
