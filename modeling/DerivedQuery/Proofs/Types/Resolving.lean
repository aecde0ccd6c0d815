import DerivedQuery.Types.Resolver

/-!
# How types resolve

The descriptors of types whose resolution depends on nothing but the type itself, and what a
declared type resolves to that is neither an iterable nor opaque.
-/

namespace DerivedQuery

open DerivedQuery.Types

theorem resolve_primitive (r : Resolver) (owner : TypeRef) (name : String) :
    r.resolve owner (.primitive name) = .ok (.scalar name) := by
  rw [Resolver.resolve, Resolver.resolveAt]
  rfl

theorem resolve_void (r : Resolver) (owner : TypeRef) : r.resolve owner .void = .ok .void := by
  rw [Resolver.resolve, Resolver.resolveAt]
  rfl

theorem resolve_array_primitive (r : Resolver) (owner : TypeRef) (name : String) :
    r.resolve owner (.array (.primitive name)) = .ok (.iterable (name ++ "[]") (.scalar name)) := by
  rw [Resolver.resolve, Resolver.resolveAt, dif_neg (by decide)]
  rw [Resolver.resolveAt]
  rfl

theorem resolve_bean {r : Resolver} {owner : TypeRef} {name : String} {args : List TypeRef}
    (hiterable : r.isIterable (.declared name args) = false) (hscalar : r.isOpaque name = false) :
    r.resolve owner (.declared name args) = r.resolveBean (.declared name args) name := by
  rw [Resolver.resolve]
  unfold Resolver.resolveAt
  rw [dif_neg (by decide)]
  simp only [hiterable, hscalar]
  rfl

/-- What a type resolves to that is neither iterable nor opaque, by the list of its supertypes. -/
theorem resolve_of_closure {r : Resolver} {name : String} {args : List TypeRef}
    {fields : List BeanField} (supertypes : List TypeRef)
    (hclosure : r.table.closure (.declared name args) = supertypes)
    (hiterable : ∀ u ∈ TypeRef.declared name args :: supertypes,
      u.erasure? ≠ some r.iterableType)
    (hscalar : r.isOpaque name = false) (hdeclared : r.table.contains name = true)
    (hfields : r.beanFields ((supertypes.reverse ++ [TypeRef.declared name args]).filterMap
      fun t => t.erasure?.bind r.table.find?) = fields) (owner : TypeRef) :
    r.resolve owner (.declared name args) = .ok (.bean name fields) := by
  have hiterable : r.isIterable (.declared name args) = false := by
    obtain ⟨hself, hnone⟩ := List.forall_mem_cons.mp hiterable
    rw [Resolver.isIterable, hclosure, Bool.or_eq_false_iff, List.any_eq_false]
    exact ⟨beq_false_of_ne hself, fun u hu => by simpa using hnone u hu⟩
  rw [resolve_bean hiterable hscalar, Resolver.resolveBean, if_pos hdeclared, Resolver.lineage,
    hclosure, hfields]

end DerivedQuery
