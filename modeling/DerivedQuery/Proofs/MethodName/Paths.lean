import DerivedQuery.MethodName.Parser
import DerivedQuery.Proofs.Except
import DerivedQuery.Proofs.Naming.Decapitalize

/-!
# Properties that names of methods mention

The paths of a query come from the segments of a method name, each one decapitalized
(`exists_segments`). A property of a query that stands for a name is therefore decapitalized
already (`decapitalize_of_mem_paths`), as the name of a field need not be.
-/

namespace DerivedQuery

open DerivedQuery.MethodName DerivedQuery.Naming

/-- The paths of the conditions and of the sort keys. -/
def Query.paths (q : Query) : List PropertyPath :=
  q.conditions.map (·.path) ++ (q.orderBy.getD []).map (·.path)

namespace Predicate

theorem conditions_markedIf (mark : Bool) (p : Predicate) :
    (p.markedIf mark).conditions = p.conditions := by
  cases mark <;> rfl

theorem mem_conditions_chain {op : Connective} {first : Predicate} {rest : List Predicate}
    {c : Condition} :
    c ∈ (chain op first rest).conditions ↔ ∃ p ∈ first :: rest, c ∈ p.conditions := by
  induction rest generalizing first with
  | nil => simp [chain]
  | cons second rest ih =>
    have hchain : chain op first (second :: rest) = chain op (binary op first second) rest := rfl
    rw [hchain, ih]
    simp [conditions, or_assoc]

end Predicate

namespace MethodName

/-- A name that is parsed stands for the query of a phrase. -/
theorem exists_phrase_of_parse {name : String} {q : Query} (h : parse name = .ok q) :
    ∃ p : Phrase, q = p.toQuery := by
  obtain ⟨c, -, h⟩ := bind_eq_ok.mp h
  unfold Cursor.parse at h
  split at h
  next p last hphrase =>
    cases h
    exact ⟨p, rfl⟩
  · cases h

theorem mem_conditions_group {g : TermGroup} {c : Condition}
    (h : c ∈ g.toPredicate.conditions) : ∃ segments, c.path = pathOf segments := by
  rw [TermGroup.toPredicate, Predicate.conditions_markedIf, Predicate.mem_conditions_chain] at h
  obtain ⟨p, hp, hc⟩ := h
  obtain ⟨term, -, rfl⟩ : ∃ term ∈ g.first :: g.others, term.toPredicate = p := by
    rwa [← List.map_cons, List.mem_map] at hp
  rw [Term.toPredicate, Predicate.conditions_markedIf] at hc
  obtain rfl := List.mem_singleton.mp hc
  exact ⟨term.segments, rfl⟩

/-- The paths of a phrase are spelled by segments. -/
theorem exists_segments {p : Phrase} {path : PropertyPath} (h : path ∈ p.toQuery.paths) :
    ∃ segments, path = pathOf segments := by
  rcases List.mem_append.mp h with hcondition | hkey
  · obtain ⟨c, hc, rfl⟩ := List.mem_map.mp hcondition
    have hconditions : p.toQuery.conditions = (p.predicate.map (·.conditions)).getD [] := rfl
    rw [hconditions, Phrase.predicate] at hc
    split at hc
    · cases hc
    next first others _ =>
      obtain ⟨q, hq, hc⟩ := Predicate.mem_conditions_chain.mp hc
      obtain ⟨group, -, rfl⟩ : ∃ group ∈ first :: others, group.toPredicate = q := by
        rwa [← List.map_cons, List.mem_map] at hq
      exact mem_conditions_group hc
  · obtain ⟨key, hmem, rfl⟩ := List.mem_map.mp hkey
    have horder : p.toQuery.orderBy = p.orderBy := rfl
    rw [horder, Phrase.orderBy] at hmem
    split at hmem
    · cases hmem
    · obtain ⟨phrase, -, rfl⟩ := List.mem_map.mp hmem
      exact ⟨phrase.segments, rfl⟩

/-- The segments of paths are decapitalized. -/
theorem decapitalize_of_mem_paths {name : String} {q : Query} {f : String}
    (h : parse name = .ok q) (hf : ⟨[f]⟩ ∈ q.paths) : decapitalize f = f := by
  obtain ⟨p, rfl⟩ := exists_phrase_of_parse h
  obtain ⟨segments, hsegments⟩ := exists_segments hf
  have hmem : f ∈ segments.map decapitalize := by
    rw [← (PropertyPath.mk.inj hsegments)]
    exact .head _
  obtain ⟨segment, -, rfl⟩ := List.mem_map.mp hmem
  exact decapitalize_decapitalize segment

end MethodName

end DerivedQuery
