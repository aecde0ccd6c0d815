import DerivedQuery.Proofs.Types.Bean

/-!
# Which declaration of a field counts

Where several types of a hierarchy declare a field, a property follows the type that the walk over
the supertypes comes to last (`resolve_bean_precedence`). In a chain of superclasses that is the
farthest ancestor. The walk comes to a type by ways through types it has come to before, so a
declaration is overruled by all types that cannot be reached past its own: an ancestor gives way to a
descendant only if another way leads up to the ancestor, as in a diamond
(`descendant_wins_in_diamond`).
-/

namespace DerivedQuery.Types

namespace TypeTable

variable {table : TypeTable}

/-! ## The order of the walk -/

/-- A type and its supertypes have different names. -/
theorem pairwise_closure (table : TypeTable) (name : String) (args : List TypeRef) :
    (TypeRef.declared name args :: table.closure (.declared name args)).Pairwise
      fun s u => s.erasure? ≠ u.erasure? := by
  obtain ⟨hpairwise, hfresh⟩ := table.pairwise_walk [name] (table.supertypes (.declared name args))
  exact List.pairwise_cons.mpr ⟨fun u hu => (hfresh u hu name (.head _)).symm, hpairwise⟩

/-- What holds of a type and is passed on to supertypes among those the walk comes to first holds of
all of these. -/
theorem forall_mem_of_closure_eq_append {t : TypeRef} {first rest : List TypeRef}
    (h : t :: table.closure t = first ++ rest) {P : TypeRef → Prop} (ht : P t)
    (hstep : ∀ s, P s → ∀ u ∈ first, u ∈ table.supertypes s → P u) : ∀ u ∈ first, P u := by
  induction first using List.reverseRecOn generalizing rest with
  | nil => exact fun u hu => by cases hu
  | append_singleton before u ih =>
    rw [List.append_assoc] at h
    have hbefore := ih h fun s hs v hv => hstep s hs v (List.mem_append_left _ hv)
    intro v hv
    rcases List.mem_append.mp hv with hv | hv
    · exact hbefore v hv
    obtain rfl := List.mem_singleton.mp hv
    cases before with
    | nil =>
      obtain ⟨rfl, -⟩ := List.cons.inj h
      exact ht
    | cons root before =>
      obtain ⟨rfl, hwalk⟩ := List.cons.inj h
      have hlast : v ∈ before ++ [v] := List.mem_append_right _ (.head _)
      rcases mem_or_supertype_of_walk hwalk with hsup | ⟨s, hs, hsup⟩
      · exact hstep _ ht v (.tail _ hlast) hsup
      · exact hstep s (hbefore s (.tail _ hs)) v (.tail _ hlast) hsup

/-! ## Ways past a type -/

/-- Whether a way leads from a type up to another one past all types that have the name of `u`. -/
def LeadsPast (table : TypeTable) (u t a : TypeRef) : Prop :=
  t.erasure? ≠ u.erasure? ∧
    Relation.ReflTransGen (fun s v => v ∈ table.supertypes s ∧ v.erasure? ≠ u.erasure?) t a

/-- Ways past a type lead to all types that the walk comes to before it. -/
theorem leadsPast_of_closure_eq_append {name : String} {args earlier later : List TypeRef}
    {u : TypeRef}
    (h : TypeRef.declared name args :: table.closure (.declared name args) = earlier ++ u :: later) :
    ∀ a ∈ earlier, table.LeadsPast u (.declared name args) a := by
  have hpairwise := table.pairwise_closure name args
  rw [h] at hpairwise
  have hother : ∀ a ∈ earlier, a.erasure? ≠ u.erasure? := fun a ha =>
    (List.pairwise_append.mp hpairwise).2.2 a ha u (.head _)
  cases earlier with
  | nil => exact fun a ha => by cases ha
  | cons root earlier =>
    obtain ⟨rfl, -⟩ := List.cons.inj h
    have hways : ∀ a ∈ _ :: earlier, Relation.ReflTransGen
        (fun s v => v ∈ table.supertypes s ∧ v.erasure? ≠ u.erasure?) _ a :=
      forall_mem_of_closure_eq_append h .refl fun s hway v hv hsup =>
        hway.tail ⟨hsup, hother v hv⟩
    exact fun a ha => ⟨hother _ (.head _), hways a ha⟩

/-! ## Declarations of a field -/

/-- The field of a name in the declaration of a type, the first if it has several. -/
def fieldIn? (table : TypeTable) (name : String) (t : TypeRef) : Option FieldDecl :=
  (t.erasure?.bind table.find?).bind fun d => d.fields.find? (·.name == name)

/-- Whether the declaration of a type has a field of a name. -/
def Declares (table : TypeTable) (t : TypeRef) (name : String) : Prop :=
  (table.fieldIn? name t).isSome

/-- Whether a type has the name of a proper supertype of another one. -/
def IsAbove (table : TypeTable) (a s : TypeRef) : Prop :=
  ∃ v ∈ table.closure s, v.erasure? = a.erasure?

theorem IsAbove.ne {a s : TypeRef} {name : String} (h : table.IsAbove a s)
    (hs : s.erasure? = some name) : a ≠ s := by
  rintro rfl
  obtain ⟨v, hv, hname⟩ := h
  cases a with
  | primitive | void | array | var => cases hs
  | declared other args =>
    exact (List.pairwise_cons.mp (table.pairwise_closure other args)).1 v hv hname.symm

end TypeTable

namespace Resolver

variable {r : Resolver} {t : TypeRef}

/-- The field that counts is that of the type that the walk comes to last. -/
theorem find?_lineage (name : String) :
    ((r.lineage t).flatMap (·.fields)).find? (·.name == name) =
      (t :: r.table.closure t).reverse.findSome? (r.table.fieldIn? name) := by
  rw [lineage, List.find?_flatMap, ← List.head?_filterMap, List.filterMap_filterMap,
    List.head?_filterMap, List.reverse_cons]
  rfl

/-- Where a property of a bean is taken from. -/
structure TakenFrom (r : Resolver) (t : TypeRef) (b : BeanField) (u : TypeRef) : Prop where
  /-- The property says what the field in the declaration of the type says. -/
  read : ∃ f, r.table.fieldIn? b.name u = some f ∧ r.beanField f = b
  /-- No type to which the walk comes later declares the field. -/
  last : ∃ earlier later, t :: r.table.closure t = earlier ++ u :: later ∧
    ∀ a ∈ later, ¬r.table.Declares a b.name
  /-- Past the type, ways lead to all others that declare the field. -/
  past : ∀ a ∈ t :: r.table.closure t, r.table.Declares a b.name → a ≠ u →
    r.table.LeadsPast u t a

/-- Whether a property is taken from a declaration above which the hierarchy of the bean has no
other declaration of the field. -/
def FromTopmost (r : Resolver) (t : TypeRef) (b : BeanField) : Prop :=
  ∃ u ∈ t :: r.table.closure t, (∃ f, r.table.fieldIn? b.name u = some f ∧ r.beanField f = b) ∧
    ∀ a ∈ t :: r.table.closure t, r.table.Declares a b.name → ¬r.table.IsAbove a u

/-- Whether ways lead to the ancestors that declare a field only through those of their descendants
that declare it too. -/
def OnlyThroughDescendants (r : Resolver) (t : TypeRef) (field : String) : Prop :=
  ∀ s ∈ t :: r.table.closure t, ∀ a ∈ t :: r.table.closure t, r.table.Declares s field →
    r.table.Declares a field → r.table.IsAbove a s → ¬r.table.LeadsPast s t a

theorem TakenFrom.mem {b : BeanField} {u : TypeRef} (h : r.TakenFrom t b u) :
    u ∈ t :: r.table.closure t := by
  obtain ⟨earlier, later, happend, -⟩ := h.last
  rw [happend]
  exact List.mem_append_right _ (.head _)

theorem TakenFrom.fromTopmost {b : BeanField} {u : TypeRef} (h : r.TakenFrom t b u)
    (honly : r.OnlyThroughDescendants t b.name) : r.FromTopmost t b := by
  refine ⟨u, h.mem, h.read, fun a ha hdeclares habove => ?_⟩
  obtain ⟨f, hf, -⟩ := h.read
  obtain ⟨d, hd, -⟩ := Option.bind_eq_some_iff.mp hf
  obtain ⟨name, hname, -⟩ := Option.bind_eq_some_iff.mp hd
  have hu : r.table.Declares u b.name := Option.isSome_of_eq_some hf
  exact honly u h.mem a ha hu hdeclares habove (h.past a ha hdeclares (habove.ne hname))

theorem exists_takenFrom {name : String} {args : List TypeRef} {b : BeanField}
    (hb : b ∈ r.beanFields (r.lineage (.declared name args))) :
    ∃ u, r.TakenFrom (.declared name args) b u := by
  obtain ⟨f, hf, -, rfl⟩ := mem_beanFields.mp hb
  have hfind := mem_firstsBy.mp hf
  rw [find?_lineage] at hfind
  obtain ⟨later, u, earlier, hsplit, hread, hnone⟩ := List.findSome?_eq_some_iff.mp hfind
  have happend : TypeRef.declared name args :: r.table.closure (.declared name args) =
      earlier.reverse ++ u :: later.reverse := by
    rw [← List.reverse_inj, hsplit]
    simp
  have hlater : ∀ a ∈ later.reverse, ¬r.table.Declares a f.name := by
    intro a ha hdeclares
    rw [TypeTable.Declares, hnone a (List.mem_reverse.mp ha)] at hdeclares
    cases hdeclares
  refine ⟨u, ⟨f, hread, rfl⟩, ⟨_, _, happend, hlater⟩, fun a ha hdeclares hne => ?_⟩
  rw [happend, List.mem_append, List.mem_cons] at ha
  rcases ha with hearlier | rfl | ha
  · exact TypeTable.leadsPast_of_closure_eq_append happend a hearlier
  · exact absurd rfl hne
  · exact absurd hdeclares (hlater a ha)

end Resolver

/-- **Which declaration of a field counts.** Where a type resolves to a bean, every property is
taken from the declaration that the walk over the hierarchy comes to last, and past that type ways
lead to all others that declare the field. So the ancestor's declaration counts, wherever ways lead
to declaring ancestors only through the descendants that declare the field too. -/
theorem resolve_bean_precedence {r : Resolver} {owner type : TypeRef} {name : String}
    {fields : List BeanField} (h : r.resolve owner type = .ok (.bean name fields)) :
    ∃ args, r.StandsFor owner type (.declared name args) ∧ ∀ b ∈ fields,
      (∃ u, r.TakenFrom (.declared name args) b u) ∧
      (r.OnlyThroughDescendants (.declared name args) b.name →
        r.FromTopmost (.declared name args) b) := by
  obtain ⟨args, hstands, rfl⟩ := Resolver.standsFor_of_resolveAt h
  refine ⟨args, hstands, fun b hb => ?_⟩
  obtain ⟨u, hu⟩ := Resolver.exists_takenFrom hb
  exact ⟨⟨u, hu⟩, hu.fromTopmost⟩

/-- The address of a page is the resource's, though the page declares the field as well. -/
theorem resolve_bean_precedence_page :
    libraryResolver.resolve (.simple "PageMapper") (.simple "Page") =
        .ok (.bean "Page" [⟨"URL", "url", true⟩, ⟨"title", "title", false⟩]) ∧
      libraryResolver.FromTopmost (.simple "Page") ⟨"URL", "url", true⟩ := by
  have hresolve := resolve_page (.simple "PageMapper")
  have honly : libraryResolver.OnlyThroughDescendants (.simple "Page") "URL" := by
    intro s hs a _ hdeclares _ habove hpast
    rw [closure_page] at hs
    simp only [List.mem_cons, List.not_mem_nil, or_false] at hs
    rcases hs with rfl | rfl | rfl | rfl
    · exact hpast.1 rfl
    · obtain ⟨v, hv, -⟩ := habove
      rw [show libraryResolver.table.closure (.simple "Resource") = [] by cbv] at hv
      cases hv
    · revert hdeclares
      unfold TypeTable.Declares
      decide
    · revert hdeclares
      unfold TypeTable.Declares
      decide
  obtain ⟨args, hstands, hfields⟩ := resolve_bean_precedence hresolve
  cases hstands
  exact ⟨hresolve, (hfields _ (.head _)).2 honly⟩

/-! ## A diamond -/

namespace TypeTable

/-- Whether no way leads from a declaration back to itself. -/
def Acyclic (table : TypeTable) : Prop :=
  ∀ name links, table.Ascends name links name → links = []

/-- A table is acyclic if every supertype has a smaller number than the declaration. -/
theorem acyclic_of_rank {table : TypeTable} (rank : String → Nat)
    (h : ∀ d ∈ table.decls, ∀ s ∈ d.supertypes, ∀ name ∈ s.erasure?, rank name < rank d.name) :
    table.Acyclic := by
  have hsup : ∀ name next args, .declared next args ∈ table.declaredSupertypes name →
      rank next < rank name := by
    intro name next args hmem
    unfold declaredSupertypes at hmem
    cases hfind : table.find? name with
    | none =>
      rw [hfind] at hmem
      cases hmem
    | some d =>
      rw [hfind] at hmem
      obtain ⟨hd, rfl⟩ := find?_mem hfind
      exact h d hd _ hmem next rfl
  have hway : ∀ name links target, table.Ascends name links target →
      rank target ≤ rank name ∧ (links ≠ [] → rank target < rank name) := by
    intro name links target hascends
    induction hascends with
    | here => exact ⟨Nat.le_refl _, fun h => absurd rfl h⟩
    | step declares _ ih =>
      have hlt := Nat.lt_of_le_of_lt ih.1 (hsup _ _ _ declares)
      exact ⟨Nat.le_of_lt hlt, fun _ => hlt⟩
  intro name links hascends
  by_contra hne
  exact Nat.lt_irrefl _ ((hway name links name hascends).2 hne)

end TypeTable

/-- A hierarchy in which two ways lead from a note up to what is audited: one through its class and
one through what is stored, which declares the number again. -/
def notes : TypeTable := TypeTable.empty.insertAll [
  { name := "Audited", kind := .interfaceType
    fields := [{ name := "id", type := .primitive "long", column := some "audit_id" }] },
  { name := "Stored", kind := .interfaceType, interfaces := [.simple "Audited"]
    fields := [{ name := "id", type := .primitive "long", column := some "store_id" }] },
  { name := "Entity", interfaces := [.simple "Audited"] },
  { name := "Note", superclass := some (.simple "Entity"), interfaces := [.simple "Stored"]
    methods := [
      { name := "getId", returns := .primitive "long" },
      { name := "setId", params := [{ name := "id", type := .primitive "long" }] }] }]

/-- The resolver of the notes. -/
def noteResolver : Resolver where
  table := notes
  naming := id

/-- **A descendant's declaration may count.** The walk comes to what is audited by the way through
the class, and only later to what is stored; so the number of a note has the column of the latter,
although the former is above it. -/
theorem descendant_wins_in_diamond :
    notes.Acyclic ∧
      noteResolver.resolve (.simple "NoteMapper") (.simple "Note") =
        .ok (.bean "Note" [⟨"id", "store_id", false⟩]) ∧
      notes.Declares (.simple "Stored") "id" ∧ notes.Declares (.simple "Audited") "id" ∧
      notes.IsAbove (.simple "Audited") (.simple "Stored") ∧
      ¬noteResolver.FromTopmost (.simple "Note") ⟨"id", "store_id", false⟩ := by
  have hclosure : noteResolver.table.closure (.simple "Note") =
      [.simple "Entity", .simple "Audited", .simple "Stored"] := by
    cbv
  have hstored : notes.closure (.simple "Stored") = [.simple "Audited"] := by
    cbv
  have habove : notes.IsAbove (.simple "Audited") (.simple "Stored") := by
    rw [TypeTable.IsAbove, hstored]
    exact ⟨_, .head _, rfl⟩
  have hacyclic : notes.Acyclic := by
    refine TypeTable.acyclic_of_rank ["Audited", "Stored", "Entity", "Note"].idxOf ?_
    decide
  have haudited : notes.Declares (.simple "Audited") "id" := by
    unfold TypeTable.Declares
    decide
  refine ⟨hacyclic, ?_, ?_, haudited, habove, ?_⟩
  · refine resolve_of_closure _ hclosure ?_ ?_ ?_ ?_ _ <;> decide
  · unfold TypeTable.Declares
    decide
  · rintro ⟨u, hu, ⟨f, hf, hread⟩, htopmost⟩
    have hbelow : u = .simple "Stored" := by
      rw [hclosure] at hu
      simp only [List.mem_cons, List.not_mem_nil, or_false] at hu
      rcases hu with rfl | rfl | rfl | rfl
      · cases hf
      · cases hf
      · cases hf
        exact absurd (congrArg BeanField.column hread) (by decide)
      · rfl
    subst hbelow
    have hmem : .simple "Audited" ∈
        TypeRef.simple "Note" :: noteResolver.table.closure (.simple "Note") := by
      rw [hclosure]
      exact .tail _ (.tail _ (.head _))
    exact htopmost _ hmem haudited habove

end DerivedQuery.Types
