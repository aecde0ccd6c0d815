import DerivedQuery.Proofs.Firsts
import DerivedQuery.Proofs.Types.Inheritance

/-!
# The methods that are candidates

The walk over the hierarchy of a mapper lists the declarations to which a way leads up from the
mapper, and no others (`mem_hierarchy`). A candidate is a method of one of them that no earlier
method of the same declaration repeats and that is left to be derived (`mem_candidates`): every
declaration is looked at by itself, so what one of them says of a method does not count for another
one of the same name.
-/

namespace DerivedQuery

open DerivedQuery.Types

namespace Types.TypeTable

variable {table : TypeTable} {mapper : String}

/-- Whether a declaration is known to which a way leads up from a mapper. -/
def Reaches (table : TypeTable) (mapper : String) (d : TypeDecl) : Prop :=
  table.find? d.name = some d ∧ ∃ links, table.Ascends mapper links d.name

theorem mem_enterSupertypes {v : Visit} {d : TypeDecl} :
    v ∈ enterSupertypes d ↔ ∃ next args, .declared next args ∈ d.supertypes ∧ v = .enter next := by
  simp only [enterSupertypes, List.mem_map, List.mem_filterMap]
  constructor
  · rintro ⟨next, ⟨t, ht, herasure⟩, rfl⟩
    cases t with
    | declared name args =>
      cases herasure
      exact ⟨_, _, ht, rfl⟩
    | primitive | void | array | var => cases herasure
  · rintro ⟨next, args, ht, rfl⟩
    exact ⟨next, ⟨_, ht, rfl⟩, rfl⟩

/-! ## Nothing else is listed -/

/-- Whether a visit is one of a name or of a declaration that a way leads to. -/
def Leads (table : TypeTable) (mapper : String) : Visit → Prop
  | .enter name => ∃ links, table.Ascends mapper links name
  | .leave d => table.Reaches mapper d

theorem reaches_of_mem_visitAll (met : List String) (visits : List Visit)
    (h : ∀ v ∈ visits, table.Leads mapper v) :
    ∀ d ∈ table.visitAll met visits, table.Reaches mapper d := by
  fun_induction table.visitAll met visits with
  | case1 => exact fun d hd => by cases hd
  | case2 met d rest ih =>
    obtain ⟨hd, hrest⟩ := List.forall_mem_cons.mp h
    exact List.forall_mem_cons.mpr ⟨hd, ih hrest⟩
  | case3 met name rest hmet ih | case4 met name rest hmet hfind ih =>
    exact ih (List.forall_mem_cons.mp h).2
  | case5 met name rest hmet d hfind ih =>
    obtain ⟨⟨links, hway⟩, hrest⟩ := List.forall_mem_cons.mp h
    obtain ⟨-, rfl⟩ := find?_mem hfind
    refine ih fun v hv => ?_
    rcases List.mem_append.mp hv with hsup | hrest'
    · obtain ⟨next, args, ht, rfl⟩ := mem_enterSupertypes.mp hsup
      exact ⟨_, hway.concat (by rw [declaredSupertypes, hfind]; exact ht)⟩
    · rcases List.mem_cons.mp hrest' with rfl | hv
      · exact ⟨hfind, _, hway⟩
      · exact hrest v hv

/-! ## Everything is listed -/

/-- Whether a name has been met or its declaration is listed, if it has one. -/
def Settled (table : TypeTable) (met : List String) (listed : List TypeDecl) (name : String) :
    Prop :=
  name ∈ met ∨ ∀ d, table.find? name = some d → d ∈ listed

variable {met : List String} {listed : List TypeDecl} {name other : String}

theorem Settled.of_cons (h : table.Settled (name :: met) listed other)
    (hname : ∀ d, table.find? name = some d → d ∈ listed) : table.Settled met listed other := by
  rcases h with hmem | hlisted
  · rcases List.mem_cons.mp hmem with rfl | hmet
    · exact .inr hname
    · exact .inl hmet
  · exact .inr hlisted

theorem Settled.cons (h : table.Settled met listed name) (d : TypeDecl) :
    table.Settled met (d :: listed) name :=
  h.imp_right fun hlisted other hfind => .tail _ (hlisted other hfind)

/-- What a walk does about its visits, if some names have been met. -/
structure Settles (table : TypeTable) (met : List String) (visits : List Visit)
    (listed : List TypeDecl) : Prop where
  enter : ∀ name, .enter name ∈ visits → table.Settled met listed name
  leave : ∀ d, .leave d ∈ visits → d ∈ listed
  /-- The walk enters the supertypes of what it lists, if it did not just have to leave it. -/
  supertypes : ∀ d ∈ listed, .leave d ∈ visits ∨
    ∀ next args, .declared next args ∈ d.supertypes → table.Settled met listed next

theorem settles_visitAll (table : TypeTable) (met : List String) (visits : List Visit) :
    table.Settles met visits (table.visitAll met visits) := by
  fun_induction table.visitAll met visits with
  | case1 =>
    refine ⟨fun name h => ?_, fun d h => ?_, fun d h => ?_⟩ <;> cases h
  | case2 met d rest ih =>
    refine ⟨fun name h => ?_, fun other h => ?_, List.forall_mem_cons.mpr ⟨.inl (.head _), ?_⟩⟩
    · exact (ih.enter name (List.mem_of_ne_of_mem (by simp) h)).cons d
    · rcases List.mem_cons.mp h with heq | h
      · cases heq
        exact .head _
      · exact .tail _ (ih.leave other h)
    · exact fun other h => (ih.supertypes other h).imp (.tail _) fun hsup next args ht =>
        (hsup next args ht).cons d
  | case3 met name rest hmet ih =>
    refine ⟨fun other h => ?_, fun d h => ih.leave d (List.mem_of_ne_of_mem (by simp) h), ?_⟩
    · rcases List.mem_cons.mp h with heq | h
      · cases heq
        exact .inl (List.contains_iff_mem.mp hmet)
      · exact ih.enter other h
    · exact fun d h => (ih.supertypes d h).imp_left (.tail _)
  | case4 met name rest hmet hfind ih =>
    have hname : ∀ d, table.find? name = some d → d ∈ table.visitAll (name :: met) rest := by
      intro d hd
      rw [hfind] at hd
      cases hd
    refine ⟨fun other h => ?_, fun d h => ih.leave d (List.mem_of_ne_of_mem (by simp) h), ?_⟩
    · rcases List.mem_cons.mp h with heq | h
      · cases heq
        exact .inr hname
      · exact (ih.enter other h).of_cons hname
    · exact fun d h => (ih.supertypes d h).imp (.tail _) fun hsup next args ht =>
        (hsup next args ht).of_cons hname
  | case5 met name rest hmet d hfind ih =>
    have hd := ih.leave d (List.mem_append_right _ (.head _))
    have hname : ∀ other, table.find? name = some other →
        other ∈ table.visitAll (name :: met) (enterSupertypes d ++ .leave d :: rest) := by
      intro other hother
      rw [hfind] at hother
      cases hother
      exact hd
    refine ⟨fun other h => ?_, fun other h => ?_, fun other h => ?_⟩
    · rcases List.mem_cons.mp h with heq | h
      · cases heq
        exact .inr hname
      · exact (ih.enter other (List.mem_append_right _ (.tail _ h))).of_cons hname
    · exact ih.leave other (List.mem_append_right _ (.tail _ (List.mem_of_ne_of_mem (by simp) h)))
    · rcases ih.supertypes other h with hleave | hsup
      · rcases List.mem_append.mp hleave with henter | hleave
        · obtain ⟨_, _, _, heq⟩ := mem_enterSupertypes.mp henter
          cases heq
        · rcases List.mem_cons.mp hleave with heq | hleave
          · -- the supertypes of what is left have just been put in front
            cases heq
            refine .inr fun next args ht => (ih.enter next ?_).of_cons hname
            exact List.mem_append_left _ (mem_enterSupertypes.mpr ⟨next, args, ht, rfl⟩)
          · exact .inl (.tail _ hleave)
      · exact .inr fun next args ht => (hsup next args ht).of_cons hname

/-- **The hierarchy of a mapper** consists of the declarations to which a way leads up from it. -/
theorem mem_hierarchy {d : TypeDecl} : d ∈ table.hierarchy mapper ↔ table.Reaches mapper d := by
  constructor
  · refine reaches_of_mem_visitAll [] _ (fun v hv => ?_) d
    obtain rfl := List.mem_singleton.mp hv
    exact ⟨[], .here mapper⟩
  · rintro ⟨hfind, links, hway⟩
    have hsettles := table.settles_visitAll [] [.enter mapper]
    have hstep : ∀ name next args, .declared next args ∈ table.declaredSupertypes name →
        table.Settled [] (table.hierarchy mapper) name →
        table.Settled [] (table.hierarchy mapper) next := by
      intro name next args declares hsettled
      unfold declaredSupertypes at declares
      cases hname : table.find? name with
      | none =>
        rw [hname] at declares
        cases declares
      | some d =>
        rw [hname] at declares
        have hd := hsettled.resolve_left List.not_mem_nil d hname
        rcases hsettles.supertypes d hd with hleave | hsup
        · cases List.mem_singleton.mp hleave
        · exact hsup next args declares
    have hall : ∀ name links target, table.Ascends name links target →
        table.Settled [] (table.hierarchy mapper) name →
        table.Settled [] (table.hierarchy mapper) target := by
      intro name links target hway hsettled
      induction hway with
      | here => exact hsettled
      | step declares _ ih => exact ih (hstep _ _ _ declares hsettled)
    have hd := hall mapper links d.name hway (hsettles.enter mapper (.head _))
    exact hd.resolve_left List.not_mem_nil d hfind

end Types.TypeTable

/-! ## Candidates -/

/-- Whether a method is left to be derived where it is declared: the declaration, which is not the
root class, is the first with the name and the parameter types there, and it says neither how the
method is carried out nor what its statement is. -/
structure OpenIn (d : TypeDecl) (decl : MethodDecl) : Prop where
  root : d.name ≠ "java.lang.Object"
  first : ∃ earlier later, d.methods = earlier ++ decl :: later ∧
    ∀ other ∈ earlier, (other.name, other.signature) ≠ (decl.name, decl.signature)
  notStatic : decl.isStatic = false
  notDefault : decl.isDefault = false
  notNative : decl.isNative = false
  unmapped : decl.statement = none

theorem mem_candidatesOf {d : TypeDecl} {c : Candidate} :
    c ∈ candidatesOf d ↔ c.declaringType = d.name ∧ OpenIn d c.method := by
  unfold candidatesOf
  split
  next hroot => exact iff_of_false List.not_mem_nil fun h => h.2.root hroot
  next hroot =>
    rw [distinctMethods_eq]
    simp only [List.mem_map, List.mem_filter, mem_firstsBy_iff_append, isDerivable,
      Bool.and_eq_true, Bool.not_eq_true', Option.isNone_iff_eq_none]
    constructor
    · rintro ⟨decl, ⟨hfirst, ⟨⟨hstatic, hdefault⟩, hnative⟩, hstatement⟩, rfl⟩
      exact ⟨rfl, hroot, hfirst, hstatic, hdefault, hnative, hstatement⟩
    · rintro ⟨hname, -, hfirst, hstatic, hdefault, hnative, hstatement⟩
      exact ⟨c.method, ⟨hfirst, ⟨⟨hstatic, hdefault⟩, hnative⟩, hstatement⟩, by rw [← hname]⟩

/-- **The candidates of a mapper** are the open methods of its hierarchy. -/
theorem mem_candidates {table : TypeTable} {mapper : String} {c : Candidate} :
    c ∈ candidates table mapper ↔
      ∃ d, table.Reaches mapper d ∧ c.declaringType = d.name ∧ OpenIn d c.method := by
  simp only [candidates, List.mem_flatMap, TypeTable.mem_hierarchy, mem_candidatesOf]

end DerivedQuery
