import DerivedQuery.Proofs.Generation.Accounts
import DerivedQuery.Proofs.Method.Hierarchy

/-!
# Methods with a statement of their own

A run adds a statement under a name just in case the document has none and an open method of the
name can be derived and translated (`mem_added_iff`). A statement that was written for a method
closes the declaration that it is attached to and nothing else: of the same name, another type of
the hierarchy may declare an open method, and so may the same type, with other parameter types or
before the method (`mem_added_of_mapped`). Statements go by their names alone, so what is derived
then stands under the name of what was written by hand, even for a method that the mapper redeclares
with a statement (`tallies_added`).
-/

namespace DerivedQuery

open DerivedQuery.Types

section

variable {t : Translator} {known : IdSnapshot} {xs : List (Except SkippedMethod DerivedMethod)}

/-- After a run, the names of all methods are known for which there is a statement. -/
theorem contains_foldl_fates {derived : DerivedMethod} {s : Statement} (h : .ok derived ∈ xs)
    (hs : t.translate derived.query derived.method = .ok s) :
    ((fates t known xs).foldl IdSnapshot.after known).contains derived.method.name = true := by
  induction xs generalizing known with
  | nil => cases h
  | cons x xs ih =>
    rw [fates, List.foldl_cons]
    rcases List.mem_cons.mp h with rfl | h
    · refine IdSnapshot.contains_foldl_after.mpr (.inr ?_)
      rw [IdSnapshot.contains_after, Fate.of]
      by_cases hknown : known.contains derived.method.name = true
      · exact .inr hknown
      · refine .inl ⟨s, ?_, (Translator.translate_assembled hs).id⟩
        rw [if_neg hknown, hs]
    · exact ih h

/-- A statement of a name is added just in case the name is not known and a method of the name has a
statement. -/
theorem exists_added_iff {name : String} :
    (∃ s ∈ (fates t known xs).filterMap Fate.added?, s.id = name) ↔
      known.contains name = false ∧ ∃ derived, .ok derived ∈ xs ∧ derived.method.name = name ∧
        ∃ s, t.translate derived.query derived.method = .ok s := by
  constructor
  · rintro ⟨s, hs, rfl⟩
    obtain ⟨derived, hderived, htranslate⟩ := translate_of_mem_fates hs
    have hid := (Translator.translate_assembled htranslate).id
    exact ⟨added_fresh.2 s hs, derived, hderived, hid.symm, s, htranslate⟩
  · rintro ⟨hfresh, derived, hderived, rfl, s, hs⟩
    have hknown := @contains_foldl_fates t known xs derived s hderived hs
    rcases IdSnapshot.contains_foldl_after.mp hknown with ⟨s', hs', hid⟩ | hbefore
    · exact ⟨s', List.mem_filterMap.mpr ⟨_, hs', rfl⟩, hid⟩
    · rw [hfresh] at hbefore
      cases hbefore

end

/-! ## Explicit statements -/

section

variable {m : Manifest} {existing : Option Document} {r : Report}

/-- Whether a method can be derived and translated to a statement. -/
def Manifest.Provides (m : Manifest) (decl : MethodDecl) : Prop :=
  ∃ derived s, deriveMethod m.resolver (.simple m.mapper) decl = .ok derived ∧
    m.translator.translate derived.query derived.method = .ok s

/-- A run adds the names of the open methods that provide a statement, if the document has none. -/
theorem mem_added_iff {name : String} (h : m.generate existing = .ok r) : name ∈ r.added ↔
    name ∉ (existing.getD ⟨m.namespaceName, []⟩).statements.map (·.id) ∧
    ∃ d decl, m.typeTable.Reaches m.mapper d ∧ OpenIn d decl ∧ decl.name = name ∧
      m.Provides decl := by
  obtain ⟨-, -, rfl⟩ := Manifest.generate_eq_ok.mp h
  generalize existing.getD ⟨m.namespaceName, []⟩ = before
  rw [Manifest.progress_eq_extend, ← Document.contains_snapshot, Bool.not_eq_true]
  show name ∈ [] ++ ((fates _ _ _).filterMap Fate.added?).map (fun s => s.id) ↔ _
  rw [List.nil_append, List.mem_map, exists_added_iff]
  refine and_congr_right fun _ => ?_
  constructor
  · rintro ⟨derived, hmem, rfl, s, hs⟩
    obtain ⟨c, hc, hderive⟩ := List.mem_map.mp hmem
    obtain ⟨d, hreaches, -, hopen⟩ := mem_candidates.mp hc
    exact ⟨d, c.method, hreaches, hopen, (name_of_deriveMethod_ok hderive).symm, derived, s,
      hderive, hs⟩
  · rintro ⟨d, decl, hreaches, hopen, rfl, derived, s, hderive, hs⟩
    have hc : ⟨d.name, decl⟩ ∈ candidates m.typeTable m.mapper :=
      mem_candidates.mpr ⟨d, hreaches, rfl, hopen⟩
    exact ⟨derived, List.mem_map.mpr ⟨_, hc, hderive⟩, name_of_deriveMethod_ok hderive, s, hs⟩

/-- An open method of the type and the parameter types of a mapped one stands before it. -/
theorem OpenIn.sublist {d : TypeDecl} {decl mapped : MethodDecl} (h : OpenIn d decl)
    (hmem : mapped ∈ d.methods) (hstatement : mapped.statement.isSome = true)
    (hname : decl.name = mapped.name) (hsignature : decl.signature = mapped.signature) :
    [decl, mapped].Sublist d.methods := by
  obtain ⟨earlier, later, happend, hfirst⟩ := h.first
  have hne : mapped ≠ decl := by
    rintro rfl
    rw [h.unmapped] at hstatement
    cases hstatement
  rw [happend] at hmem ⊢
  rcases List.mem_append.mp hmem with hearlier | hlater
  · exact absurd (by rw [hname, hsignature]) (hfirst mapped hearlier)
  · have hmem := List.mem_of_ne_of_mem hne hlater
    exact (List.cons_sublist_cons.mpr (List.singleton_sublist.mpr hmem)).trans
      (List.sublist_append_right _ _)

/-- **What an explicit statement prevents.** A run adds a statement under the name of a method with
an explicit one just in case the document has none and some type of the hierarchy declares the
name again, in an open method that provides a statement: another type, or the same type with other
parameter types or before the method. -/
theorem mem_added_of_mapped (h : m.generate existing = .ok r) {d : TypeDecl} {mapped : MethodDecl}
    (hmem : mapped ∈ d.methods) (hstatement : mapped.statement.isSome = true) :
    mapped.name ∈ r.added ↔
      mapped.name ∉ (existing.getD ⟨m.namespaceName, []⟩).statements.map (·.id) ∧
      ∃ d' decl, m.typeTable.Reaches m.mapper d' ∧ OpenIn d' decl ∧ decl.name = mapped.name ∧
        m.Provides decl ∧
        (d' = d → decl.signature = mapped.signature → [decl, mapped].Sublist d.methods) := by
  rw [mem_added_iff h]
  refine and_congr_right fun _ => exists_congr fun d' => exists_congr fun decl => ?_
  refine and_congr_right fun _ => and_congr_right fun hopen => and_congr_right fun hname => ?_
  refine (and_iff_left ?_).symm
  rintro rfl hsignature
  exact hopen.sublist hmem hstatement hname hsignature

end

/-! ## A mapper with explicit statements -/

/-- A mapper that writes two statements by hand: for one of two methods of a name and for a method
that it redeclares. -/
def tallyMapper : TypeDecl where
  name := "TallyMapper"
  kind := .interfaceType
  interfaces := [.simple "Lookup"]
  methods := [
    { name := "count", returns := .primitive "long", statement := some "SELECT 42" },
    { name := "count", params := [{ name := "age", type := .primitive "int" }]
      returns := .primitive "int" },
    { name := "find", returns := .primitive "int", statement := some "SELECT 7" }]

/-- The manifest of the mapper. -/
def tallies : Manifest where
  mapper := "TallyMapper"
  settings := { table := some "tallies", platformTypes := false }
  types := [
    { name := "Lookup", kind := .interfaceType
      methods := [{ name := "find", returns := .primitive "int" }] },
    tallyMapper]

/-- The report of the mapper's run. -/
def talliesReport : Report where
  document := {
    namespaceName := "TallyMapper"
    statements := [
      { id := "find", kind := .select, resultType := some "int", generated := true
        body := [.text "SELECT * FROM tallies"] },
      { id := "count", kind := .select, parameterType := some "int", resultType := some "int"
        generated := true, body := [.text "SELECT COUNT(*) FROM tallies"] }] }
  added := ["find", "count"]

theorem generate_tallies : tallies.generate none = .ok talliesReport := by
  cbv

theorem reaches_tallyMapper : tallies.typeTable.Reaches "TallyMapper" tallyMapper :=
  ⟨by decide, [], .here _⟩

/-- The mapper overloads `count`, so an open method is behind the statement that is added. -/
theorem mem_added_of_mapped_count :
    tallies.generate none = .ok talliesReport ∧ "count" ∈ talliesReport.added ∧
      ∃ d decl, tallies.typeTable.Reaches "TallyMapper" d ∧ OpenIn d decl ∧ decl.name = "count" ∧
        tallies.Provides decl ∧ (d = tallyMapper → decl.signature = [] → [decl, {
          name := "count", returns := .primitive "long", statement := some "SELECT 42" }].Sublist
            tallyMapper.methods) := by
  have hadded : "count" ∈ talliesReport.added := by
    decide
  have hmem : { name := "count", returns := .primitive "long", statement := some "SELECT 42" } ∈
      tallyMapper.methods := .head _
  exact ⟨generate_tallies, hadded, ((mem_added_of_mapped generate_tallies hmem rfl).mp hadded).2⟩

/-- **A name with an explicit statement may be added.** Both names that the mapper has written a
statement for are added: the one as it is overloaded, the other as a type above the mapper declares
the method that the mapper redeclares. -/
theorem tallies_added :
    tallies.generate none = .ok talliesReport ∧
      tallies.typeTable.Reaches tallies.mapper tallyMapper ∧
      ∀ name ∈ ["count", "find"], name ∈ talliesReport.added ∧
        ∃ mapped ∈ tallyMapper.methods, mapped.name = name ∧ mapped.statement.isSome = true :=
  ⟨generate_tallies, reaches_tallyMapper, by decide⟩

end DerivedQuery
