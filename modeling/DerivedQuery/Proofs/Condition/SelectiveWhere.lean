import DerivedQuery.Proofs.Condition.Conditional

/-!
# The condition of a statement with selective parts

A predicate with selective parts becomes one trimmed part with all the others nested in it.
`whereBody_prunes` says what that comes out as, whatever values are there: the groups of the
predicate without the parts that drop out, behind `WHERE`, or nothing if no condition survives.
-/

namespace DerivedQuery

open Expression

namespace Runtime

variable {rt : Runtime} {column : PropertyPath → String}

/-- A clause on its own comes out as what is left of it, without parentheses around all of it. -/
theorem words_conditionalTop {names : List String} (hdec : rt.Decides names) {c : Clause}
    (hnames : ∀ n ∈ c.operands, n ∈ names) (hatoms : ∀ x ∈ c.comparisons, rt.Opaque column x) :
    unled (blankWords (rt.flat (c.conditionalTop column))) =
        ((c.prune rt.present).elim [] fun e => rt.words column e.topSymbols) ∧
      (blankWords (rt.flat (c.conditionalTop column)) = [] ↔ c.prune rt.present = none) := by
  cases c with
  | leaf condition operands selective =>
    have hwords := words_conditional hdec (.leaf condition operands selective) hnames hatoms none
    rw [Clause.conditionalTop.eq_def]
    show unled (blankWords (rt.flat (Clause.conditional column none _))) = _ ∧
      (blankWords (rt.flat (Clause.conditional column none _)) = [] ↔ _)
    rw [hwords]
    cases hp : (Clause.leaf condition operands selective).prune rt.present with
    | none => exact ⟨rfl, by simp⟩
    | some e =>
      have he : ∀ x ∈ e.leaves, rt.Opaque column x := fun x hx =>
        hatoms x (Clause.mem_comparisons_of_mem_leaves hp hx)
      obtain ⟨word, others, hfirst, hand, hor⟩ := exists_first_word he
      have htop : e.topSymbols = e.symbols := by
        rw [Clause.prune] at hp
        split at hp
        · cases hp
        · cases hp
          rfl
      simp [leadWords, htop, hfirst, unled_of_ne _ hand hor]
  | group op selective children =>
    have hoperands : ∀ n ∈ operandsAll children, n ∈ names := hnames
    obtain ⟨-, hjoined, hnone⟩ := words_conditionalAll hdec children hnames hatoms op
    rw [Clause.conditionalTop, blankWords_guarded hdec selective hoperands, Clause.prune]
    split
    · exact ⟨rfl, by simp⟩
    · rw [hjoined, hnone]
      cases Clause.pruneAll rt.present children with
      | nil => exact ⟨rfl, by simp⟩
      | cons e es => exact ⟨rfl, by simp⟩

/-- A trimmed part on its own comes out as what its rule makes of the text inside. -/
theorem text_trim (rule : TrimRule) (body : Body) :
    rt.text [.trim rule body] = rule.apply (rt.text body) := by
  show [' '].intercalate (Output.add {} (rule.apply (rt.text body))).flushed = _
  unfold Output.add Output.flushed
  split
  · next h => exact (List.isEmpty_iff.mp h).symm
  · simp

end Runtime

/-- The rule of the trimmed part: `WHERE` in front, no connective behind it. -/
def whereRule : TrimRule := ⟨"WHERE", "", Clause.connectiveOverrides, []⟩

/-- A text behind `WHERE`, without the connective it starts with; nothing for a blank text. -/
theorem apply_whereRule (t : List Char) :
    (whereRule.apply t = [] ↔ blankWords t = []) ∧
      (blankWords t ≠ [] →
        ∃ u, whereRule.apply t = "WHERE ".toList ++ u ∧ blankWords u = unled (blankWords t)) := by
  have happly : whereRule.apply t =
      if trimBlanks t = [] then []
      else "WHERE ".toList ++ stripFirst Clause.connectiveOverrides (trimBlanks t) := by
    unfold TrimRule.apply
    simp only [List.isEmpty_iff]
    split
    · rfl
    · rw [enclose, whereRule, stripLast, List.find?_nil, if_neg (by decide), if_pos (by decide),
        List.append_nil]
      rfl
  rw [happly]
  split
  case isTrue h =>
    rw [trimBlanks_eq_nil_iff] at h
    exact ⟨iff_of_true rfl h, fun hne => absurd h hne⟩
  case isFalse h =>
    refine ⟨?_, fun _ => ⟨_, rfl, blankWords_stripFirst t⟩⟩
    rw [← trimBlanks_eq_nil_iff]
    exact iff_of_false (by simp) h

/-- **Selective parts drop out and nothing else changes.** With one list of operands for each
condition, the condition of a statement is one trimmed part. It comes out empty if no condition
survives. Otherwise `WHERE` stands in front of a text whose words are those of a well-formed
expression, and a database reads that expression as the groups of the predicate without the parts
that drop out: the selective ones that have operands of which one is missing. -/
theorem whereBody_prunes {rt : Runtime} {column : PropertyPath → String} {p : Predicate}
    {operands : List (List String)} (hselective : p.hasSelective = true)
    (hlength : operands.length = p.conditions.length) (hdec : rt.Decides operands.flatten)
    (hatoms : ∀ c ∈ List.zipWith Comparison.mk p.conditions operands, rt.Opaque column c) :
    ∃ rule body, whereBody column p operands = [.text " ", .trim rule body] ∧
      (p.assigned operands).shape = p.groups ∧
      (p.assigned operands).comparisons = List.zipWith Comparison.mk p.conditions operands ∧
      (rt.text [.trim rule body] = [] ↔ (p.assigned operands).survivors rt.present = []) ∧
      ((p.assigned operands).survivors rt.present ≠ [] →
        ∃ e t, (p.assigned operands).prune rt.present = some e ∧
          e.leaves = (p.assigned operands).survivors rt.present ∧
          rt.text [.trim rule body] = "WHERE ".toList ++ t ∧
          blankWords t = rt.words column e.topSymbols ∧
          WellFormed e.topSymbols ∧ read e.topSymbols = some e.simplified) := by
  have hcomparisons := comparisons_assigned hlength
  -- the tests in the clause are about the operands handed to it, which are decided
  have hnames : ∀ n ∈ (p.assigned operands).operands, n ∈ operands.flatten := by
    intro n hn
    rw [Clause.operands_eq_flatMap, hcomparisons] at hn
    obtain ⟨c, hc, hnc⟩ := List.mem_flatMap.mp hn
    obtain ⟨i, hi, rfl⟩ := List.mem_iff_getElem.mp hc
    rw [List.getElem_zipWith] at hnc
    exact List.mem_flatten.mpr ⟨_, List.getElem_mem _, hnc⟩
  obtain ⟨hwords, hempty⟩ := Runtime.words_conditionalTop hdec hnames (hcomparisons ▸ hatoms)
  have hfull : FullAll ((p.assigned operands).prune rt.present).toList := Clause.full_prune _
  obtain ⟨hleaves, hnone⟩ :
      leavesAll ((p.assigned operands).prune rt.present).toList =
          (p.assigned operands).survivors rt.present ∧
        ((p.assigned operands).survivors rt.present = [] →
          (p.assigned operands).prune rt.present = none) := Clause.leaves_prune _
  obtain ⟨happly, hstrip⟩ :=
    apply_whereRule (rt.text ((p.assigned operands).conditionalTop column))
  rw [Runtime.blankWords_text, hempty] at happly
  rw [Runtime.blankWords_text] at hstrip
  refine ⟨whereRule, (p.assigned operands).conditionalTop column, ?_, shape_assigned p operands,
    hcomparisons, ?_, ?_⟩
  · unfold whereBody
    rw [if_pos hselective]
    rfl
  · rw [Runtime.text_trim, happly]
    refine ⟨fun h => ?_, hnone⟩
    rw [← hleaves, h]
    rfl
  · intro hsurvivors
    cases hp : (p.assigned operands).prune rt.present with
    | none =>
      rw [hp] at hleaves
      exact absurd hleaves.symm hsurvivors
    | some e =>
      rw [hp] at hleaves hfull hempty hwords
      -- something survives, so the text behind `WHERE` is what the clause comes out as
      obtain ⟨t, htext, ht⟩ := hstrip (by rw [Ne, hempty]; simp)
      have hread := read_topSymbols hfull.1
      refine ⟨e, t, rfl, ?_, ?_, ?_, wellFormed_of_read hread, hread⟩
      · simpa [leavesAll] using hleaves
      · rw [Runtime.text_trim, htext]
      · rw [ht, hwords]
        rfl

/-- `a` and `b` as far as both are there, or `d` between two values together with `c` as far as
that is there. -/
def alternativesWithSelectiveParts : Predicate :=
  let named (name : String) : Predicate := .condition ⟨⟨[name]⟩, .equal⟩
  .binary .or (.selective (.binary .and (named "a") (named "b")))
    (.binary .and (.selective (named "c")) (.condition ⟨⟨["d"]⟩, .between⟩))

/-- Without a `b` and a `c`, the first alternative is gone, and the second one has lost the part
that its connective stood behind. -/
theorem whereBody_prunes_two_values :
    let operands := [["a"], ["b"], ["c"], ["low", "high"]]
    let rt := Runtime.ofPresent (fun name => name != "b" && name != "c") fun _ _ => []
    alternativesWithSelectiveParts.hasSelective = true ∧
      operands.length = alternativesWithSelectiveParts.conditions.length ∧
      rt.Decides operands.flatten ∧
      (∀ c ∈ List.zipWith Comparison.mk alternativesWithSelectiveParts.conditions operands,
        rt.Opaque PropertyPath.dotted c) ∧
      ∃ rule body t, whereBody PropertyPath.dotted alternativesWithSelectiveParts operands =
          [.text " ", .trim rule body] ∧
        rt.text [.trim rule body] = "WHERE ".toList ++ t ∧
        blankWords t = blankWords "( d BETWEEN #{low} AND #{high} )".toList := by
  intro operands rt
  have hdec : rt.Decides operands.flatten := Runtime.decides_ofPresent _ _ (by decide)
  have hatoms : ∀ c ∈ List.zipWith Comparison.mk alternativesWithSelectiveParts.conditions operands,
      rt.Opaque PropertyPath.dotted c := by
    unfold Runtime.Opaque
    decide
  obtain ⟨rule, body, hbody, -, -, -, hsome⟩ :=
    whereBody_prunes (p := alternativesWithSelectiveParts) rfl rfl hdec hatoms
  obtain ⟨e, t, he, -, htext, hwords, -⟩ := hsome (by decide)
  refine ⟨rfl, rfl, hdec, hatoms, rule, body, t, hbody, htext, ?_⟩
  have hprune : (alternativesWithSelectiveParts.assigned operands).prune rt.present =
      some (.group .or [.group .and [.leaf ⟨⟨⟨["d"]⟩, .between⟩, ["low", "high"]⟩]]) := rfl
  rw [hprune] at he
  cases he
  rw [hwords]
  decide

end DerivedQuery
