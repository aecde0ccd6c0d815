import DerivedQuery.Proofs.Condition.SelectiveWhere
import DerivedQuery.Proofs.Statement.Nesting

/-!
# Lists with commas

The columns of a statement, its values and its assignments are lists with commas. A list that is
complete has a comma between each two items. A list that loses items at run time has a comma behind
every item, each item under a test of its own, and the rule around the list strips the last comma.
Both come out as the same kind of text, `CommaSeparated`, for the items that are there
(`commaSeparated_intercalate`, `Runtime.text_commaTrim`).
-/

namespace DerivedQuery

open Body

/-! ## Texts with commas between items -/

@[simp] theorem trimBlanks_blank_cons (t : List Char) : trimBlanks (' ' :: t) = trimBlanks t := rfl

@[simp] theorem trimBlanks_concat_blank (t : List Char) :
    trimBlanks (t ++ [' ']) = trimBlanks t := by
  unfold trimBlanks
  rw [List.dropWhile_append]
  split
  · next h =>
    rw [List.isEmpty_iff.mp h]
    rfl
  · exact List.rdropWhile_concat_pos _ _ _ rfl

@[simp] theorem trimBlanks_dropWhile (t : List Char) :
    trimBlanks (t.dropWhile (· == ' ')) = trimBlanks t := by
  rw [trimBlanks, List.dropWhile_idempotent, trimBlanks]

theorem mem_of_mem_trimBlanks {t : List Char} {c : Char} (h : c ∈ trimBlanks t) : c ∈ t :=
  (List.dropWhile_sublist _).subset ((List.rdropWhile_prefix _ _).sublist.subset h)

theorem mem_trimBlanks_of_mem {t : List Char} {c : Char} (h : c ∈ t) (hc : c ≠ ' ') :
    c ∈ trimBlanks t := by
  -- the text is blanks, what is left of it, and blanks again
  have hfront := List.takeWhile_append_dropWhile (p := (· == ' ')) (l := t)
  have hback := List.rdropWhile_append_rtakeWhile (p := (· == ' ')) (l := t.dropWhile (· == ' '))
  rw [← hfront, List.mem_append] at h
  rcases h with h | h
  · exact absurd (by simpa using List.mem_takeWhile_imp h) hc
  rw [← hback, List.mem_append] at h
  rcases h with h | h
  · exact h
  · exact absurd (by simpa using List.mem_rtakeWhile_imp h) hc

/-- Whether a text consists of items with a comma between each two of them, and none behind the
last one. Blanks around an item do not count. -/
inductive CommaSeparated : List Char → List (List Char) → Prop
  | last {text item : List Char} (h : trimBlanks text = trimBlanks item) :
    CommaSeparated text [item]
  | item {text item rest : List Char} {items : List (List Char)}
    (h : trimBlanks text = trimBlanks item) (others : CommaSeparated rest items) :
    CommaSeparated (text ++ ',' :: rest) (item :: items)

namespace CommaSeparated

variable {text : List Char} {items : List (List Char)}

theorem blank_cons (h : CommaSeparated text items) : CommaSeparated (' ' :: text) items := by
  cases h with
  | last h => exact .last ((trimBlanks_blank_cons _).trans h)
  | item h others => exact .item ((trimBlanks_blank_cons _).trans h) others

theorem concat_blank (h : CommaSeparated text items) : CommaSeparated (text ++ [' ']) items := by
  induction h with
  | last h => exact .last ((trimBlanks_concat_blank _).trans h)
  | item h others ih =>
    rw [List.append_assoc, List.cons_append]
    exact .item h ih

theorem dropWhile_blank (h : CommaSeparated text items) :
    CommaSeparated (text.dropWhile (· == ' ')) items := by
  cases h with
  | last h => exact .last ((trimBlanks_dropWhile _).trans h)
  | @item text item rest items h others =>
    have hcomma : (text ++ ',' :: rest).dropWhile (· == ' ') =
        text.dropWhile (· == ' ') ++ ',' :: rest := by
      rw [List.dropWhile_append]
      split
      · next h =>
        rw [List.isEmpty_iff.mp h]
        rfl
      · rfl
    rw [hcomma]
    exact .item ((trimBlanks_dropWhile _).trans h) others

/-- Items without commas are what stands between the commas of the text. -/
theorem map_splitOn (h : CommaSeparated text items) (hitems : ∀ item ∈ items, ',' ∉ item) :
    (text.splitOn ',').map trimBlanks = items.map trimBlanks := by
  have hpart : ∀ {text item : List Char}, trimBlanks text = trimBlanks item → ',' ∉ item →
      text.splitOn ',' = [text] := by
    intro text item h hitem
    refine List.splitOn_eq_singleton fun hmem => hitem ?_
    have htrimmed := mem_trimBlanks_of_mem hmem (by decide)
    rw [h] at htrimmed
    exact mem_of_mem_trimBlanks htrimmed
  induction h with
  | last h =>
    rw [hpart h (hitems _ List.mem_cons_self), List.map_singleton, List.map_singleton, h]
  | item h others ih =>
    obtain ⟨hitem, hothers⟩ := List.forall_mem_cons.mp hitems
    rw [List.splitOn_append_cons_self, hpart h hitem, List.map_append, List.map_singleton, h,
      ih hothers, List.map_cons]
    rfl

end CommaSeparated

/-- Items with commas and blanks between them. -/
theorem commaSeparated_intercalate (item : List Char) (items : List (List Char)) :
    CommaSeparated ([',', ' '].intercalate (item :: items)) (item :: items) := by
  induction items generalizing item with
  | nil =>
    rw [List.intercalate_singleton]
    exact .last rfl
  | cons next items ih =>
    rw [List.intercalate_cons_cons, List.append_assoc]
    exact .item rfl (ih next).blank_cons

/-- Whether a text consists of items with commas between them, behind an opening text and before a
closing one; without items it is empty. -/
inductive Listed (opening closing : String) : List Char → List (List Char) → Prop
  | nothing : Listed opening closing [] []
  | items {inner : List Char} {items : List (List Char)} (h : CommaSeparated inner items) :
    Listed opening closing (opening.toList ++ inner ++ closing.toList) items

/-- Items without commas are read back from between the opening and the closing text. -/
theorem Listed.exists_items {opening closing : String} {text : List Char} {items : List (List Char)}
    (h : Listed opening closing text items) (hne : items ≠ [])
    (hitems : ∀ item ∈ items, ',' ∉ item) :
    ∃ inner, text = opening.toList ++ inner ++ closing.toList ∧
      (inner.splitOn ',').map trimBlanks = items.map trimBlanks := by
  cases h with
  | nothing => exact absurd rfl hne
  | items h => exact ⟨_, rfl, h.map_splitOn hitems⟩

/-! ## Bodies without nesting -/

namespace Runtime

variable {rt : Runtime}

/-- A body without nesting is character data. -/
theorem emitAll_of_levels {body : Body} (h : levels body ≤ 1) (o : Output) :
    rt.emitAll o body = ⟨o.pieces, o.run ++ rt.flat body⟩ := by
  induction body generalizing o with
  | nil => simp [emitAll]
  | cons f body ih =>
    obtain ⟨hf, hbody⟩ := List.forall_mem_cons.mp (levels_le_iff.mp h)
    rw [emitAll, ih (levels_le_iff.mpr hbody), flat_cons, ← List.append_assoc]
    cases f with
    | text | param => rfl
    | when | trim | forEach =>
      rw [Fragment.levels] at hf
      omega

/-- A body without nesting comes out as it is written. -/
theorem text_of_levels {body : Body} (h : levels body ≤ 1) : rt.text body = rt.flat body := by
  rw [text, emitAll_of_levels h, Output.flushed]
  split
  · next hrun =>
    rw [List.nil_append] at hrun
    exact (List.isEmpty_iff.mp hrun).symm
  · rw [List.nil_append, List.nil_append, List.intercalate_singleton]

/-- Fragments with a text between each two of them. -/
theorem flat_separated (separator : String) (fs : List Fragment) :
    rt.flat (separated separator fs) = separator.toList.intercalate (fs.map rt.flatFragment) := by
  fun_induction separated separator fs with
  | case1 => rfl
  | case2 f => simp
  | case3 f rest hne ih =>
    obtain ⟨g, rest, rfl⟩ := List.exists_cons_of_ne_nil hne
    rw [flat_append, ih]
    simp [flatFragment]

/-! ## Parts under tests -/

/-- Whether the test for a value holds just where the value is there, for each of some names. -/
def TestsPresence (rt : Runtime) (names : List String) : Prop :=
  ∀ name ∈ names, rt.holds (isPresent name) = rt.present name

section Tested

variable {α : Type} {test : α → String} {part : α → Body} {item : α → List Char}

/-- Parts under tests come out one by one, each as a piece of its own. -/
theorem text_map_when (hpart : ∀ x, levels (part x) ≤ 1) (hne : ∀ x, rt.flat (part x) ≠ [])
    (xs : List α) :
    rt.text (xs.map fun x => .when (test x) (part x)) =
      [' '].intercalate ((xs.filter fun x => rt.holds (test x)).map fun x => rt.flat (part x)) := by
  have hpieces : ∀ (xs : List α) (pieces : List (List Char)),
      rt.emitAll ⟨pieces, []⟩ (xs.map fun x => .when (test x) (part x)) =
        ⟨pieces ++ (xs.filter fun x => rt.holds (test x)).map fun x => rt.flat (part x), []⟩ := by
    intro xs
    induction xs with
    | nil => simp [emitAll]
    | cons x xs ih =>
      intro pieces
      rw [List.map_cons, emitAll, emit]
      by_cases hholds : rt.holds (test x)
      · rw [if_pos hholds, emitAll_of_levels (hpart x)]
        simp [Output.flushed, hne x, hholds, ih]
      · rw [if_neg hholds]
        simp [Output.flushed, hholds, ih]
  rw [text, show ({} : Output) = ⟨[], []⟩ from rfl, hpieces, List.nil_append]
  rfl

/-- The rule around items with a comma behind each strips the last one. -/
theorem apply_commaRule (opening closing : String) (item : List Char) (items : List (List Char)) :
    (TrimRule.mk opening closing [] [","]).apply
        ([' '].intercalate ((item :: items).map (· ++ [',']))) =
      enclose opening closing
        (([',', ' '].intercalate (item :: items)).dropWhile (· == ' ')) := by
  -- every piece ends with its comma, so the last comma of the joined text is the only one to strip
  have hjoined : ∀ (item : List Char) (items : List (List Char)),
      [' '].intercalate ((item :: items).map (· ++ [','])) =
        [',', ' '].intercalate (item :: items) ++ [','] := by
    intro item items
    induction items generalizing item with
    | nil => simp
    | cons next items ih => simp_all
  have htrim : ∀ t : List Char,
      trimBlanks (t ++ [',']) = t.dropWhile (· == ' ') ++ [','] := by
    intro t
    rw [trimBlanks, List.dropWhile_append]
    split
    · next h =>
      rw [List.isEmpty_iff.mp h]
      rfl
    · exact List.rdropWhile_concat_neg _ _ _ (by decide)
  have hstrip : ∀ t : List Char, stripLast [","] (t ++ [',']) = t := by
    intro t
    simp [stripLast]
  unfold TrimRule.apply
  rw [hjoined, htrim]
  simp [stripFirst, hstrip]

/-- Items with a comma behind each, each under a test: what comes out are the items whose tests
hold, or nothing if none does. -/
theorem text_commaTrim (hpart : ∀ x, levels (part x) ≤ 1)
    (hitem : ∀ x, rt.flat (part x) = item x ++ [',']) (opening closing : String) (xs : List α) :
    let kept := (xs.filter fun x => rt.holds (test x)).map item
    let text := rt.text [.trim ⟨opening, closing, [], [","]⟩
      (xs.map fun x => .when (test x) (part x))]
    (kept = [] ∧ text = []) ∨
      ∃ inner, CommaSeparated inner kept ∧ text = enclose opening closing inner := by
  intro kept text
  have hpieces : rt.text (xs.map fun x => .when (test x) (part x)) =
      [' '].intercalate (kept.map (· ++ [','])) := by
    rw [text_map_when hpart (fun x => by simp [hitem]), List.map_map]
    simp only [hitem, Function.comp_def]
  have htext : text = (TrimRule.mk opening closing [] [","]).apply
      ([' '].intercalate (kept.map (· ++ [',']))) := by
    rw [← hpieces]
    exact text_trim _ _
  cases hkept : kept with
  | nil =>
    rw [hkept] at htext
    exact .inl ⟨rfl, htext⟩
  | cons x rest =>
    rw [hkept, apply_commaRule] at htext
    exact .inr ⟨_, (commaSeparated_intercalate x rest).dropWhile_blank, htext⟩

end Tested

end Runtime

end DerivedQuery
