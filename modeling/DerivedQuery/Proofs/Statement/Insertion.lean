import DerivedQuery.Proofs.Operand.References
import DerivedQuery.Proofs.Statement.CommaList

/-!
# Insertions

An insertion names columns and gives values for them, one row or one for each element of a payload.
Both lists are written apart, and where properties may lack a value both lose the same items at run
time. `Translator.insert_eq_ok` says what every insertion consists of, and

> `insert_aligned`: the columns and the values that come out are those of the same fields, place by
> place.
-/

namespace DerivedQuery

open DerivedQuery.Types Body

namespace Translator

/-! ## The parts of an insertion -/

/-- The fields that an insertion is about: all of the payload's if properties without a value are
left out, else those that the database does not generate. -/
def insertedFields (q : Query) (payload : Param) : List BeanField :=
  if q.selective then payload.beanFields else payload.beanFields.filter (!·.generatedKey)

theorem mem_of_mem_insertedFields {q : Query} {payload : Param} {f : BeanField}
    (h : f ∈ insertedFields q payload) : f ∈ payload.beanFields := by
  unfold insertedFields at h
  split at h
  · exact h
  · exact List.mem_of_mem_filter h

/-- How a row refers to the value of a field: as a property of the element at hand in a batch, else
as one of the payload. -/
def rowRef (m : BoundMethod) (payload : Param) (f : BeanField) : String :=
  if payload.isIterable then itemName ++ "." ++ f.name else m.propertyRef payload f.name

/-- The part of an insertion that names the columns. -/
def columnsPart (q : Query) (m : BoundMethod) (payload : Param) : Body :=
  if q.selective then
    [parenthesized (payload.beanFields.map fun f =>
      .when (isPresent (rowRef m payload f)) [.text (f.column ++ ",")])]
  else [.text (columnList (insertedFields q payload))]

/-- The part of an insertion that gives the values of a row. -/
def rowPart (q : Query) (m : BoundMethod) (payload : Param) : Body :=
  if q.selective then
    [parenthesized (payload.beanFields.map fun f =>
      .when (isPresent (rowRef m payload f)) [.param (rowRef m payload f), .text ","])]
  else valueList ((insertedFields q payload).map fun f => rowRef m payload f)

/-- The part of an insertion that gives all rows: the one of the payload, or one for each of its
elements. -/
def rowsPart (q : Query) (m : BoundMethod) (payload : Param) : Body :=
  if payload.isIterable then
    [.forEach { collection := payload.name, item := itemName, separator := ", " }
      (rowPart q m payload)]
  else rowPart q m payload

/-- The text that every insertion starts with. -/
def insertHead (t : Translator) : String := "INSERT INTO " ++ t.table ++ " "

/-- The statement that inserts a payload. -/
def insertStatement (t : Translator) (q : Query) (m : BoundMethod) (payload : Param) : Statement :=
  { m.statement .insert (Body.append [.text t.insertHead]
      (columnsPart q m payload ++ .text " VALUES " :: rowsPart q m payload)) with
    keyProperty := (payload.beanFields.find? (·.generatedKey)).map (·.name) }

variable {t : Translator} {q : Query} {m : BoundMethod} {s : Statement} {payload : Param}

/-- What an insertion consists of, and what has to hold for there to be one. -/
theorem insert_eq_ok (h : t.insert q m = .ok s) :
    ∃ payload, m.params.find? (·.isBean) = some payload ∧ q.predicate = none ∧
      (q.all = true → payload.isIterable = true) ∧
      (q.selective = true → payload.isIterable = false) ∧
      (q.selective = false → insertedFields q payload ≠ []) ∧
      s = t.insertStatement q m payload := by
  unfold insert at h
  split at h
  case h_2 => cases h
  case h_1 payload hpayload =>
    obtain ⟨hpredicate, h⟩ := of_unless_refused h
    obtain ⟨hiterable, h⟩ := of_unless_refused h
    obtain ⟨hbatch, h⟩ := of_unless_refused h
    have hnone : q.predicate = none := by simpa using hpredicate
    have hall : q.all = true → payload.isIterable = true := by
      intro hall
      simpa [hall] using hiterable
    have hsingle : q.selective = true → payload.isIterable = false := by
      intro hselective
      rw [hselective, Bool.and_true, Bool.or_eq_false_iff] at hbatch
      exact hbatch.2
    refine ⟨payload, hpayload, hnone, hall, hsingle, ?_⟩
    dsimp only at h
    split at h
    · next hselective =>
      cases h
      refine ⟨fun h => by simp [hselective] at h, ?_⟩
      simp only [insertStatement, columnsPart, rowsPart, rowPart, rowRef, hselective,
        hsingle hselective, if_true]
      rfl
    · next hselective =>
      -- only this form makes sure that there is a field to insert
      obtain ⟨hfields, h⟩ := of_unless_refused h
      cases h
      have hbatch : (q.all || payload.isIterable) = payload.isIterable := by
        cases hall' : q.all with
        | false => rfl
        | true => exact (hall hall').symm
      have hinserted : insertedFields q payload = payload.beanFields.filter (!·.generatedKey) :=
        if_neg hselective
      refine ⟨fun _ => ?_, ?_⟩
      · rw [hinserted]
        exact fun hnil => by simp [hnil] at hfields
      · have hrows : rows m payload payload.isIterable (insertedFields q payload) =
            rowsPart q m payload := by
          cases hi : payload.isIterable <;> simp [rows, rowsPart, rowPart, rowRef, hselective, hi]
        rw [hbatch, ← hinserted, hrows, insertStatement, columnsPart, if_neg hselective]
        rfl

/-! ## What the parts come out as -/

section Evaluation

variable {rt : Runtime}

/-- The fields that a run gives values: those inserted, and where properties may lack a value those
that have one. -/
def givenFields (rt : Runtime) (q : Query) (m : BoundMethod) (payload : Param) : List BeanField :=
  (insertedFields q payload).filter fun f =>
    !q.selective || rt.holds (isPresent (rowRef m payload f))

theorem givenFields_of_not_selective (h : q.selective = false) :
    givenFields rt q m payload = insertedFields q payload := by
  simp [givenFields, h]

theorem givenFields_of_selective (h : q.selective = true) :
    givenFields rt q m payload =
      payload.beanFields.filter fun f => rt.holds (isPresent (rowRef m payload f)) := by
  simp [givenFields, insertedFields, h]

theorem listed_parenthesized {α : Type} {test : α → String} {part : α → Body}
    {item : α → List Char} (hpart : ∀ x, levels (part x) ≤ 1)
    (hitem : ∀ x, rt.flat (part x) = item x ++ [',']) (xs : List α) :
    Listed "(" ")" (rt.text [parenthesized (xs.map fun x => .when (test x) (part x))])
      ((xs.filter fun x => rt.holds (test x)).map item) := by
  rcases Runtime.text_commaTrim hpart hitem "(" ")" xs with ⟨hkept, htext⟩ | ⟨inner, hinner, htext⟩
  · rw [hkept, parenthesized, htext]
    exact .nothing
  · have henclose : enclose "(" ")" inner =
        "(".toList ++ (' ' :: (inner ++ [' '])) ++ ")".toList := by
      simp [enclose]
    rw [parenthesized, htext, henclose]
    exact .items hinner.concat_blank.blank_cons

theorem flat_valueList (names : List String) :
    rt.flat (valueList names) =
      "(".toList ++ [',', ' '].intercalate (names.map placeholder) ++ ")".toList := by
  rw [valueList, Runtime.flat_push, Runtime.flat_append, Runtime.flat_separated, List.map_map]
  rfl

/-- The columns that come out are those of the given fields. -/
theorem listed_columnsPart (h : q.selective = false → insertedFields q payload ≠ []) :
    Listed "(" ")" (rt.text (columnsPart q m payload))
      ((givenFields rt q m payload).map (·.column.toList)) := by
  cases hselective : q.selective with
  | true =>
    rw [givenFields_of_selective hselective, columnsPart, if_pos hselective]
    exact listed_parenthesized (fun _ => Nat.le_refl _) (fun f => by simp [Runtime.flatFragment]) _
  | false =>
    obtain ⟨f, fs, hfields⟩ := List.exists_cons_of_ne_nil (h hselective)
    have htext : rt.text (columnsPart q m payload) = "(".toList ++
        [',', ' '].intercalate ((insertedFields q payload).map (·.column.toList)) ++
          ")".toList := by
      rw [columnsPart, hselective, if_neg (by decide), Runtime.text_of_levels (Nat.le_refl _)]
      simp [Runtime.flatFragment, columnList, String.toList_intercalate, Function.comp_def]
    rw [givenFields_of_not_selective hselective, htext, hfields]
    exact .items (commaSeparated_intercalate _ _)

/-- The values that come out are those of the given fields. -/
theorem listed_rowPart (h : q.selective = false → insertedFields q payload ≠ []) :
    Listed "(" ")" (rt.text (rowPart q m payload))
      ((givenFields rt q m payload).map fun f => placeholder (rowRef m payload f)) := by
  cases hselective : q.selective with
  | true =>
    rw [givenFields_of_selective hselective, rowPart, if_pos hselective]
    exact listed_parenthesized (fun _ => Nat.le_refl _) (fun f => by simp [Runtime.flatFragment]) _
  | false =>
    obtain ⟨f, fs, hfields⟩ := List.exists_cons_of_ne_nil (h hselective)
    rw [givenFields_of_not_selective hselective, rowPart, hselective, if_neg (by decide),
      Runtime.text_of_levels (levels_valueList _), flat_valueList, List.map_map, hfields]
    exact .items (commaSeparated_intercalate _ _)

end Evaluation

/-! ## Columns and values -/

/-- Whether the columns and the values that come out in a run are those of the same fields, place by
place. -/
structure Aligned (rt : Runtime) (q : Query) (m : BoundMethod) (payload : Param)
    (fields : List BeanField) : Prop where
  columns : Listed "(" ")" (rt.text (columnsPart q m payload)) (fields.map (·.column.toList))
  values : Listed "(" ")" (rt.text (rowPart q m payload))
    (fields.map fun f => placeholder (rowRef m payload f))

/-- **Columns and values stay aligned.** The payload of an insertion is the first bean among the
parameters. Its columns and the values of a row are lists without a comma at their ends, and in both
the same fields stand in the same places, in their order in the payload: every field that the
database does not generate, or in the selective form every field with a value, whatever properties
have one. -/
theorem insert_aligned (h : t.insert q m = .ok s) :
    ∃ payload, m.params.find? (·.isBean) = some payload ∧
      s.body = Body.append [.text t.insertHead]
        (columnsPart q m payload ++ .text " VALUES " :: rowsPart q m payload) ∧
      (q.selective = false → ∀ rt : Runtime,
        Aligned rt q m payload (payload.beanFields.filter (!·.generatedKey))) ∧
      (q.selective = true → payload.isIterable = false ∧ ∀ rt : Runtime,
        rt.TestsPresence (payload.beanFields.map fun f => m.propertyRef payload f.name) →
        Aligned rt q m payload
          (payload.beanFields.filter fun f => rt.present (m.propertyRef payload f.name))) := by
  obtain ⟨payload, hpayload, -, -, hsingle, hfields, rfl⟩ := insert_eq_ok h
  have haligned : ∀ rt : Runtime, Aligned rt q m payload (givenFields rt q m payload) :=
    fun rt => ⟨listed_columnsPart hfields, listed_rowPart hfields⟩
  refine ⟨payload, hpayload, rfl, fun hselective rt => ?_, fun hselective => ?_⟩
  · have hgiven : givenFields rt q m payload = payload.beanFields.filter (!·.generatedKey) := by
      rw [givenFields_of_not_selective hselective, insertedFields, hselective, if_neg (by decide)]
    exact hgiven ▸ haligned rt
  · refine ⟨hsingle hselective, fun rt htests => ?_⟩
    have hgiven : givenFields rt q m payload =
        payload.beanFields.filter fun f => rt.present (m.propertyRef payload f.name) := by
      rw [givenFields_of_selective hselective]
      refine List.filter_congr fun f hf => ?_
      rw [rowRef, hsingle hselective, if_neg (by decide)]
      exact htests _ (List.mem_map_of_mem hf)
    exact hgiven ▸ haligned rt

/-- The query of a method that inserts. -/
def insertQuery (all selective : Bool) : Query := ⟨.insert, all, selective, none, none⟩

/-- A method that inserts its only parameter. -/
def insertOf (payload : Param) : BoundMethod := ⟨"insert", [payload], .void, []⟩

/-- A person, with a key that the database generates. -/
def personParam : Param :=
  ⟨.bean "Person" [⟨"id", "id", true⟩, ⟨"firstName", "first_name", false⟩, ⟨"age", "age", false⟩],
    "person", "person"⟩

/-- Of a person without a first name, the other two columns get the other two values. -/
theorem insert_aligned_person :
    let t : Translator := ⟨"people", id⟩
    let q := insertQuery false true
    let m := insertOf personParam
    let rt := Runtime.ofPresent (· != "firstName") fun _ _ => []
    ∃ s, t.insert q m = .ok s ∧
      rt.TestsPresence (personParam.beanFields.map fun f => m.propertyRef personParam f.name) ∧
      ∃ columns values, rt.text (columnsPart q m personParam) = '(' :: columns ++ [')'] ∧
        rt.text (rowPart q m personParam) = '(' :: values ++ [')'] ∧
        (columns.splitOn ',').map trimBlanks = ["id".toList, "age".toList] ∧
        (values.splitOn ',').map trimBlanks = ["#{id}".toList, "#{age}".toList] := by
  intro t q m rt
  obtain ⟨s, hs⟩ : ∃ s, t.insert q m = .ok s := ⟨_, rfl⟩
  have htests :
      rt.TestsPresence (personParam.beanFields.map fun f => m.propertyRef personParam f.name) := by
    unfold Runtime.TestsPresence
    decide
  obtain ⟨payload, hpayload, -, -, hselective⟩ := insert_aligned hs
  cases hpayload
  have haligned := (hselective rfl).2 rt htests
  obtain ⟨columns, hcolumns, hcolumnItems⟩ := haligned.columns.exists_items (by decide) (by decide)
  obtain ⟨values, hvalues, hvalueItems⟩ := haligned.values.exists_items (by decide) (by decide)
  exact ⟨s, hs, htests, columns, values, hcolumns, hvalues, hcolumnItems.trans (by decide),
    hvalueItems.trans (by decide)⟩

/-! ## Insertions that can be executed -/

/-- A note, with a tag. -/
def noteBean : Descriptor := .bean "Note" [⟨"tag", "tag", false⟩]

/-- What the values of a row are properties of: the payload, or in a batch its direct element. -/
def rowType (payload : Param) : Descriptor := payload.type.element?.getD payload.type

/-- Whether an insertion can be executed: unless parts drop out it names a column, and its values
are fields of a bean that a row is made from. -/
structure Runnable (q : Query) (m : BoundMethod) (payload : Param) : Prop where
  columns : ∃ columns, columns ≠ [] ∧ ∀ rt : Runtime, (∀ test, rt.holds test = true) →
    Listed "(" ")" (rt.text (columnsPart q m payload)) columns
  bean : ∃ name fields, rowType payload = .bean name fields
  values : ∀ ref ∈ references (rowPart q m payload),
    ∃ f ∈ (rowType payload).fields, ref = .value (rowRef m payload f)

theorem references_separated (separator : String) (fs : List Fragment) :
    references (separated separator fs) = references fs := by
  fun_induction separated separator fs with
  | case1 | case2 => rfl
  | case3 f rest hne ih => simp [ih]

theorem references_map {α : Type} {fragment : α → Fragment} {name : α → String}
    (h : ∀ x, (fragment x).references = [.value (name x)]) (xs : List α) :
    references (xs.map fragment) = xs.map fun x => .value (name x) := by
  induction xs with
  | nil => rfl
  | cons x xs ih => rw [List.map_cons, references_cons, h, ih]; rfl

/-- The values of a row are those of the inserted fields. -/
theorem references_rowPart (q : Query) (m : BoundMethod) (payload : Param) :
    references (rowPart q m payload) =
      (insertedFields q payload).map fun f => .value (rowRef m payload f) := by
  unfold rowPart
  split
  · next hselective =>
    rw [insertedFields, if_pos hselective, parenthesized, references_cons, references_nil,
      List.append_nil, Fragment.references_trim]
    exact references_map (fun _ => rfl) _
  · rw [valueList, references_push, references_append, references_separated, List.map_map]
    simp only [references_cons, references_nil, Fragment.references_text, List.nil_append,
      List.append_nil]
    exact references_map (fun _ => rfl) _

/-- A row of a payload that is no iterable of iterables is made from a bean. -/
theorem exists_rowType_eq_bean (hbean : payload.isBean = true)
    (hflat : ∀ element, payload.type.element? = some element → element.isIterable = false) :
    ∃ name, rowType payload = .bean name payload.beanFields := by
  have hleaf : ∀ d : Descriptor, d.isBean = true → d.isIterable = false →
      ∃ name, d = .bean name d.beanFields := by
    intro d hd hi
    cases d with
    | scalar | void => cases hd
    | iterable => cases hi
    | bean name fields => exact ⟨name, rfl⟩
  obtain ⟨type, name, column⟩ := payload
  cases type with
  | scalar | void => cases hbean
  | iterable name element => exact hleaf element hbean (hflat element rfl)
  | bean name fields => exact ⟨name, rfl⟩

namespace Runnable

variable (h : Runnable q m payload)
include h

/-- Without fields, both lists of the selective form come out as nothing. -/
theorem beanFields_ne_nil (hselective : q.selective = true) : payload.beanFields ≠ [] := by
  intro hnil
  obtain ⟨columns, hne, hlisted⟩ := h.columns
  have hempty := hlisted ⟨fun _ => true, fun _ => true, fun _ _ => []⟩ fun _ => rfl
  rw [columnsPart, if_pos hselective, hnil] at hempty
  cases hempty with
  | nothing => exact hne rfl

/-- What a batch repeats its row for are beans. -/
theorem isIterable_element {element : Descriptor} (helement : payload.type.element? = some element) :
    element.isIterable = false := by
  obtain ⟨name, fields, hrow⟩ := h.bean
  rw [rowType, helement, Option.getD_some] at hrow
  rw [hrow]
  rfl

end Runnable

/-- **When an insertion can be executed.** An insertion names a column and takes its values from
fields that exist, with two exceptions: the selective form for a payload without fields names no
column, and a batch of iterables asks the elements for properties that only their own elements
have. -/
theorem insert_runnable_iff (h : t.insert q m = .ok s) :
    ∃ payload, m.params.find? (·.isBean) = some payload ∧
      s.body = Body.append [.text t.insertHead]
        (columnsPart q m payload ++ .text " VALUES " :: rowsPart q m payload) ∧
      (Runnable q m payload ↔ (q.selective = true → payload.beanFields ≠ []) ∧
        ∀ element, payload.type.element? = some element → element.isIterable = false) := by
  obtain ⟨payload, hpayload, -, -, -, hfields, rfl⟩ := insert_eq_ok h
  refine ⟨payload, hpayload, rfl,
    fun hruns => ⟨hruns.beanFields_ne_nil, fun _ => hruns.isIterable_element⟩, ?_⟩
  rintro ⟨hnonempty, hflat⟩
  obtain ⟨name, hrow⟩ := exists_rowType_eq_bean (List.find?_some hpayload) hflat
  have hinserted : insertedFields q payload ≠ [] := by
    cases hselective : q.selective with
    | false => exact hfields hselective
    | true =>
      rw [insertedFields, if_pos hselective]
      exact hnonempty hselective
  have hcolumns : ∀ rt : Runtime, (∀ test, rt.holds test = true) →
      Listed "(" ")" (rt.text (columnsPart q m payload))
        ((insertedFields q payload).map (·.column.toList)) := by
    intro rt hholds
    have hgiven : givenFields rt q m payload = insertedFields q payload := by
      simp [givenFields, hholds]
    exact hgiven ▸ listed_columnsPart hfields
  refine ⟨⟨_, by simpa using hinserted, hcolumns⟩, ⟨name, _, hrow⟩, fun ref href => ?_⟩
  rw [references_rowPart] at href
  obtain ⟨f, hf, rfl⟩ := List.mem_map.mp href
  rw [hrow]
  exact ⟨f, mem_of_mem_insertedFields hf, rfl⟩

/-- A table of notes, by its rows. -/
def noteTable : Param := ⟨.iterable "Note[][]" (.iterable "Note[]" noteBean), "notes", "notes"⟩

/-- A note that all values are taken from can be inserted. -/
theorem insert_runnable_note :
    let t : Translator := ⟨"notes", id⟩
    let q := insertQuery false false
    let note : Param := ⟨noteBean, "note", "note"⟩
    ∃ s, t.insert q (insertOf note) = .ok s ∧ Runnable q (insertOf note) note := by
  intro t q note
  obtain ⟨s, hs⟩ : ∃ s, t.insert q (insertOf note) = .ok s := ⟨_, rfl⟩
  obtain ⟨payload, hpayload, -, hiff⟩ := insert_runnable_iff hs
  cases hpayload
  exact ⟨s, hs, hiff.mpr ⟨fun h => (by cases h), fun _ h => (by cases h)⟩⟩

/-- **Not every insertion can be executed.** The selective form for a bean without fields names no
column in any run, and the batch for an iterable of iterables takes the values from properties of
an iterable. -/
theorem insert_not_runnable :
    let t : Translator := ⟨"notes", id⟩
    let blank : Param := ⟨.bean "Blank" [], "blank", "blank"⟩
    (∃ s, t.insert (insertQuery false true) (insertOf blank) = .ok s ∧
      s.body = [.text "INSERT INTO notes ", parenthesized [], .text " VALUES ", parenthesized []] ∧
      (∀ rt : Runtime, rt.text [parenthesized []] = []) ∧
      ¬Runnable (insertQuery false true) (insertOf blank) blank) ∧
    ∃ s, t.insert (insertQuery true false) (insertOf noteTable) = .ok s ∧
      s.sql = "INSERT INTO notes (tag) VALUES <foreach collection=\"notes\" item=\"item\" " ++
        "separator=\", \">(#{item.tag})</foreach>" ∧
      rowType noteTable = .iterable "Note[]" noteBean ∧
      ¬Runnable (insertQuery true false) (insertOf noteTable) noteTable := by
  intro t blank
  refine ⟨⟨_, rfl, by decide, fun rt => rfl, fun h => h.beanFields_ne_nil rfl rfl⟩,
    ⟨_, rfl, by decide, rfl, fun h => ?_⟩⟩
  exact absurd (h.isIterable_element rfl) (by decide)

end Translator

end DerivedQuery
