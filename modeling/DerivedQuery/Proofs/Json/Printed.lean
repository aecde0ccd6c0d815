import DerivedQuery.Json.Printer
import DerivedQuery.Proofs.Json.Literal
import Mathlib.Data.List.TakeWhile

/-!
# Reading printed JSON

A value is read from what it was printed as, on one line or over several (`read_print`), if its
literals are those of texts (`Written`).

The two printed forms differ only in the blanks they put in certain places. A `Layout` says which,
and values are read whatever the layout is (`readValue_spell`).
-/

namespace DerivedQuery.Json

/-- The values that texts, flags and null are made into, without numbers. -/
inductive Written : Json → Prop
  | null : Written .null
  | bool (value : Bool) : Written (.bool value)
  | text (s : String) : Written (.text s)
  | array {items : List Json} (h : ∀ v ∈ items, Written v) : Written (.array items)
  | object {members : List (String × Json)} (hnames : ∀ m ∈ members, ∃ s, m.1 = encode s)
    (hvalues : ∀ m ∈ members, Written m.2) : Written (.object members)

/-! ## Layouts -/

/-- Where blanks are put. -/
structure Layout where
  /-- What starts a line at a level of nesting. -/
  line : Nat → List Char
  /-- What stands between the colon and the value of a member. -/
  gap : List Char
  isBlank_line : ∀ level, ∀ c ∈ line level, isBlank c = true
  isBlank_gap : ∀ c ∈ gap, isBlank c = true

mutual

/-- The value in its written form at a level of nesting. -/
def spell (layout : Layout) (level : Nat) : Json → List Char
  | .null => "null".toList
  | .bool true => "true".toList
  | .bool false => "false".toList
  | .number literal => literal.toList
  | .string literal => '"' :: (literal.toList ++ ['"'])
  | .array [] => ['[', ']']
  | .array items => '[' :: (spellItems layout (level + 1) items ++ (layout.line level ++ [']']))
  | .object [] => ['{', '}']
  | .object members =>
    '{' :: (spellMembers layout (level + 1) members ++ (layout.line level ++ ['}']))

/-- The items with commas between them. -/
def spellItems (layout : Layout) (level : Nat) : List Json → List Char
  | [] => []
  | [v] => layout.line level ++ spell layout level v
  | v :: rest => layout.line level ++ spell layout level v ++ ',' :: spellItems layout level rest

/-- The members with commas between them. -/
def spellMembers (layout : Layout) (level : Nat) : List (String × Json) → List Char
  | [] => []
  | [(name, v)] =>
    layout.line level ++ '"' :: (name.toList ++ '"' :: ':' :: (layout.gap ++
      spell layout level v))
  | (name, v) :: rest =>
    layout.line level ++ '"' :: (name.toList ++ '"' :: ':' :: (layout.gap ++
      (spell layout level v ++ ',' :: spellMembers layout level rest)))

end

/-- No blanks at all. -/
def Layout.compact : Layout where
  line := fun _ => []
  gap := []
  isBlank_line := by simp
  isBlank_gap := by simp

/-- A line for each part. -/
def Layout.pretty : Layout where
  line := fun level => '\n' :: List.replicate (2 * level) ' '
  gap := [' ']
  isBlank_line := by
    intro level c hc
    rcases List.mem_cons.mp hc with rfl | hc
    · decide
    · rw [List.eq_of_mem_replicate hc]
      decide
  isBlank_gap := List.forall_mem_singleton.mpr rfl

mutual

theorem toList_compact (level : Nat) (v : Json) :
    v.compact.toList = spell .compact level v := by
  match v with
  | .null | .bool true | .bool false | .number _ | .array [] | .object [] => rfl
  | .string literal => simp [Json.compact, quoted, spell]
  | .array (v :: rest) =>
    have ih := toList_compactItems (level + 1) (v :: rest)
    simp [Json.compact, spell, Layout.compact, ih]
  | .object (m :: rest) =>
    have ih := toList_compactMembers (level + 1) (m :: rest)
    simp [Json.compact, spell, Layout.compact, ih]

theorem toList_compactItems (level : Nat) (items : List Json) :
    (compactItems items).toList = spellItems .compact level items := by
  match items with
  | [] => rfl
  | [v] => exact toList_compact level v
  | v :: w :: rest =>
    have hv := toList_compact level v
    have hrest := toList_compactItems level (w :: rest)
    simp [compactItems, spellItems, Layout.compact, hv, hrest]

theorem toList_compactMembers (level : Nat) (members : List (String × Json)) :
    (compactMembers members).toList = spellMembers .compact level members := by
  match members with
  | [] => rfl
  | [(name, v)] =>
    have hv := toList_compact level v
    simp [compactMembers, spellMembers, Layout.compact, quoted, hv]
  | (name, v) :: m :: rest =>
    have hv := toList_compact level v
    have hrest := toList_compactMembers level (m :: rest)
    simp [compactMembers, spellMembers, Layout.compact, quoted, hv, hrest]

end

theorem toList_lineStart (level : Nat) : (lineStart level).toList = Layout.pretty.line level := by
  simp [lineStart, Layout.pretty]

mutual

theorem toList_prettyAt (level : Nat) (v : Json) :
    (v.prettyAt level).toList = spell .pretty level v := by
  match v with
  | .null | .bool true | .bool false | .number _ => rfl
  | .array [] | .object [] => simp [prettyAt, spell]
  | .string literal => simp [prettyAt, quoted, spell]
  | .array (v :: rest) =>
    have ih := toList_prettyItems (level + 1) (v :: rest)
    simp [prettyAt, spell, toList_lineStart, ih]
  | .object (m :: rest) =>
    have ih := toList_prettyMembers (level + 1) (m :: rest)
    simp [prettyAt, spell, toList_lineStart, ih]

theorem toList_prettyItems (level : Nat) (items : List Json) :
    (prettyItems level items).toList = spellItems .pretty level items := by
  match items with
  | [] => rfl
  | [v] =>
    have hv := toList_prettyAt level v
    simp [prettyItems, spellItems, toList_lineStart, hv]
  | v :: w :: rest =>
    have hv := toList_prettyAt level v
    have hrest := toList_prettyItems level (w :: rest)
    simp [prettyItems, spellItems, toList_lineStart, hv, hrest]

theorem toList_prettyMembers (level : Nat) (members : List (String × Json)) :
    (prettyMembers level members).toList = spellMembers .pretty level members := by
  have hgap : Layout.pretty.gap = [' '] := rfl
  match members with
  | [] => rfl
  | [(name, v)] =>
    have hv := toList_prettyAt level v
    simp [prettyMembers, spellMembers, toList_lineStart, quoted, hgap, hv]
  | (name, v) :: m :: rest =>
    have hv := toList_prettyAt level v
    have hrest := toList_prettyMembers level (m :: rest)
    simp [prettyMembers, spellMembers, toList_lineStart, quoted, hgap, hv, hrest]

end

/-! ## Reading -/

section Reading

variable {layout : Layout}

theorem skipBlanks_append {blanks : List Char} (h : ∀ c ∈ blanks, isBlank c = true)
    (text : List Char) : skipBlanks (blanks ++ text) = skipBlanks text :=
  List.dropWhile_append_of_pos h

theorem skipBlanks_cons {c : Char} (h : isBlank c = false) (rest : List Char) :
    skipBlanks (c :: rest) = c :: rest :=
  List.dropWhile_cons_of_neg (by simp [h])

/-- Blanks before a value are passed over. -/
theorem readValue_append {blanks : List Char} (h : ∀ c ∈ blanks, isBlank c = true) {steps : Nat}
    (hsteps : 0 < steps) (text : List Char) :
    readValue steps (blanks ++ text) = readValue steps text := by
  obtain ⟨steps, rfl⟩ := Nat.exists_eq_succ_of_ne_zero (Nat.ne_of_gt hsteps)
  rw [readValue, skipBlanks_append h, readValue]

/-- Whether a value is read from its written form, with whatever follows it, in as many steps as
the written form has characters. -/
def ReadsBack (layout : Layout) (v : Json) : Prop :=
  ∀ (level : Nat) (rest : List Char) {steps : Nat}, (spell layout level v).length < steps →
    readValue steps (spell layout level v ++ rest) = some (v, rest)

/-- What stands between the last item or member and the bracket that ends them. -/
theorem skipBlanks_line (layout : Layout) (level : Nat) {c : Char} (h : isBlank c = false)
    (rest : List Char) : skipBlanks (layout.line level ++ c :: rest) = c :: rest := by
  rw [skipBlanks_append (layout.isBlank_line level), skipBlanks_cons h]

/-- An item is read up to what follows it. -/
theorem readItems_item {steps level : Nat} {v : Json} (hv : ReadsBack layout v)
    (after : List Char) (hsteps : (spell layout level v).length < steps) :
    readItems (steps + 1) (layout.line level ++ (spell layout level v ++ after)) =
      match skipBlanks after with
      | ',' :: rest => do
        let (items, after) ← readItems steps rest
        return (v :: items, after)
      | ']' :: after => return ([v], after)
      | _ => none := by
  have hvalue : readValue steps (layout.line level ++ (spell layout level v ++ after)) =
      some (v, after) := by
    rw [readValue_append (layout.isBlank_line level) (by omega), hv level after hsteps]
  rw [readItems, hvalue]
  rfl

theorem readItems_spell {items : List Json} (hne : items ≠ [])
    (h : ∀ v ∈ items, ReadsBack layout v) (level outer : Nat) (rest : List Char) {steps : Nat}
    (hsteps : (spellItems layout level items).length + 1 < steps) :
    readItems steps (spellItems layout level items ++ (layout.line outer ++ ']' :: rest)) =
      some (items, rest) := by
  induction items generalizing steps with
  | nil => contradiction
  | cons v items ih =>
    obtain ⟨hv, hitems⟩ := List.forall_mem_cons.mp h
    obtain ⟨steps, rfl⟩ : ∃ s, steps = s + 1 := ⟨steps - 1, by omega⟩
    cases items with
    | nil =>
      simp only [spellItems, List.length_append, List.append_assoc] at hsteps ⊢
      rw [readItems_item hv _ (by omega), skipBlanks_line layout outer (c := ']') rfl]
      rfl
    | cons w items =>
      rw [spellItems] at hsteps ⊢
      · simp only [List.length_append, List.length_cons, List.append_assoc,
          List.cons_append] at hsteps ⊢
        have hmore : readItems steps _ = _ := ih (List.cons_ne_nil _ _) hitems (by omega)
        rw [readItems_item hv _ (by omega), skipBlanks_cons (c := ',') rfl]
        simp only [hmore]
        rfl
      · exact List.cons_ne_nil _ _
      · exact List.cons_ne_nil _ _

/-- A member is read up to what follows it. -/
theorem readMembers_member {steps level : Nat} {name : String} (hname : ∃ s, name = encode s)
    {v : Json} (hv : ReadsBack layout v) (after : List Char)
    (hsteps : (spell layout level v).length < steps) :
    readMembers (steps + 1) (layout.line level ++ '"' :: (name.toList ++ '"' :: ':' ::
        (layout.gap ++ (spell layout level v ++ after)))) =
      match skipBlanks after with
      | ',' :: rest => do
        let (members, after) ← readMembers steps rest
        return ((name, v) :: members, after)
      | '}' :: after => return ([(name, v)], after)
      | _ => none := by
  obtain ⟨s, rfl⟩ := hname
  have hvalue : readValue steps (layout.gap ++ (spell layout level v ++ after)) =
      some (v, after) := by
    rw [readValue_append layout.isBlank_gap (by omega), hv level after hsteps]
  have hcolon : skipBlanks (':' :: (layout.gap ++ (spell layout level v ++ after))) =
      ':' :: (layout.gap ++ (spell layout level v ++ after)) := skipBlanks_cons rfl _
  rw [readMembers, skipBlanks_line layout level (c := '"') rfl]
  simp only [readLiteral_encode, Option.bind_eq_bind, Option.bind_some]
  rw [hcolon]
  show (readValue steps (layout.gap ++ (spell layout level v ++ after))).bind _ = _
  rw [hvalue, String.ofList_toList]
  rfl

theorem readMembers_spell {members : List (String × Json)} (hne : members ≠ [])
    (hnames : ∀ m ∈ members, ∃ s, m.1 = encode s) (h : ∀ m ∈ members, ReadsBack layout m.2)
    (level outer : Nat) (rest : List Char) {steps : Nat}
    (hsteps : (spellMembers layout level members).length + 1 < steps) :
    readMembers steps
        (spellMembers layout level members ++ (layout.line outer ++ '}' :: rest)) =
      some (members, rest) := by
  induction members generalizing steps with
  | nil => contradiction
  | cons m members ih =>
    obtain ⟨name, v⟩ := m
    obtain ⟨hname, hnames⟩ := List.forall_mem_cons.mp hnames
    obtain ⟨hv, hvalues⟩ := List.forall_mem_cons.mp h
    replace hv : ReadsBack layout v := hv
    obtain ⟨steps, rfl⟩ : ∃ s, steps = s + 1 := ⟨steps - 1, by omega⟩
    cases members with
    | nil =>
      simp only [spellMembers, List.length_append, List.length_cons, List.append_assoc,
        List.cons_append] at hsteps ⊢
      rw [readMembers_member hname hv _ (by omega), skipBlanks_line layout outer (c := '}') rfl]
      rfl
    | cons m members =>
      rw [spellMembers] at hsteps ⊢
      · simp only [List.length_append, List.length_cons, List.append_assoc,
          List.cons_append] at hsteps ⊢
        have hmore : readMembers steps _ = _ := ih (List.cons_ne_nil _ _) hnames hvalues (by omega)
        rw [readMembers_member hname hv _ (by omega), skipBlanks_cons (c := ',') rfl]
        simp only [hmore]
        rfl
      · exact List.cons_ne_nil _ _
      · exact List.cons_ne_nil _ _

theorem readValue_array {steps : Nat} {text after : List Char} {items : List Json}
    (hne : ∀ rest, skipBlanks text ≠ ']' :: rest)
    (hread : readItems steps text = some (items, after)) :
    readValue (steps + 1) ('[' :: text) = some (.array items, after) := by
  rw [readValue, skipBlanks_cons (c := '[') rfl]
  dsimp only
  rw [if_neg (by decide), if_pos rfl]
  split
  next h => exact absurd h (hne _)
  next => rw [hread]; rfl

theorem readValue_object {steps : Nat} {text after : List Char} {members : List (String × Json)}
    (hne : ∀ rest, skipBlanks text ≠ '}' :: rest)
    (hread : readMembers steps text = some (members, after)) :
    readValue (steps + 1) ('{' :: text) = some (.object members, after) := by
  rw [readValue, skipBlanks_cons (c := '{') rfl]
  dsimp only
  rw [if_neg (by decide), if_neg (by decide), if_pos rfl]
  split
  next h => exact absurd h (hne _)
  next => rw [hread]; rfl

/-- A value does not start with a blank, nor with the bracket that ends an array. -/
theorem Written.head {v : Json} (h : v.Written) (layout : Layout) (level : Nat) :
    ∃ c cs, spell layout level v = c :: cs ∧ isBlank c = false ∧ c ≠ ']' := by
  cases h with
  | null => exact ⟨'n', _, rfl, by decide, by decide⟩
  | bool value =>
    cases value
    · exact ⟨'f', _, rfl, by decide, by decide⟩
    · exact ⟨'t', _, rfl, by decide, by decide⟩
  | text s => exact ⟨'"', _, rfl, by decide, by decide⟩
  | @array items h =>
    cases items with
    | nil => exact ⟨'[', _, rfl, by decide, by decide⟩
    | cons v items => exact ⟨'[', _, rfl, by decide, by decide⟩
  | @object members hnames hvalues =>
    cases members with
    | nil => exact ⟨'{', _, rfl, by decide, by decide⟩
    | cons m members => exact ⟨'{', _, rfl, by decide, by decide⟩

/-- Items do not start with the bracket that ends them. -/
theorem skipBlanks_spellItems {v : Json} (hv : v.Written) (items : List Json) (level : Nat)
    (text rest : List Char) :
    skipBlanks (spellItems layout level (v :: items) ++ text) ≠ ']' :: rest := by
  obtain ⟨c, cs, hspell, hblank, hne⟩ := hv.head layout level
  have hfirst : ∃ more, spellItems layout level (v :: items) ++ text =
      layout.line level ++ c :: more := by
    cases items with
    | nil => exact ⟨cs ++ text, by simp [spellItems, hspell]⟩
    | cons w items =>
      exact ⟨cs ++ ',' :: (spellItems layout level (w :: items) ++ text), by
        simp [spellItems, hspell]⟩
  obtain ⟨more, hmore⟩ := hfirst
  rw [hmore, skipBlanks_line layout level hblank]
  exact fun h => hne (List.cons.inj h).1

/-- Members start with a quote. -/
theorem skipBlanks_spellMembers (m : String × Json) (members : List (String × Json)) (level : Nat)
    (text rest : List Char) :
    skipBlanks (spellMembers layout level (m :: members) ++ text) ≠ '}' :: rest := by
  have hfirst : ∃ more, spellMembers layout level (m :: members) ++ text =
      layout.line level ++ '"' :: more := by
    cases members with
    | nil => exact ⟨_, by simp only [spellMembers, List.append_assoc, List.cons_append]; rfl⟩
    | cons n members =>
      exact ⟨_, by simp only [spellMembers, List.append_assoc, List.cons_append]; rfl⟩
  obtain ⟨more, hmore⟩ := hfirst
  rw [hmore, skipBlanks_line layout level (c := '"') rfl]
  exact fun h => absurd (List.cons.inj h).1 (by decide)

/-- A value is read from its written form in every layout. -/
theorem Written.readsBack {v : Json} (h : v.Written) : ReadsBack layout v := by
  induction h with
  | null =>
    intro level rest steps hsteps
    obtain ⟨steps, rfl⟩ := Nat.exists_eq_succ_of_ne_zero (Nat.ne_zero_of_lt hsteps)
    rfl
  | bool value =>
    intro level rest steps hsteps
    obtain ⟨steps, rfl⟩ := Nat.exists_eq_succ_of_ne_zero (Nat.ne_zero_of_lt hsteps)
    cases value <;> rfl
  | text s =>
    intro level rest steps hsteps
    obtain ⟨steps, rfl⟩ := Nat.exists_eq_succ_of_ne_zero (Nat.ne_zero_of_lt hsteps)
    have htext : spell layout level (Json.text s) ++ rest =
        '"' :: ((encode s).toList ++ '"' :: rest) := by
      simp [Json.text, spell]
    rw [htext, readValue, skipBlanks_cons (c := '"') rfl]
    simp [readLiteral_encode, Json.text]
  | @array items h ih =>
    intro level rest steps hsteps
    obtain ⟨steps, rfl⟩ := Nat.exists_eq_succ_of_ne_zero (Nat.ne_zero_of_lt hsteps)
    cases items with
    | nil => rfl
    | cons v items =>
      have htext : spell layout level (Json.array (v :: items)) ++ rest =
          '[' :: (spellItems layout (level + 1) (v :: items) ++
            (layout.line level ++ ']' :: rest)) := by
        simp [spell]
      have hlength : (spellItems layout (level + 1) (v :: items)).length + 1 < steps := by
        simp only [spell, List.length_cons, List.length_append] at hsteps
        omega
      rw [htext]
      exact readValue_array (skipBlanks_spellItems (h v (.head _)) items _ _)
        (readItems_spell (List.cons_ne_nil _ _) ih (level + 1) level rest hlength)
  | @object members hnames hvalues ih =>
    intro level rest steps hsteps
    obtain ⟨steps, rfl⟩ := Nat.exists_eq_succ_of_ne_zero (Nat.ne_zero_of_lt hsteps)
    cases members with
    | nil => rfl
    | cons m members =>
      have htext : spell layout level (Json.object (m :: members)) ++ rest =
          '{' :: (spellMembers layout (level + 1) (m :: members) ++
            (layout.line level ++ '}' :: rest)) := by
        simp [spell]
      have hlength : (spellMembers layout (level + 1) (m :: members)).length + 1 < steps := by
        simp only [spell, List.length_cons, List.length_append] at hsteps
        omega
      rw [htext]
      exact readValue_object (skipBlanks_spellMembers m members _ _)
        (readMembers_spell (List.cons_ne_nil _ _) hnames ih (level + 1) level rest hlength)

end Reading

/-- A value is read from what it was printed as. -/
theorem read_print {v : Json} (h : v.Written) (overLines : Bool) :
    read? (v.print overLines) = some v := by
  have hread : ∀ (layout : Layout) (text : String), text.toList = spell layout 0 v →
      read? text = some v := by
    intro layout text htext
    have hback : ReadsBack layout v := h.readsBack
    have hback := hback 0 [] (Nat.lt_succ_self _)
    rw [List.append_nil, ← htext, String.length_toList] at hback
    rw [read?, hback]
    rfl
  cases overLines with
  | false => exact hread .compact _ (toList_compact 0 v)
  | true => exact hread .pretty _ (toList_prettyAt 0 v)

end DerivedQuery.Json
