import DerivedQuery.Proofs.Record.Layer

/-!
# How deep documents are nested

Of the levels that a text layer reads, a document takes one for itself, one for its statements, one
for a statement and one for a body, and the fragments of the body take the rest. A fragment is
written with its levels of nesting (`depth_toTree`), and none is read that has more levels than its
content (`levels_fragment`). So a document that is nested no deeper than a layer reads can be
written for it (`depth_document`), and one that was loaded is nested no deeper (`levels_of_load`).
-/

namespace DerivedQuery.Record

open Content.depth

/-! ## Written documents -/

theorem depthOfItems_le_iff {items : List Tree} {n : Nat} :
    depthOfItems (Tree.itemsToContents items) ≤ n ↔ ∀ t ∈ items, t.toContent.depth ≤ n := by
  induction items with
  | nil => simp [Tree.itemsToContents, depthOfItems]
  | cons t items ih =>
    rw [Tree.itemsToContents, depthOfItems, Nat.max_le, ih, List.forall_mem_cons]

theorem depthOfFields_le_iff {fields : List (String × Tree)} {n : Nat} :
    depthOfEntries (Tree.fieldsToContents fields) ≤ n ↔ ∀ f ∈ fields, f.2.toContent.depth ≤ n := by
  induction fields with
  | nil => simp [Tree.fieldsToContents, depthOfEntries]
  | cons f fields ih =>
    rw [Tree.fieldsToContents, depthOfEntries, Nat.max_le, ih, List.forall_mem_cons]

theorem depth_list_le {items : List Tree} {n : Nat} (h : ∀ t ∈ items, t.toContent.depth ≤ n) :
    (Tree.list items).toContent.depth ≤ n + 1 :=
  Nat.succ_le_succ (depthOfItems_le_iff.mpr h)

theorem depth_record_le {fields : List (String × Tree)} {n : Nat}
    (h : ∀ f ∈ fields, f.2.toContent.depth ≤ n) : (Tree.record fields).toContent.depth ≤ n + 1 :=
  Nat.succ_le_succ (depthOfFields_le_iff.mpr h)

theorem depth_of_mem_textField {name value : String} {f : String × Tree}
    (h : f ∈ Tree.textField name value) : f.2.toContent.depth = 0 := by
  unfold Tree.textField at h
  split at h
  · cases h
  · obtain rfl := List.mem_singleton.mp h
    rfl

theorem depth_of_mem_textsField {name : String} {values : List String} {f : String × Tree}
    (h : f ∈ Tree.textsField name values) : f.2.toContent.depth ≤ 1 := by
  unfold Tree.textsField at h
  split at h
  · cases h
  · obtain rfl := List.mem_singleton.mp h
    refine depth_list_le fun t ht => ?_
    obtain ⟨value, -, rfl⟩ := List.mem_map.mp ht
    exact Nat.le_refl _

/-- The fields of a fragment are nested no deeper than its body. -/
theorem depth_of_mem_fields {f : Fragment} {n : Nat}
    (hbody : (Tree.list (bodyToTrees f.inner)).toContent.depth ≤ n + 1) :
    ∀ field ∈ f.fields, field.2.toContent.depth ≤ n + 1 := by
  cases f with
  | text value | param name => exact List.forall_mem_singleton.mpr (Nat.zero_le _)
  | when test body =>
    refine List.forall_mem_cons.mpr ⟨Nat.zero_le _, ?_⟩
    exact List.forall_mem_cons.mpr ⟨hbody, List.forall_mem_nil _⟩
  | forEach rule body =>
    intro field hfield
    simp only [Fragment.fields, List.mem_cons, List.not_mem_nil, or_false] at hfield
    rcases hfield with rfl | rfl | rfl | rfl | rfl | rfl
    case inr.inr.inr.inr.inr => exact hbody
    all_goals exact Nat.zero_le _
  | trim rule body =>
    intro field hfield
    simp only [Fragment.fields, List.mem_append, List.mem_singleton] at hfield
    rcases hfield with (((h | h) | h) | h) | rfl
    · rw [depth_of_mem_textField h]
      exact Nat.zero_le _
    · rw [depth_of_mem_textField h]
      exact Nat.zero_le _
    · exact Nat.le_trans (depth_of_mem_textsField h) (Nat.succ_le_succ (Nat.zero_le _))
    · exact Nat.le_trans (depth_of_mem_textsField h) (Nat.succ_le_succ (Nat.zero_le _))
    · exact hbody

mutual

/-- A fragment is written with its levels of nesting. -/
theorem depth_toTree (f : Fragment) : f.toTree.toContent.depth ≤ f.levels := by
  match f with
  | .text _ | .param _ => exact Nat.le_refl _
  | .when _ body | .trim _ body | .forEach _ body =>
    rw [Fragment.toTree_eq]
    refine depth_record_le (List.forall_mem_cons.mpr ⟨Nat.zero_le _, ?_⟩)
    exact depth_of_mem_fields (depth_bodyToTrees body)

theorem depth_bodyToTrees (body : List Fragment) :
    (Tree.list (bodyToTrees body)).toContent.depth ≤ Body.levels body + 1 := by
  match body with
  | [] => exact Nat.le_refl _
  | f :: fs =>
    have hf := depth_toTree f
    have hfs : depthOfItems (Tree.itemsToContents (bodyToTrees fs)) ≤ Body.levels fs :=
      Nat.le_of_succ_le_succ (depth_bodyToTrees fs)
    refine Nat.succ_le_succ (Nat.max_le.mpr ⟨?_, ?_⟩)
    · exact Nat.le_trans hf (Nat.le_max_left _ _)
    · exact Nat.le_trans hfs (Nat.le_max_right _ _)

end

/-- An optional field is a text. -/
theorem depth_of_mem_optionalField {name : String} {value : Option String} {f : String × Tree}
    (h : f ∈ Tree.optionalField name value) : f.2.toContent.depth = 0 := by
  cases value with
  | none => cases h
  | some value =>
    obtain rfl := List.mem_singleton.mp h
    rfl

/-- A statement takes two levels more than its body. -/
theorem depth_statement (s : Statement) : s.toTree.toContent.depth ≤ Body.levels s.body + 2 := by
  refine depth_record_le fun field hfield => ?_
  simp only [List.mem_append, List.mem_cons, List.not_mem_nil, or_false] at hfield
  rcases hfield with ((((rfl | rfl) | h) | h) | h) | rfl | rfl
  case inr.inr => exact depth_bodyToTrees s.body
  case inl.inl.inl.inr | inl.inl.inr | inl.inr =>
    rw [depth_of_mem_optionalField h]
    exact Nat.zero_le _
  all_goals exact Nat.zero_le _

/-- A document takes two levels more than its statements. -/
theorem depth_document {d : Document} {n : Nat} (h : ∀ s ∈ d.statements, Body.levels s.body ≤ n) :
    d.toTree.toContent.depth ≤ n + 4 := by
  refine depth_record_le (List.forall_mem_cons.mpr ⟨Nat.zero_le _, ?_⟩)
  refine List.forall_mem_singleton.mpr (depth_list_le fun t ht => ?_)
  obtain ⟨s, hs, rfl⟩ := List.mem_map.mp ht
  exact Nat.le_trans (depth_statement s) (Nat.add_le_add_right (h s hs) 2)

/-! ## Readings of a number of levels -/

/-- Whether what is read as a fragment or as a body takes at most `n` levels. -/
structure Readings.Fits (r : Readings) (n : Nat) : Prop where
  fragment : ∀ f ∈ r.fragment?, f.levels ≤ n
  body : ∀ b ∈ r.body?, Body.levels b + 1 ≤ n

theorem Readings.Fits.mono {r : Readings} {n m : Nat} (h : r.Fits n) (hnm : n ≤ m) : r.Fits m :=
  ⟨fun f hf => Nat.le_trans (h.fragment f hf) hnm, fun b hb => Nat.le_trans (h.body b hb) hnm⟩

theorem levels_of_needed {fields : List (Option Readings)} {n : Nat}
    (h : ∀ r, some r ∈ fields → r.Fits n) {field : Option Readings} (hfield : field ∈ fields)
    {b : Body} (hb : needed (·.body?) field = some b) : Body.levels b + 2 ≤ n + 1 := by
  obtain ⟨r, rfl, hbody⟩ := Option.bind_eq_some_iff.mp hb
  exact Nat.succ_le_succ ((h r hfield).body b hbody)

/-- A fragment takes one level more than its fields. -/
theorem levels_assemble {kind : FragmentKind} {fields : List (Option Readings)} {n : Nat}
    {f : Fragment} (h : ∀ r, some r ∈ fields → r.Fits n) (hf : assemble kind fields = some f) :
    f.levels ≤ n + 1 := by
  unfold assemble at hf
  -- texts take a level of their own at most, so only the body of a kind counts
  split at hf
  case h_1 text =>
    obtain ⟨_, -, hf⟩ := Option.bind_eq_some_iff.mp hf
    cases hf
    exact Nat.le_add_left 1 n
  case h_2 name =>
    obtain ⟨_, -, hf⟩ := Option.bind_eq_some_iff.mp hf
    cases hf
    exact Nat.le_add_left 1 n
  case h_3 test body =>
    obtain ⟨_, -, hf⟩ := Option.bind_eq_some_iff.mp hf
    obtain ⟨inner, hinner, hf⟩ := Option.bind_eq_some_iff.mp hf
    cases hf
    exact levels_of_needed h (by simp) hinner
  case h_4 opening closing openingOverrides closingOverrides body =>
    obtain ⟨_, -, hf⟩ := Option.bind_eq_some_iff.mp hf
    obtain ⟨_, -, hf⟩ := Option.bind_eq_some_iff.mp hf
    obtain ⟨_, -, hf⟩ := Option.bind_eq_some_iff.mp hf
    obtain ⟨_, -, hf⟩ := Option.bind_eq_some_iff.mp hf
    obtain ⟨inner, hinner, hf⟩ := Option.bind_eq_some_iff.mp hf
    cases hf
    exact levels_of_needed h (by simp) hinner
  case h_5 collection item opening separator closing body =>
    obtain ⟨_, -, hf⟩ := Option.bind_eq_some_iff.mp hf
    obtain ⟨_, -, hf⟩ := Option.bind_eq_some_iff.mp hf
    obtain ⟨_, -, hf⟩ := Option.bind_eq_some_iff.mp hf
    obtain ⟨_, -, hf⟩ := Option.bind_eq_some_iff.mp hf
    obtain ⟨_, -, hf⟩ := Option.bind_eq_some_iff.mp hf
    obtain ⟨inner, hinner, hf⟩ := Option.bind_eq_some_iff.mp hf
    cases hf
    exact levels_of_needed h (by simp) hinner
  case h_6 => cases hf

theorem levels_fragmentOfEntries {kindOf : Readings → Option FragmentKind}
    {entries : List (Content × Readings)} {n : Nat} {f : Fragment}
    (h : ∀ e ∈ entries, e.2.Fits n) (hf : fragmentOfEntries kindOf entries = some f) :
    f.levels ≤ n + 1 := by
  unfold fragmentOfEntries at hf
  split at hf
  case h_2 => cases hf
  case h_1 tag htag =>
    obtain ⟨kind, -, hf⟩ := Option.bind_eq_some_iff.mp hf
    obtain ⟨fields, hfields, hf⟩ := Option.bind_eq_some_iff.mp hf
    obtain ⟨places, hplaces, hf⟩ := Option.bind_eq_some_iff.mp hf
    -- what stands at a place is the value of one of the entries
    refine levels_assemble (fun r hr => ?_) hf
    obtain ⟨field, hfield, rfl⟩ := List.mem_map.mp (mem_of_fillPlaces hplaces hr)
    obtain ⟨e, he, hplace⟩ := mem_of_mapM hfields hfield
    obtain ⟨_, -, rfl⟩ := Option.map_eq_some_iff.mp hplace
    exact h e (List.mem_filter.mp he).1

theorem levels_fragmentOfItems {kindOf : Readings → Option FragmentKind} {items : List Readings}
    {n : Nat} {f : Fragment} (h : ∀ r ∈ items, r.Fits n)
    (hf : fragmentOfItems kindOf items = some f) : f.levels ≤ n + 1 := by
  cases items with
  | nil => cases hf
  | cons tag fields =>
    obtain ⟨kind, -, hf⟩ := Option.bind_eq_some_iff.mp hf
    obtain ⟨places, hplaces, hf⟩ := Option.bind_eq_some_iff.mp hf
    exact levels_assemble (fun r hr => h r (.tail _ (mem_of_padPlaces hplaces hr))) hf

/-! ## Readings of a content -/

mutual

/-- What a content is read as takes no more levels than the content. -/
theorem fits_readings (c : Content) : c.readings.Fits c.depth := by
  match c with
  | .null | .flag _ | .natural _ | .number | .text _ => exact ⟨nofun, nofun⟩
  | .list items =>
    have hfits := fits_readingsOfItems items
    refine ⟨fun f hf => levels_fragmentOfItems hfits hf, fun b hb => Nat.succ_le_succ ?_⟩
    refine Body.levels_le_iff.mpr fun f hf => ?_
    obtain ⟨r, hr, hread⟩ := mem_of_mapM hb hf
    exact (hfits r hr).fragment f hread
  | .map entries =>
    exact ⟨fun f hf => levels_fragmentOfEntries (fits_readingsOfEntries entries) hf, nofun⟩

theorem fits_readingsOfItems (items : List Content) :
    ∀ r ∈ Content.readingsOfItems items, r.Fits (depthOfItems items) := by
  match items with
  | [] => exact nofun
  | c :: rest =>
    refine List.forall_mem_cons.mpr ⟨(fits_readings c).mono (Nat.le_max_left _ _), ?_⟩
    exact fun r hr => (fits_readingsOfItems rest r hr).mono (Nat.le_max_right _ _)

theorem fits_readingsOfEntries (entries : List (Content × Content)) :
    ∀ e ∈ Content.readingsOfEntries entries, e.2.Fits (depthOfEntries entries) := by
  match entries with
  | [] => exact nofun
  | (key, c) :: rest =>
    refine List.forall_mem_cons.mpr ⟨(fits_readings c).mono (Nat.le_max_left _ _), ?_⟩
    exact fun e he => (fits_readingsOfEntries rest e he).mono (Nat.le_max_right _ _)

end

/-- A fragment takes no more levels than the content it is read from. -/
theorem levels_fragment {c : Content} {f : Fragment} (h : c.fragment? = some f) :
    f.levels ≤ c.depth := by
  match c with
  | .null | .flag _ | .natural _ | .number | .text _ => cases h
  | .list items =>
    unfold Content.fragment? at h
    exact levels_fragmentOfItems (fits_readingsOfItems items) h
  | .map entries =>
    unfold Content.fragment? at h
    exact levels_fragmentOfEntries (fits_readingsOfEntries entries) h

/-! ## Loaded documents -/

section

variable {α : Type} {s : Source Option α} {n : Nat} {v : α}

theorem levels_of_source_fragment {f : Fragment} (hv : s.Within n v)
    (h : s.fragment v = some f) : f.levels ≤ n := by
  obtain ⟨c, hc, hf⟩ := Option.bind_eq_some_iff.mp h
  have hlevels := levels_fragment hf
  cases n with
  | zero => exact Nat.le_trans hlevels (Nat.le_of_eq (hv.2.2 c hc))
  | succ n => exact Nat.le_trans hlevels (hv.2.2 c hc)

/-- What is read from the items of a list is read one level further in. -/
theorem mem_of_list {β : Type} {read : α → Option β} {bs : List β} (hv : s.Within (n + 1) v)
    (h : s.list read v = some bs) {b : β} (hb : b ∈ bs) : ∃ w, s.Within n w ∧ read w = some b := by
  obtain ⟨vs, hvs, h⟩ := Option.bind_eq_some_iff.mp h
  obtain ⟨w, hw, hread⟩ := mem_of_mapM h hb
  exact ⟨w, hv.1 vs hvs w hw, hread⟩

/-- What is read from the items of a field that may be missing is read two levels further in than
the record. -/
theorem mem_of_list_field {β : Type} {read : α → Option β} {names : List String}
    {fields : List (Option α)} (hv : s.Within (n + 2) v) (hfields : s.fields? names v = some fields)
    {field : Option α} (hfield : field ∈ fields) {bs : List β}
    (h : Source.orDefault [] (s.list read) field = some bs) {b : β} (hb : b ∈ bs) :
    ∃ w, s.Within n w ∧ read w = some b := by
  cases field with
  | none =>
    cases h
    cases hb
  | some w => exact mem_of_list (hv.2.1 names fields hfields w hfield) h hb

/-- A statement has a body two levels further in. -/
theorem levels_of_statement {st : Statement} (hv : s.Within (n + 2) v)
    (h : s.statement v = some st) : Body.levels st.body ≤ n := by
  obtain ⟨fields, hfields, h⟩ := Option.bind_eq_some_iff.mp h
  split at h
  case h_2 => cases h
  case h_1 id kind parameterType resultType keyProperty generated body =>
    obtain ⟨_, -, h⟩ := Option.bind_eq_some_iff.mp h
    obtain ⟨_, -, h⟩ := Option.bind_eq_some_iff.mp h
    obtain ⟨_, -, h⟩ := Option.bind_eq_some_iff.mp h
    obtain ⟨_, -, h⟩ := Option.bind_eq_some_iff.mp h
    obtain ⟨_, -, h⟩ := Option.bind_eq_some_iff.mp h
    obtain ⟨_, -, h⟩ := Option.bind_eq_some_iff.mp h
    obtain ⟨fragments, hbody, h⟩ := Option.bind_eq_some_iff.mp h
    cases h
    refine Body.levels_le_iff.mpr fun f hf => ?_
    obtain ⟨w, hw, hread⟩ := mem_of_list_field hv hfields (by simp) hbody hf
    exact levels_of_source_fragment hw hread

/-- A document has statements two levels further in. -/
theorem levels_of_document {d : Document} (hv : s.Within (n + 4) v) (h : s.document v = some d) :
    ∀ st ∈ d.statements, Body.levels st.body ≤ n := by
  obtain ⟨fields, hfields, h⟩ := Option.bind_eq_some_iff.mp h
  split at h
  case h_2 => cases h
  case h_1 namespaceName statements =>
    obtain ⟨_, -, h⟩ := Option.bind_eq_some_iff.mp h
    obtain ⟨read, hread, h⟩ := Option.bind_eq_some_iff.mp h
    cases h
    intro st hst
    obtain ⟨w, hw, hstatement⟩ := mem_of_list_field hv hfields (by simp) hread hst
    exact levels_of_statement hw hstatement

end

/-- The statements of a document that was loaded are nested four levels less than a layer reads. -/
theorem TextLayer.levels_of_load {l : TextLayer} {n : Nat} (hl : l.Lawful (n + 4)) {text : String}
    {d : Document} (h : l.load? text = some d) : ∀ s ∈ d.statements, Body.levels s.body ≤ n := by
  obtain ⟨v, hv, h⟩ := Option.bind_eq_some_iff.mp h
  exact levels_of_document (hl.refuses text v hv) h

end DerivedQuery.Record
