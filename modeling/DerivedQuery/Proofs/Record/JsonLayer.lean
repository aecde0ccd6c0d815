import DerivedQuery.Proofs.Json.Printed
import DerivedQuery.Proofs.Record.Layer

/-!
# JSON as a lawful text layer

JSON texts are read down to `jsonLevels` levels: what is written with no more of them is read back,
and what is nested deeper is refused (`lawful_jsonLayer`).
-/

namespace DerivedQuery.Record

open Content.depth

/-! ## Written trees -/

theorem itemsToJson_eq_map (items : List Tree) :
    Tree.itemsToJson items = items.map Tree.toJson := by
  induction items with
  | nil => rfl
  | cons t items ih => rw [Tree.itemsToJson, ih, List.map_cons]

theorem fieldsToJson_eq_map (fields : List (String × Tree)) :
    Tree.fieldsToJson fields = fields.map fun f => (Json.encode f.1, f.2.toJson) := by
  induction fields with
  | nil => rfl
  | cons f fields ih => rw [Tree.fieldsToJson, ih, List.map_cons]

mutual

/-- Trees are written with texts and flags alone. -/
theorem written_toJson (t : Tree) : t.toJson.Written := by
  match t with
  | .text value => exact .text value
  | .flag value => exact .bool value
  | .list items => exact .array (written_itemsToJson items)
  | .record fields =>
    refine .object ?_ (written_fieldsToJson fields)
    intro m hm
    rw [fieldsToJson_eq_map] at hm
    obtain ⟨f, -, rfl⟩ := List.mem_map.mp hm
    exact ⟨f.1, rfl⟩

theorem written_itemsToJson (items : List Tree) : ∀ v ∈ Tree.itemsToJson items, v.Written := by
  match items with
  | [] => exact List.forall_mem_nil _
  | t :: rest => exact List.forall_mem_cons.mpr ⟨written_toJson t, written_itemsToJson rest⟩

theorem written_fieldsToJson (fields : List (String × Tree)) :
    ∀ m ∈ Tree.fieldsToJson fields, m.2.Written := by
  match fields with
  | [] => exact List.forall_mem_nil _
  | (_, t) :: rest => exact List.forall_mem_cons.mpr ⟨written_toJson t, written_fieldsToJson rest⟩

end

mutual

/-- What is written as JSON has the content of the tree. -/
theorem contentOfJson_toJson (t : Tree) : contentOfJson? t.toJson = some t.toContent := by
  match t with
  | .text value =>
    show (Json.decode? (Json.encode value)).map Content.text = _
    rw [Json.decode_encode]
    rfl
  | .flag value => rfl
  | .list items =>
    rw [Tree.toJson, contentOfJson?, contentOfItems_itemsToJson items]
    rfl
  | .record fields =>
    rw [Tree.toJson, contentOfJson?, contentOfMembers_fieldsToJson fields]
    rfl

theorem contentOfItems_itemsToJson (items : List Tree) :
    contentOfItems? (Tree.itemsToJson items) = some (Tree.itemsToContents items) := by
  match items with
  | [] => rfl
  | t :: rest =>
    rw [Tree.itemsToJson, contentOfItems?, contentOfJson_toJson t, contentOfItems_itemsToJson rest]
    rfl

theorem contentOfMembers_fieldsToJson (fields : List (String × Tree)) :
    contentOfMembers? (Tree.fieldsToJson fields) = some (Tree.fieldsToContents fields) := by
  match fields with
  | [] => rfl
  | (name, t) :: rest =>
    rw [Tree.fieldsToJson, contentOfMembers?, Json.decode_encode, contentOfJson_toJson t,
      contentOfMembers_fieldsToJson rest]
    rfl

end

theorem depth_contentOfNumber {literal : String} {c : Content}
    (h : contentOfNumber? literal = some c) : c.depth = 0 := by
  unfold contentOfNumber? at h
  dsimp only at h
  split at h
  · cases h
    rfl
  · generalize (if literal.toList.head? = some '-' then _ else _) = unsigned at h
    split at h
    · cases h
      rfl
    · cases h

mutual

/-- A content is nested as deeply as the value it was taken from. -/
theorem depth_contentOfJson {c : Content} (v : Json) (h : contentOfJson? v = some c) :
    v.depth = c.depth := by
  match v with
  | .null | .bool _ =>
    cases h
    rfl
  | .number literal => exact (depth_contentOfNumber h).symm
  | .string literal =>
    obtain ⟨text, -, rfl⟩ := Option.map_eq_some_iff.mp h
    rfl
  | .array items =>
    obtain ⟨contents, hcontents, rfl⟩ := Option.map_eq_some_iff.mp h
    exact congrArg Nat.succ (depth_contentOfItems items hcontents)
  | .object members =>
    obtain ⟨entries, hentries, rfl⟩ := Option.map_eq_some_iff.mp h
    exact congrArg Nat.succ (depth_contentOfMembers members hentries)

theorem depth_contentOfItems {contents : List Content} (items : List Json)
    (h : contentOfItems? items = some contents) :
    Json.depth.depthOfItems items = depthOfItems contents := by
  match items with
  | [] =>
    cases h
    rfl
  | v :: rest =>
    obtain ⟨c, hc, h⟩ := Option.bind_eq_some_iff.mp h
    obtain ⟨others, hothers, h⟩ := Option.bind_eq_some_iff.mp h
    cases h
    rw [Json.depth.depthOfItems, depthOfItems, depth_contentOfJson v hc,
      depth_contentOfItems rest hothers]

theorem depth_contentOfMembers {entries : List (Content × Content)} (members : List (String × Json))
    (h : contentOfMembers? members = some entries) :
    Json.depth.depthOfMembers members = depthOfEntries entries := by
  match members with
  | [] =>
    cases h
    rfl
  | (name, v) :: rest =>
    obtain ⟨key, -, h⟩ := Option.bind_eq_some_iff.mp h
    obtain ⟨c, hc, h⟩ := Option.bind_eq_some_iff.mp h
    obtain ⟨others, hothers, h⟩ := Option.bind_eq_some_iff.mp h
    cases h
    rw [Json.depth.depthOfMembers, depthOfEntries, depth_contentOfJson v hc,
      depth_contentOfMembers rest hothers]

end

/-! ## What is written is read back -/

theorem text_toJson (levels : Nat) (value : String) :
    jsonSource.text? ⟨levels, (Tree.text value).toJson⟩ = some value :=
  Json.decode_encode value

theorem content_toJson {t : Tree} {levels : Nat} (h : t.toContent.depth ≤ levels) :
    jsonSource.content? ⟨levels, t.toJson⟩ = some t.toContent := by
  have hcontent := contentOfJson_toJson t
  show (if t.toJson.depth ≤ levels then contentOfJson? t.toJson else none) = _
  rw [if_pos (depth_contentOfJson _ hcontent ▸ h), hcontent]

/-- The fields of a written record are found by their names, one level further in. -/
theorem fields_toJson {names : List String} (hnames : names.Nodup) {fields : List (String × Tree)}
    (hfields : (fields.map (·.1)).Nodup) (levels : Nat) :
    jsonSource.fields? names ⟨levels + 1, (Tree.record fields).toJson⟩ =
      some (names.map fun name => ((fields.map (·.1)).zip
        (fields.map fun f => JsonPlace.mk levels f.2.toJson)).lookup name) := by
  have hplaced : (Tree.fieldsToJson fields).mapM (fun (m : String × Json) => do
      return (names.idxOf? (← Json.decode? m.1), JsonPlace.mk levels m.2)) =
      some (fields.map fun f => (names.idxOf? f.1, JsonPlace.mk levels f.2.toJson)) := by
    rw [fieldsToJson_eq_map, List.mapM_map]
    refine mapM_eq_some_map fun f _ => ?_
    simp only [Function.comp_apply, Json.decode_encode]
    rfl
  have hkeys : (fields.map fun f => (f.1, JsonPlace.mk levels f.2.toJson)).map (·.1) =
      fields.map (·.1) := by
    rw [List.map_map]
    rfl
  have hfill := fillPlaces_named hnames (hkeys ▸ hfields)
  rw [List.map_map] at hfill
  rw [List.zip_map']
  show Option.bind ((Tree.fieldsToJson fields).mapM fun m : String × Json => do
    return (names.idxOf? (← Json.decode? m.1), JsonPlace.mk levels m.2)) _ = _
  rw [hplaced]
  exact hfill

mutual

/-- What is written as JSON shows the tree, if there are levels enough to read it. -/
theorem shows_toJson (t : Tree) {levels : Nat} (h : t.toContent.depth ≤ levels) :
    jsonSource.Shows t ⟨levels, t.toJson⟩ := by
  match t, levels with
  | .text value, levels => exact .text (text_toJson levels value) (text_toJson levels value) rfl
  | .flag value, levels => exact .flag rfl
  | .list items, n + 1 =>
    refine .list ?_ (shows_itemsToJson items (Nat.le_of_succ_le_succ h))
    show some ((Tree.itemsToJson items).map (JsonPlace.mk n ·)) = _
    rw [itemsToJson_eq_map, List.map_map]
    rfl
  | .record fields, n + 1 =>
    exact .record (content_toJson h) (shows_fieldsToJson fields (Nat.le_of_succ_le_succ h))
      fun names hnames hfields => fields_toJson hnames hfields n

theorem shows_itemsToJson (items : List Tree) {n : Nat}
    (h : depthOfItems (Tree.itemsToContents items) ≤ n) :
    List.Forall₂ jsonSource.Shows items (items.map fun t => JsonPlace.mk n t.toJson) := by
  match items with
  | [] => exact .nil
  | t :: rest =>
    obtain ⟨ht, hrest⟩ := Nat.max_le.mp h
    exact .cons (shows_toJson t ht) (shows_itemsToJson rest hrest)

theorem shows_fieldsToJson (fields : List (String × Tree)) {n : Nat}
    (h : depthOfEntries (Tree.fieldsToContents fields) ≤ n) :
    List.Forall₂ jsonSource.Shows (fields.map (·.2))
      (fields.map fun f => JsonPlace.mk n f.2.toJson) := by
  match fields with
  | [] => exact .nil
  | (_, t) :: rest =>
    obtain ⟨ht, hrest⟩ := Nat.max_le.mp h
    exact .cons (shows_toJson t ht) (shows_fieldsToJson rest hrest)

end

/-! ## What is nested deeper is refused -/

theorem levels_of_items {p : JsonPlace} {items : List JsonPlace} (h : p.items? = some items)
    {item : JsonPlace} (hitem : item ∈ items) : item.levels + 1 = p.levels := by
  unfold JsonPlace.items? at h
  split at h
  next hlevels _ =>
    cases h
    obtain ⟨v, -, rfl⟩ := List.mem_map.mp hitem
    exact hlevels.symm
  next => cases h

theorem levels_of_fields {names : List String} {p : JsonPlace} {fields : List (Option JsonPlace)}
    (h : p.fields? names = some fields) {field : JsonPlace} (hfield : some field ∈ fields) :
    field.levels + 1 = p.levels := by
  unfold JsonPlace.fields? at h
  split at h
  next hlevels _ =>
    obtain ⟨placed, hplaced, h⟩ := Option.bind_eq_some_iff.mp h
    obtain ⟨value, hvalue, rfl⟩ := List.mem_map.mp (mem_of_fillPlaces h hfield)
    obtain ⟨m, -, hread⟩ := mem_of_mapM hplaced hvalue
    obtain ⟨name, -, hread⟩ := Option.bind_eq_some_iff.mp hread
    cases hread
    exact hlevels.symm
  next hlevels _ =>
    obtain ⟨v, -, rfl⟩ := List.mem_map.mp (mem_of_padPlaces h hfield)
    exact hlevels.symm
  next => cases h

theorem depth_of_content {p : JsonPlace} {c : Content} (h : p.content? = some c) :
    c.depth ≤ p.levels := by
  unfold JsonPlace.content? at h
  split at h
  next hdepth => exact depth_contentOfJson p.value h ▸ hdepth
  next => cases h

/-- No more levels are entered than a place has left. -/
theorem within_place {n : Nat} {p : JsonPlace} (h : p.levels = n) : jsonSource.Within n p := by
  induction n generalizing p with
  | zero =>
    obtain ⟨levels, v⟩ := p
    obtain rfl : levels = 0 := h
    refine ⟨?_, fun names => ?_, fun c hc => Nat.le_zero.mp (depth_of_content hc)⟩
    · cases v <;> rfl
    · cases v <;> rfl
  | succ n ih =>
    refine ⟨fun items hitems item hitem => ih ?_, fun names fields hfields field hfield => ih ?_,
      fun c hc => h ▸ depth_of_content hc⟩
    · exact Nat.succ.inj ((levels_of_items hitems hitem).trans h)
    · exact Nat.succ.inj ((levels_of_fields hfields hfield).trans h)

/-- **JSON is a lawful text layer.** -/
theorem lawful_jsonLayer : jsonLayer.Lawful jsonLevels where
  reads overLines t h := by
    refine ⟨⟨jsonLevels, t.toJson⟩, ?_, shows_toJson t h⟩
    show (Json.read? (t.toJson.print overLines)).map _ = _
    rw [Json.read_print (written_toJson t) overLines]
    rfl
  refuses text v h := by
    obtain ⟨value, -, rfl⟩ := Option.map_eq_some_iff.mp h
    exact within_place rfl

end DerivedQuery.Record
