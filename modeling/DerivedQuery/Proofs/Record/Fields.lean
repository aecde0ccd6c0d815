import DerivedQuery.Record.Content
import Mathlib.Data.List.Forall2
import Mathlib.Data.List.Nodup

/-!
# Fields of records

Fields that are written by name are found by name, in whatever order they stand
(`fillPlaces_named`), and what stands at a place of a record is one of the values that were written
(`mem_of_fillPlaces`).
-/

namespace DerivedQuery.Record

variable {α β : Type}

theorem mapM_eq_some_map {f : α → Option β} {g : α → β} {l : List α}
    (h : ∀ a ∈ l, f a = some (g a)) : l.mapM f = some (l.map g) := by
  induction l with
  | nil => rfl
  | cons a l ih =>
    obtain ⟨ha, hl⟩ := List.forall_mem_cons.mp h
    rw [List.mapM_cons, ha, ih hl]
    rfl

/-- What undoes a function on every element of a list undoes it on the list. -/
theorem mapM_map_eq_some {f : β → Option α} {g : α → β} {l : List α}
    (h : ∀ a ∈ l, f (g a) = some a) : (l.map g).mapM f = some l := by
  have hall : l.mapM (f ∘ g) = some (l.map fun a => a) := mapM_eq_some_map h
  rw [List.mapM_map, hall, List.map_id']

/-- Values that are each read as the item at their place are read as the items. -/
theorem mapM_of_forall₂ {f : β → Option α} {as : List α} {bs : List β}
    (h : List.Forall₂ (fun a b => f b = some a) as bs) : bs.mapM f = some as := by
  induction h with
  | nil => rfl
  | cons hfirst _ ih =>
    rw [List.mapM_cons, hfirst, ih]
    rfl

theorem mem_of_mapM {f : α → Option β} {l : List α} {bs : List β} (h : l.mapM f = some bs)
    {b : β} (hb : b ∈ bs) : ∃ a ∈ l, f a = some b := by
  induction l generalizing bs with
  | nil =>
    cases h
    cases hb
  | cons a l ih =>
    rw [List.mapM_cons] at h
    obtain ⟨first, hfirst, h⟩ := Option.bind_eq_some_iff.mp h
    obtain ⟨rest, hrest, h⟩ := Option.bind_eq_some_iff.mp h
    cases h
    rcases List.mem_cons.mp hb with rfl | hb
    · exact ⟨a, .head _, hfirst⟩
    · obtain ⟨c, hc, hread⟩ := ih hrest hb
      exact ⟨c, .tail _ hc, hread⟩

/-- Of fields with different names there is at most one of a name. -/
theorem filter_name {fields : List (String × α)} (h : (fields.map (·.1)).Nodup) (name : String) :
    fields.filter (·.1 == name) = ((fields.lookup name).map ((name, ·))).toList := by
  induction fields with
  | nil => rfl
  | cons f fields ih =>
    obtain ⟨other, v⟩ := f
    rw [List.map_cons, List.nodup_cons] at h
    by_cases hname : other = name
    · subst hname
      have hrest : fields.filter (·.1 == other) = [] := by
        refine List.filter_eq_nil_iff.mpr fun g hg hother => h.1 ?_
        rw [← eq_of_beq hother]
        exact List.mem_map.mpr ⟨g, hg, rfl⟩
      simp [hrest]
    · have hother : (name == other) = false := by simpa using Ne.symm hname
      simp [List.lookup_cons, hname, hother, ih h.2]

/-- What becomes of the values of fields does not change their names. -/
theorem lookup_map_snd (g : α → β) (fields : List (String × α)) (name : String) :
    (fields.map fun f => (f.1, g f.2)).lookup name = (fields.lookup name).map g := by
  induction fields with
  | nil => rfl
  | cons f fields ih =>
    rw [List.map_cons, List.lookup_cons, List.lookup_cons, ih]
    split <;> rfl

/-- Fields that are written by name are found at the places of their names. -/
theorem fillPlaces_named {names : List String} {fields : List (String × α)}
    (hnames : names.Nodup) (hfields : (fields.map (·.1)).Nodup) :
    fillPlaces names.length (fields.map fun f => (names.idxOf? f.1, f.2)) =
      some (names.map fun name => fields.lookup name) := by
  have hall : (List.range names.length).map
      (fun place => names[place]?.bind fun name => fields.lookup name) =
        names.map fun name => fields.lookup name := by
    refine List.ext_getElem (by simp) fun place hleft hright => ?_
    have hlt : place < names.length := by simpa using hright
    simp [List.getElem?_eq_getElem hlt]
  unfold fillPlaces
  rw [← hall]
  refine mapM_eq_some_map fun place hmem => ?_
  have hlt : place < names.length := List.mem_range.mp hmem
  -- as the names are different, only the name at the place has the place as its index
  have hname : ∀ f : String × α, (names.idxOf? f.1 == some place) = (f.1 == names[place]) := by
    intro f
    rw [Bool.eq_iff_iff, beq_iff_eq, beq_iff_eq, List.idxOf?_eq_some_iff]
    constructor
    · rintro ⟨_, hfound, -⟩
      exact hfound.symm
    · rintro hfound
      refine ⟨hlt, hfound.symm, fun earlier hearlier hsame => ?_⟩
      have hindex := (List.Nodup.getElem_inj_iff hnames).mp (hsame.trans hfound)
      omega
  have hfilter : (fields.map fun f => (names.idxOf? f.1, f.2)).filter (·.1 == some place) =
      (fields.filter (·.1 == names[place])).map fun f => (names.idxOf? f.1, f.2) := by
    rw [List.filter_map]
    exact congrArg _ (List.filter_congr fun f _ => hname f)
  rw [hfilter, filter_name hfields, List.getElem?_eq_getElem hlt, Option.bind_some]
  cases fields.lookup names[place] <;> rfl

/-- What stands at a place is one of the values. -/
theorem mem_of_fillPlaces {count : Nat} {values : List (Option Nat × α)}
    {places : List (Option α)} (h : fillPlaces count values = some places) {v : α}
    (hv : some v ∈ places) : v ∈ values.map (·.2) := by
  obtain ⟨place, -, hplace⟩ := mem_of_mapM h hv
  split at hplace
  · cases hplace
  next found hfilter =>
    cases hplace
    have hmem : found ∈ values.filter (·.1 == some place) := by
      rw [hfilter]
      exact .head _
    exact List.mem_map_of_mem (List.mem_filter.mp hmem).1
  · cases hplace

theorem mem_of_padPlaces {count : Nat} {values : List α} {places : List (Option α)}
    (h : padPlaces count values = some places) {v : α} (hv : some v ∈ places) : v ∈ values := by
  unfold padPlaces at h
  split at h
  · cases h
    simpa using hv
  · cases h

end DerivedQuery.Record
