import DerivedQuery.Naming.Camel

/-!
# Lower case is final

A name that has been decapitalized stays as it is when it is decapitalized again
(`decapitalize_decapitalize`). For a leading acronym that is clear; for another first character it
is a fact about the tables: what a character is converted to is not converted any further
(`lowercase_final`). The tables have some thousand code points, so they are not compared one by
one: the binary digits of one number tell which code points a table has (`Stride.mask`), and a code
point of another table is looked up among them (`Stride.avoid`).
-/

namespace DerivedQuery.Unicode

namespace Stride

theorem covers_iff {d : Stride} {n : Nat} :
    d.covers n = true ↔ d.first ≤ n ∧ n ≤ d.last ∧ (n - d.first) % d.step = 0 := by
  simp only [covers, Bool.and_eq_true, decide_eq_true_eq, beq_iff_eq, and_assoc]

/-- The members of a stride. -/
def members (d : Stride) : List Nat :=
  (List.range ((d.last - d.first) / d.step + 1)).map fun k => d.first + d.step * k

theorem mem_members {d : Stride} {n : Nat} (h : d.covers n = true) : n ∈ d.members := by
  obtain ⟨hfirst, hlast, hstep⟩ := covers_iff.mp h
  have hmultiple : d.step * ((n - d.first) / d.step) = n - d.first :=
    Nat.mul_div_cancel' (Nat.dvd_of_mod_eq_zero hstep)
  refine List.mem_map.mpr ⟨(n - d.first) / d.step, List.mem_range.mpr ?_, ?_⟩
  · exact Nat.lt_succ_of_le (Nat.div_le_div_right (Nat.sub_le_sub_right hlast _))
  · rw [hmultiple, Nat.add_sub_cancel' hfirst]

/-- The number that has the members of some strides as the places of its binary digits 1. -/
def mask (strides : List Stride) : Nat :=
  (strides.flatMap members).foldl (fun mask n => mask ||| 1 <<< n) 0

theorem testBit_mask {strides : List Stride} {d : Stride} (hd : d ∈ strides) {n : Nat}
    (hn : d.covers n = true) : (mask strides).testBit n = true := by
  have hmem : n ∈ strides.flatMap members := List.mem_flatMap.mpr ⟨d, hd, mem_members hn⟩
  have hfold : ∀ (ns : List Nat) (start : Nat), start.testBit n = true ∨ n ∈ ns →
      (ns.foldl (fun mask n => mask ||| 1 <<< n) start).testBit n = true := by
    intro ns
    induction ns with
    | nil => exact fun start h => h.resolve_right List.not_mem_nil
    | cons k ns ih =>
      intro start h
      rw [List.foldl_cons]
      refine ih _ ?_
      rw [Nat.testBit_or, Bool.or_eq_true]
      rcases h with hstart | hmem
      · exact .inl (.inl hstart)
      · rcases List.mem_cons.mp hmem with rfl | hmem
        · exact .inl (.inr (by simp))
        · exact .inr hmem
  exact hfold _ _ (.inr hmem)

/-- Whether no number of a list is a member of some strides. -/
def avoid (ns : List Nat) (strides : List Stride) : Bool := ns.all fun n => !(mask strides).testBit n

theorem not_covers_of_avoid {ns : List Nat} {strides : List Stride} (h : avoid ns strides = true)
    {n : Nat} (hn : n ∈ ns) : ∀ d ∈ strides, ¬d.covers n = true := by
  intro d hd hcovers
  have hnot := List.all_eq_true.mp h n hn
  rw [testBit_mask hd hcovers] at hnot
  cases hnot

end Stride

namespace Shift

/-- The code points that a shift gives, and 0, which stands for what is none. -/
def images (shifts : List Shift) : List Nat :=
  0 :: shifts.flatMap fun s => s.domain.members.map fun n => s.image + (n - s.domain.first)

theorem toNat_mem_images {shifts : List Shift} {s : Shift} (hs : s ∈ shifts) {n : Nat}
    (hn : s.domain.covers n = true) :
    (Char.ofNat (s.image + (n - s.domain.first))).toNat ∈ images shifts := by
  by_cases hvalid : (s.image + (n - s.domain.first)).isValidChar
  · have himage : (Char.ofNat (s.image + (n - s.domain.first))).toNat =
        s.image + (n - s.domain.first) := by
      rw [Char.ofNat, dif_pos hvalid]
      rfl
    rw [himage]
    exact .tail _ (List.mem_flatMap.mpr ⟨s, hs, List.mem_map_of_mem (Stride.mem_members hn)⟩)
  · rw [Char.ofNat, dif_neg hvalid]
    exact .head _

/-- The code points of the upper-case ASCII letters. -/
def asciiUppercase : Stride := ⟨0x41, 0x5A, 1⟩

/-- The code points from which a character may be converted to lower case. -/
def lowercaseDomains : List Stride :=
  asciiUppercase :: (lowercaseExpansions.map fun e => ⟨e.1, e.1, 1⟩) ++
    lowercaseShifts.map (·.domain)

/-- No image of a shift to lower case is converted itself. -/
theorem images_avoid_lowercaseDomains :
    Stride.avoid (images lowercaseShifts) lowercaseDomains = true := by
  decide +kernel

end Shift

/-- A character is converted by a shift or an expansion of the tables, or not at all. -/
theorem convert_cases (shifts : List Shift) (expansions : List (Nat × List Nat)) (c : Char) :
    (∃ s ∈ shifts, s.domain.covers c.toNat = true ∧ convert shifts expansions c =
      [Char.ofNat (s.image + (c.toNat - s.domain.first))]) ∨
    (∃ e ∈ expansions, e.1 = c.toNat ∧ convert shifts expansions c = e.2.map Char.ofNat) ∨
    convert shifts expansions c = [c] := by
  unfold convert
  cases happly : Shift.apply? shifts c.toNat with
  | some image =>
    obtain ⟨s, hs, rfl⟩ := Option.map_eq_some_iff.mp happly
    have hcovers := List.find?_some hs
    exact .inl ⟨s, List.mem_of_find?_eq_some hs, hcovers, rfl⟩
  | none =>
    cases hlookup : expansions.lookup c.toNat with
    | some ns =>
      obtain ⟨before, after, rfl, -⟩ := List.lookup_eq_some_iff.mp hlookup
      exact .inr (.inl ⟨_, List.mem_append_right _ (.head _), rfl, rfl⟩)
    | none => exact .inr (.inr rfl)

theorem convert_of_clear {shifts : List Shift} {expansions : List (Nat × List Nat)} {c : Char}
    (hshifts : ∀ s ∈ shifts, ¬s.domain.covers c.toNat = true)
    (hexpansions : ∀ e ∈ expansions, e.1 ≠ c.toNat) : convert shifts expansions c = [c] := by
  rcases convert_cases shifts expansions c with ⟨s, hs, hcovers, -⟩ | ⟨e, he, hkey, -⟩ | hself
  · exact absurd hcovers (hshifts s hs)
  · exact absurd hkey (hexpansions e he)
  · exact hself

/-- A character that nothing converts is its own lower-case form. -/
theorem lowercase_of_clear {c : Char}
    (h : ∀ d ∈ Shift.lowercaseDomains, ¬d.covers c.toNat = true) : lowercase c = [c] := by
  unfold lowercase
  split
  · have hletter : ¬(c.val ≥ 'A'.val ∧ c.val ≤ 'Z'.val) := fun ⟨hfirst, hlast⟩ =>
      h Shift.asciiUppercase (.head _) (Stride.covers_iff.mpr
        ⟨UInt32.le_iff_toNat_le.mp hfirst, UInt32.le_iff_toNat_le.mp hlast, Nat.mod_one _⟩)
    have hself : c.toLower = c := dif_neg hletter
    rw [hself]
  · refine convert_of_clear
      (fun s hs => h _ (List.mem_append_right _ (List.mem_map_of_mem hs))) fun e he hkey => ?_
    refine h ⟨e.1, e.1, 1⟩ (List.mem_append_left _ (.tail _ (List.mem_map.mpr ⟨e, he, rfl⟩))) ?_
    exact Stride.covers_iff.mpr ⟨Nat.le_of_eq hkey, Nat.le_of_eq hkey.symm, Nat.mod_one _⟩

/-- What can be checked of every ASCII character holds of all. -/
@[elab_as_elim]
theorem forall_ascii {P : Char → Prop} (c : Char) (hascii : c.val < 0x80)
    (h : ∀ n : Fin 128, P (Char.ofNat n)) : P c := by
  have hc := h ⟨c.toNat, UInt32.lt_iff_toNat_lt.mp hascii⟩
  rwa [Char.ofNat_toNat] at hc

/-- What a character is converted to starts with a character that is not converted. -/
theorem lowercase_final (c : Char) : ∃ d ds, lowercase c = d :: ds ∧ lowercase d = [d] := by
  by_cases hascii : c.val < 0x80
  · obtain ⟨hval, hself⟩ : c.toLower.val < 0x80 ∧ c.toLower.toLower = c.toLower :=
      forall_ascii c hascii (by decide)
    exact ⟨c.toLower, [], lowercase_of_ascii hascii, by rw [lowercase_of_ascii hval, hself]⟩
  · have hconvert : lowercase c = convert lowercaseShifts lowercaseExpansions c := if_neg hascii
    rcases convert_cases lowercaseShifts lowercaseExpansions c with
      ⟨s, hs, hcovers, hshift⟩ | ⟨e, he, -, hexpansion⟩ | hself
    · refine ⟨_, [], by rw [hconvert, hshift], lowercase_of_clear ?_⟩
      exact Stride.not_covers_of_avoid Shift.images_avoid_lowercaseDomains
        (Shift.toNat_mem_images hs hcovers)
    · -- the one character with a lower-case form of several
      obtain rfl := List.mem_singleton.mp he
      exact ⟨'i', [Char.ofNat 0x307], by rw [hconvert, hexpansion]; rfl, rfl⟩
    · exact ⟨c, [], by rw [hconvert, hself], by rw [hconvert, hself]⟩

end DerivedQuery.Unicode

namespace DerivedQuery.Naming

open DerivedQuery.Unicode

/-- A name that starts in lower case is decapitalized. -/
theorem decapitalize_of_lowercase {name : String} {first : Char} {rest : List Char}
    (hname : name.toList = first :: rest) (hfirst : lowercase first = [first]) :
    decapitalize name = name := by
  have hmap : mapFirst lowercase name = name := by
    rw [mapFirst, hname]
    show String.ofList (lowercase first ++ rest) = name
    rw [hfirst, List.singleton_append, ← hname, String.ofList_toList]
  unfold decapitalize
  split
  · split
    · rfl
    · exact hmap
  · exact hmap

/-- Decapitalizing twice is decapitalizing once. -/
theorem decapitalize_decapitalize (name : String) :
    decapitalize (decapitalize name) = decapitalize name := by
  have hcases : decapitalize name = name ∨ decapitalize name = mapFirst lowercase name := by
    unfold decapitalize
    split
    · split
      · exact .inl rfl
      · exact .inr rfl
    · exact .inr rfl
  rcases hcases with h | h
  · rw [h, h]
  · rw [h]
    cases hname : name.toList with
    | nil =>
      rw [mapFirst, hname]
      rfl
    | cons c rest =>
      obtain ⟨d, ds, hlower, hfinal⟩ := lowercase_final c
      have hstart : (mapFirst lowercase name).toList = d :: (ds ++ rest) := by
        rw [mapFirst, hname]
        show (String.ofList (lowercase c ++ rest)).toList = _
        rw [hlower, String.toList_ofList, List.cons_append]
      exact decapitalize_of_lowercase hstart hfinal

end DerivedQuery.Naming
