import DerivedQuery.Proofs.Naming.Decapitalize

/-!
# Names that a capital letter hides

The accessors of a property are named by capitalizing it, and what they access is read off their
names by decapitalizing. The two cancel for most names, but not for all: `xAxis` becomes `XAxis`,
which is taken for an acronym, and a first character such as `ß` or `ı` is not the lower-case form
of its capital. `isRecoverable` looks at the first two characters only, and tells exactly the names
for which the two cancel (`decapitalize_capitalize_iff`).
-/

namespace DerivedQuery.Unicode

namespace Shift

/-- The code points from U+0080 on from which a character may be converted to upper case. -/
def uppercaseDomains : List Stride :=
  (uppercaseExpansions.map fun e => ⟨e.1, e.1, 1⟩) ++ uppercaseShifts.map (·.domain)

/-- What may be converted to upper case is not in upper case. -/
theorem uppercaseDomains_avoid_uppercase :
    Stride.avoid (uppercaseDomains.flatMap Stride.members) uppercaseStrides = true := by
  decide +kernel

/-- What a shift to lower case gives is not in upper case. -/
theorem images_avoid_uppercase :
    Stride.avoid (images lowercaseShifts) (asciiUppercase :: uppercaseStrides) = true := by
  decide +kernel

/-- No shift to upper case gives a line feed. -/
theorem images_avoid_lineFeed : Stride.avoid (images uppercaseShifts) [⟨0xA, 0xA, 1⟩] = true := by
  decide +kernel

end Shift

/-! ## Converting one character -/

theorem isUppercase_of_not_covers {c : Char}
    (h : ∀ d ∈ Shift.asciiUppercase :: uppercaseStrides, ¬d.covers c.toNat = true) :
    isUppercase c = false := by
  obtain ⟨hascii, hother⟩ := List.forall_mem_cons.mp h
  unfold isUppercase
  split
  next hsmall =>
    have hletter : c.isUpper = true → Shift.asciiUppercase.covers c.toNat = true :=
      forall_ascii c hsmall (by decide)
    exact Bool.eq_false_iff.mpr fun hupper => hascii (hletter hupper)
  · exact List.any_eq_false.mpr hother

/-- A capital is its own upper-case form. -/
theorem uppercase_of_isUppercase {c : Char} (h : isUppercase c = true) : uppercase c = [c] := by
  by_cases hascii : c.val < 0x80
  · have hfixed : c.isUpper = true → c.toUpper = c :=
      forall_ascii c hascii (by decide)
    rw [isUppercase_of_ascii hascii] at h
    rw [uppercase_of_ascii hascii, hfixed h]
  · rw [isUppercase, if_neg hascii, Stride.cover, List.any_eq_true] at h
    obtain ⟨u, hu, hcovers⟩ := h
    have happart : ∀ d ∈ Shift.uppercaseDomains, ¬d.covers c.toNat = true := fun d hd hn =>
      Stride.not_covers_of_avoid Shift.uppercaseDomains_avoid_uppercase
        (List.mem_flatMap.mpr ⟨d, hd, Stride.mem_members hn⟩) u hu hcovers
    rw [uppercase, if_neg hascii]
    refine convert_of_clear
      (fun s hs => happart _ (List.mem_append_right _ (List.mem_map_of_mem hs))) fun e he hkey => ?_
    refine happart ⟨e.1, e.1, 1⟩ (List.mem_append_left _ (List.mem_map.mpr ⟨e, he, rfl⟩)) ?_
    exact Stride.covers_iff.mpr ⟨Nat.le_of_eq hkey, Nat.le_of_eq hkey.symm, Nat.mod_one _⟩

/-- What a character is converted to by lower-casing is not in upper case. -/
theorem isUppercase_of_lowercase {c d : Char} (h : lowercase c = [d]) (hne : d ≠ c) :
    isUppercase d = false := by
  by_cases hascii : c.val < 0x80
  · have hletter : c.toLower ≠ c → isUppercase c.toLower = false :=
      forall_ascii c hascii (by decide)
    rw [lowercase_of_ascii hascii] at h
    cases h
    exact hletter hne
  · rw [lowercase, if_neg hascii] at h
    rcases convert_cases lowercaseShifts lowercaseExpansions c with
      ⟨s, hs, hcovers, hshift⟩ | ⟨e, he, -, hexpansion⟩ | hself
    · rw [hshift] at h
      cases h
      exact isUppercase_of_not_covers (Stride.not_covers_of_avoid Shift.images_avoid_uppercase
        (Shift.toNat_mem_images hs hcovers))
    · obtain rfl := List.mem_singleton.mp he
      rw [hexpansion] at h
      cases h
    · rw [hself] at h
      cases h
      exact absurd rfl hne

/-- A character that is not its own upper-case form has one lower-case form. -/
theorem exists_lowercase {c : Char} (h : uppercase c ≠ [c]) : ∃ d, lowercase c = [d] := by
  by_cases hascii : c.val < 0x80
  · exact ⟨_, lowercase_of_ascii hascii⟩
  · rw [lowercase, if_neg hascii]
    rcases convert_cases lowercaseShifts lowercaseExpansions c with
      ⟨s, -, -, hshift⟩ | ⟨e, he, hkey, -⟩ | hself
    · exact ⟨_, hshift⟩
    · obtain rfl := List.mem_singleton.mp he
      have hc : c = Char.ofNat 0x130 := by rw [← Char.ofNat_toNat c, ← hkey]
      exact absurd (by rw [hc]; decide) h
    · exact ⟨_, hself⟩

/-- Upper-casing gives at least one character, and a line feed only for a line feed. -/
theorem uppercase_chars (c : Char) : uppercase c ≠ [] ∧ ('\n' ∈ uppercase c ↔ c = '\n') := by
  by_cases hascii : c.val < 0x80
  · have hfeed : c.toUpper = '\n' ↔ c = '\n' :=
      forall_ascii c hascii (by decide)
    rw [uppercase_of_ascii hascii, List.mem_singleton, eq_comm, hfeed]
    exact ⟨List.cons_ne_nil _ _, .rfl⟩
  · have hne : c ≠ '\n' := fun hc => hascii (by rw [hc]; decide)
    rw [uppercase, if_neg hascii, iff_false_right hne]
    rcases convert_cases uppercaseShifts uppercaseExpansions c with
      ⟨s, hs, hcovers, hshift⟩ | ⟨e, he, -, hexpansion⟩ | hself
    · rw [hshift, List.mem_singleton]
      refine ⟨List.cons_ne_nil _ _, fun himage => ?_⟩
      refine Stride.not_covers_of_avoid Shift.images_avoid_lineFeed
        (Shift.toNat_mem_images hs hcovers) _ (.head _) ?_
      rw [← himage]
      rfl
    · have hexpansions : ∀ e ∈ uppercaseExpansions,
          e.2.map Char.ofNat ≠ [] ∧ '\n' ∉ e.2.map Char.ofNat := by
        decide
      rw [hexpansion]
      exact hexpansions e he
    · rw [hself, List.mem_singleton]
      exact ⟨List.cons_ne_nil _ _, hne.symm⟩

end DerivedQuery.Unicode

namespace DerivedQuery.Naming

open DerivedQuery.Unicode

variable {name : String} {first : Char} {rest : List Char}

theorem toList_capitalize (h : name.toList = first :: rest) :
    (capitalize name).toList = uppercase first ++ rest := by
  rw [capitalize, mapFirst, h]
  exact String.toList_ofList

theorem toList_decapitalize (h : name.toList = first :: rest) :
    (decapitalize name).toList =
      if isUppercase first && rest.head?.any isUppercase then first :: rest
      else lowercase first ++ rest := by
  unfold decapitalize mapFirst
  cases rest with
  | nil => simp [h]
  | cons second rest =>
    by_cases hacronym : (isUppercase first && isUppercase second) = true
    · simp [h, hacronym]
    · simp [h, hacronym]

theorem capitalize_eq_empty : capitalize name = "" ↔ name = "" := by
  cases hname : name.toList with
  | nil =>
    obtain rfl := String.toList_eq_nil_iff.mp hname
    exact iff_of_true rfl rfl
  | cons first rest =>
    have hne : name.toList ≠ [] := by
      rw [hname]
      exact List.cons_ne_nil _ _
    rw [← String.toList_eq_nil_iff, ← String.toList_eq_nil_iff, toList_capitalize hname]
    simp [(uppercase_chars first).1, hne]

theorem lineFeed_mem_capitalize : '\n' ∈ (capitalize name).toList ↔ '\n' ∈ name.toList := by
  cases hname : name.toList with
  | nil =>
    obtain rfl := String.toList_eq_nil_iff.mp hname
    rfl
  | cons first rest =>
    rw [toList_capitalize hname, List.mem_append, (uppercase_chars first).2, List.mem_cons, eq_comm]

/-! ## Undoing a capital letter -/

/-- Whether decapitalizing undoes capitalizing: the first character is a capital already or has one
capital, which has the same lower-case form and makes no acronym with the second character. -/
def isRecoverable (name : String) : Bool :=
  match name.toList with
  | [] => true
  | first :: rest =>
    match uppercase first with
    | [capital] =>
      capital == first || (lowercase capital == lowercase first &&
        !(isUppercase capital && rest.head?.any isUppercase))
    | _ => false

/-- A capitalized name is taken for the property it was made of just in case the first two
characters of the name allow it. -/
theorem decapitalize_capitalize_iff (name : String) :
    decapitalize (capitalize name) = decapitalize name ↔ isRecoverable name = true := by
  cases hname : name.toList with
  | nil =>
    obtain rfl := String.toList_eq_nil_iff.mp hname
    decide
  | cons first rest =>
    have hcapitalized := toList_capitalize hname
    by_cases hself : uppercase first = [first]
    · have hsame : capitalize name = name := by
        rw [← String.toList_inj, hcapitalized, hself, hname, List.singleton_append]
      simp [isRecoverable, hname, hself, hsame]
    · have hfirst : isUppercase first = false :=
        Bool.eq_false_iff.mpr fun h => hself (uppercase_of_isUppercase h)
      have hlower : (decapitalize name).toList = lowercase first ++ rest := by
        rw [toList_decapitalize hname, hfirst]
        rfl
      rw [← String.toList_inj, hlower]
      cases hupper : uppercase first with
      | nil => exact absurd hupper (uppercase_chars first).1
      | cons capital more =>
        rw [hupper, List.cons_append] at hcapitalized
        rw [toList_decapitalize hcapitalized]
        cases more with
        | nil =>
          have hne : capital ≠ first := fun h => hself (by rw [hupper, h])
          simp only [isRecoverable, hname, hupper, beq_false_of_ne hne, Bool.false_or,
            List.nil_append]
          by_cases hacronym : (isUppercase capital && rest.head?.any isUppercase) = true
          · -- taken for an acronym, the name keeps its capital, which is no lower-case form
            rw [if_pos hacronym, hacronym]
            refine iff_of_false (fun hkept => ?_) (by simp)
            have hsmall : [capital] = lowercase first := List.append_cancel_right hkept
            rw [isUppercase_of_lowercase hsmall.symm hne] at hacronym
            cases hacronym
          · rw [if_neg hacronym, List.append_cancel_right_eq, Bool.eq_false_iff.mpr hacronym,
              Bool.not_false, Bool.and_true, beq_iff_eq]
        | cons second more =>
          -- several characters, of which at most the first is converted, do not become one
          refine iff_of_false (fun hkept => ?_) (by simp [isRecoverable, hname, hupper])
          obtain ⟨small, hsmall⟩ := exists_lowercase hself
          obtain ⟨initial, others, hinitial, -⟩ := lowercase_final capital
          have hlength := congrArg List.length hkept
          rw [hsmall, hinitial] at hlength
          split at hlength <;> simp at hlength <;> omega

example : ["name", "URL", "xAxis", "straße", "ßeta", "ısı"].map isRecoverable =
    [true, true, false, true, false, false] := by
  decide

/-- A name that starts with an ASCII character is hidden if it starts with a single small letter. -/
theorem isRecoverable_of_ascii (h : name.toList = first :: rest) (hascii : first.val < 0x80) :
    isRecoverable name = !(first.isLower && rest.head?.any isUppercase) := by
  have hletter : ∀ next : Bool, (first.toUpper == first || (lowercase first.toUpper ==
      lowercase first && !(isUppercase first.toUpper && next))) = !(first.isLower && next) :=
    forall_ascii first hascii (by decide)
  simp only [isRecoverable, h, uppercase_of_ascii hascii]
  exact hletter _

end DerivedQuery.Naming
