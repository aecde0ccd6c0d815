import Mathlib.Data.List.DropRight

/-!
# Words between blanks

A statement is read word by word, and how many blanks stand between two words does not matter.
`blankWords` is a text seen that way. Everything about it follows from one equation,
`blankWords_append_blank`: a blank separates what stands before it from what stands behind it.

The last section is about a text that starts with a given word, which is how a leading connective
is found and taken away.
-/

namespace DerivedQuery

/-- The words of a text: what stands between its blanks. -/
def blankWords (text : List Char) : List (List Char) :=
  (text.splitOn ' ').filter fun word => !word.isEmpty

/-- The text without the blanks at its ends. -/
def trimBlanks (text : List Char) : List Char :=
  (text.dropWhile (· == ' ')).rdropWhile (· == ' ')

@[simp] theorem blankWords_nil : blankWords [] = [] := rfl

/-- A blank separates the words before it from those behind it. -/
theorem blankWords_append_blank (a b : List Char) :
    blankWords (a ++ ' ' :: b) = blankWords a ++ blankWords b := by
  unfold blankWords
  rw [List.splitOn_append_cons_self, List.filter_append]

/-- A blank at the front belongs to no word. -/
@[simp] theorem blankWords_blank_cons (b : List Char) : blankWords (' ' :: b) = blankWords b := by
  simpa using blankWords_append_blank [] b

/-- A blank at the end belongs to no word. -/
@[simp] theorem blankWords_concat_blank (a : List Char) :
    blankWords (a ++ [' ']) = blankWords a := by
  simpa using blankWords_append_blank a []

/-- Words behind a text that they do not run into. -/
theorem blankWords_append {a b : List Char} (h : ∀ c ∈ b.head?, c = ' ') :
    blankWords (a ++ b) = blankWords a ++ blankWords b := by
  cases b with
  | nil => simp
  | cons c b =>
    have hc : c = ' ' := h c (by simp)
    rw [hc, blankWords_append_blank, blankWords_blank_cons]

theorem blankWords_of_not_mem {w : List Char} (hne : w ≠ []) (h : ' ' ∉ w) :
    blankWords w = [w] := by
  unfold blankWords
  rw [List.splitOn_eq_singleton h]
  simp [hne]

/-- A word in front of a text that does not continue it. -/
theorem blankWords_word_append {w b : List Char} (hne : w ≠ []) (hw : ' ' ∉ w)
    (h : ∀ c ∈ b.head?, c = ' ') : blankWords (w ++ b) = w :: blankWords b := by
  rw [blankWords_append h, blankWords_of_not_mem hne hw, List.singleton_append]

/-- The words of texts with blanks between them. -/
theorem blankWords_intercalate (texts : List (List Char)) :
    blankWords ([' '].intercalate texts) = texts.flatMap blankWords := by
  induction texts with
  | nil => simp
  | cons text texts ih =>
    cases texts with
    | nil => simp
    | cons next texts =>
      rw [List.intercalate_cons_cons, List.append_assoc, List.singleton_append,
        blankWords_append_blank, ih]
      rfl

/-- A text that does not start with a blank starts with a word that is set off from the rest. -/
theorem exists_word {t : List Char} (hne : t ≠ []) (h : ∀ c ∈ t.head?, c ≠ ' ') :
    ∃ w r, t = w ++ r ∧ w ≠ [] ∧ ' ' ∉ w ∧ ∀ c ∈ r.head?, c = ' ' := by
  refine ⟨t.takeWhile (· != ' '), t.dropWhile (· != ' '), List.takeWhile_append_dropWhile.symm,
    ?_, ?_, ?_⟩
  · cases t with
    | nil => exact absurd rfl hne
    | cons c t =>
      have hc : c ≠ ' ' := h c (by simp)
      simp [hc]
  · intro hmem
    simpa using List.mem_takeWhile_imp hmem
  · intro c hc
    have := List.head?_dropWhile_not (· != ' ') t
    rw [hc] at this
    simpa using this

theorem blankWords_eq_nil_iff {t : List Char} : blankWords t = [] ↔ ∀ c ∈ t, c = ' ' := by
  induction t with
  | nil => simp
  | cons c t ih =>
    by_cases hc : c = ' '
    · rw [hc, blankWords_blank_cons, ih]
      simp
    · obtain ⟨w, r, ht, hne, hw, hr⟩ :=
        exists_word (t := c :: t) (List.cons_ne_nil c t) (by simpa using hc)
      rw [ht, blankWords_word_append hne hw hr, ← ht]
      simp [hc]

/-! ## The words of a trimmed text -/

theorem head?_trimBlanks {t : List Char} {c : Char} (h : (trimBlanks t).head? = some c) :
    c ≠ ' ' := by
  obtain ⟨after, hafter⟩ := List.rdropWhile_prefix (· == ' ') (l := t.dropWhile (· == ' '))
  have hhead : (t.dropWhile (· == ' ')).head? = some c := by
    rw [trimBlanks] at h
    rw [← hafter, List.head?_append, h, Option.some_or]
  have := List.head?_dropWhile_not (· == ' ') t
  rw [hhead] at this
  simpa using this

theorem getLast?_trimBlanks {t : List Char} {c : Char} (h : (trimBlanks t).getLast? = some c) :
    c ≠ ' ' := by
  have hne : trimBlanks t ≠ [] := by
    intro hnil
    rw [hnil] at h
    cases h
  have hlast := List.rdropWhile_last_not (· == ' ') _ hne
  rw [List.getLast?_eq_some_getLast hne] at h
  intro hc
  exact hlast (beq_iff_eq.mpr ((Option.some.inj h).trans hc))

/-- Blanks at the ends belong to no word. -/
@[simp] theorem blankWords_trimBlanks (t : List Char) :
    blankWords (trimBlanks t) = blankWords t := by
  have hbefore : ∀ (blanks u : List Char), (∀ c ∈ blanks, c = ' ') →
      blankWords (blanks ++ u) = blankWords u := by
    intro blanks u hblanks
    induction blanks with
    | nil => rfl
    | cons c blanks ih =>
      rw [List.cons_append, hblanks c List.mem_cons_self, blankWords_blank_cons]
      exact ih fun d hd => hblanks d (List.mem_cons_of_mem c hd)
  have hafter : ∀ (u blanks : List Char), (∀ c ∈ blanks, c = ' ') →
      blankWords (u ++ blanks) = blankWords u := by
    intro u blanks hblanks
    rw [blankWords_append fun c hc => hblanks c (List.mem_of_mem_head? hc),
      blankWords_eq_nil_iff.mpr hblanks, List.append_nil]
  have hfront := hbefore _ (t.dropWhile (· == ' ')) fun c hc => by
    simpa using List.mem_takeWhile_imp (p := (· == ' ')) (l := t) hc
  have hback := hafter (trimBlanks t) _ fun c hc => by
    simpa using List.mem_rtakeWhile_imp (p := (· == ' ')) (l := t.dropWhile (· == ' ')) hc
  rw [List.takeWhile_append_dropWhile] at hfront
  rw [trimBlanks, List.rdropWhile_append_rtakeWhile] at hback
  rw [hfront, hback, trimBlanks]

theorem trimBlanks_eq_nil_iff {t : List Char} : trimBlanks t = [] ↔ blankWords t = [] := by
  constructor
  · intro h
    rw [← blankWords_trimBlanks, h, blankWords_nil]
  · intro h
    cases hc : (trimBlanks t).head? with
    | none => exact List.head?_eq_none_iff.mp hc
    | some c =>
      rw [← blankWords_trimBlanks] at h
      exact absurd (blankWords_eq_nil_iff.mp h c (List.mem_of_mem_head? hc)) (head?_trimBlanks hc)

/-! ## A word in front -/

/-- What stands behind a word and a blank at the front of a trimmed text has the other words. -/
theorem blankWords_of_word_prefix {t k s : List Char} (hne : k ≠ []) (hk : ' ' ∉ k)
    (h : trimBlanks t = k ++ ' ' :: s) : blankWords t = k :: blankWords s := by
  rw [← blankWords_trimBlanks, h, blankWords_word_append hne hk (by simp), blankWords_blank_cons]

/-- A trimmed text starts with a word and a blank if that is its first word of several. -/
theorem word_prefix_trimBlanks_iff {t k : List Char} (hne : k ≠ []) (hk : ' ' ∉ k) :
    k ++ [' '] <+: trimBlanks t ↔ ∃ next others, blankWords t = k :: next :: others := by
  constructor
  · rintro ⟨s, hs⟩
    rw [List.append_assoc, List.singleton_append] at hs
    have hwords := blankWords_of_word_prefix hne hk hs.symm
    cases hrest : blankWords s with
    | cons next others => exact ⟨next, others, by rw [hwords, hrest]⟩
    | nil =>
      -- blanks only behind the word would be blanks at the end
      have hblank := blankWords_eq_nil_iff.mp hrest
      have hlast : (trimBlanks t).getLast? = some ' ' := by
        rw [← hs, List.getLast?_append, List.getLast?_cons]
        cases hc : s.getLast? with
        | none => rfl
        | some c => simp [hblank c (List.mem_of_getLast? hc)]
      exact absurd rfl (getLast?_trimBlanks hlast)
  · rintro ⟨next, others, hwords⟩
    have hnonempty : trimBlanks t ≠ [] := by
      rw [Ne, trimBlanks_eq_nil_iff, hwords]
      exact List.cons_ne_nil _ _
    obtain ⟨w, r, ht, hwne, hw, hr⟩ := exists_word hnonempty fun c hc => head?_trimBlanks hc
    rw [← blankWords_trimBlanks, ht, blankWords_word_append hwne hw hr, List.cons.injEq] at hwords
    obtain ⟨rfl, hrest⟩ := hwords
    cases r with
    | nil => cases hrest
    | cons c s =>
      rw [hr c (by simp)] at ht
      exact ⟨s, by simp [ht]⟩

end DerivedQuery
