import DerivedQuery.MethodName.Token
import Mathlib.Computability.Language

/-!
# The grammar of method names

The grammar as a language over kinds of tokens, one definition for each of its rules:

    Phrase     := Operation All? Selective? (By Condition)? (OrderBy SortPhrase+)?
    Condition  := Group (Or Group)*
    Group      := Selective? Term (And Term)*
    Term       := Path Comparator? Selective?
    Path       := Segment (_ Segment)*
    SortPhrase := Path (Asc | Desc)?

A `Place` is all that has to be remembered of the tokens read so far to know which kind of token
can follow. The main statement is one half of that:

> `run_of_mem_sentence`: every sentence of the grammar can be read to its end.

So a place without a step for a token is one where no sentence goes on with that token
(`not_viable_of_run_eq_none`).
-/

namespace DerivedQuery.MethodName

open DerivedQuery
open scoped Computability

namespace Grammar

/-! ## The rules -/

/-- A single token of a kind. -/
def token (kind : TokenKind) : Language TokenKind := {[kind]}

/-- A part that may be left out. -/
def atMostOne (part : Language TokenKind) : Language TokenKind := 1 + part

/-- One item or more with a separator between each two. -/
def separatedBy (separator item : Language TokenKind) : Language TokenKind :=
  item * (separator * item)∗

/-- An operation. -/
def operation : Language TokenKind := {w | ∃ op, w = [.operation op]}

/-- A comparator. -/
def comparator : Language TokenKind := {w | ∃ c, w = [.comparator c]}

/-- A property path. -/
def path : Language TokenKind := separatedBy (token .pathSeparator) (token .property)

/-- A condition on one property. -/
def term : Language TokenKind := path * atMostOne comparator * atMostOne (token .selective)

/-- Terms that hold together. -/
def group : Language TokenKind :=
  atMostOne (token .selective) * separatedBy (token .and) term

/-- Groups of which one holds. -/
def condition : Language TokenKind := separatedBy (token .or) group

/-- A sort key. -/
def sortPhrase : Language TokenKind := path * atMostOne (token .asc + token .desc)

/-- One sort key or more. -/
def order : Language TokenKind := sortPhrase * sortPhrase∗

/-- A complete phrase. -/
def phrase : Language TokenKind :=
  operation * atMostOne (token .all) * atMostOne (token .selective) *
    atMostOne (token .by * condition) * atMostOne (token .orderBy * order)

/-- A phrase with the end of the name behind it. -/
def sentence : Language TokenKind := phrase * token .eof

/-! ## Continuing what has been read -/

/-- Whether tokens can be continued to a word of a language. -/
def Viable (l : Language TokenKind) (u : List TokenKind) : Prop := ∃ v, u ++ v ∈ l

section Viable

variable {l m : Language TokenKind} {u v : List TokenKind}

theorem Viable.of_mem (h : u ∈ l) : Viable l u := ⟨[], by rwa [List.append_nil]⟩

/-- The start of tokens that can be continued can be continued. -/
theorem Viable.shorten (h : Viable l v) (hu : u <+: v) : Viable l u := by
  obtain ⟨w, hw⟩ := h
  obtain ⟨x, rfl⟩ := hu
  exact ⟨x ++ w, by rwa [← List.append_assoc]⟩

/-- What can be continued to the first part of two can be continued to both parts. -/
theorem Viable.mul_left (h : Viable l u) (hm : v ∈ m) : Viable (l * m) u := by
  obtain ⟨w, hw⟩ := h
  exact ⟨w ++ v, by rw [← List.append_assoc]; exact Language.append_mem_mul hw hm⟩

/-- Behind a first part, what can be continued to the second can be continued to both parts. -/
theorem Viable.mul_right (hu : u ∈ l) (h : Viable m v) : Viable (l * m) (u ++ v) := by
  obtain ⟨w, hw⟩ := h
  exact ⟨w, by rw [List.append_assoc]; exact Language.append_mem_mul hu hw⟩

theorem Viable.mono (h : Viable l u) (hsub : ∀ w ∈ l, w ∈ m) : Viable m u := by
  obtain ⟨w, hw⟩ := h
  exact ⟨w, hsub _ hw⟩

theorem mem_token (kind : TokenKind) : [kind] ∈ token kind := rfl

/-- A part that is there is one that may be left out. -/
theorem mem_atMostOne (h : u ∈ l) : u ∈ atMostOne l := .inr h

/-- Nothing is a part that may be left out. -/
theorem nil_mem_atMostOne (l : Language TokenKind) : [] ∈ atMostOne l := .inl rfl

/-- Words of a language one after another. -/
theorem mem_kstar_of_mem_mul (h : u ∈ l * l∗) : u ∈ l∗ := by
  rw [← Language.one_add_self_mul_kstar_eq_kstar]
  exact .inr h

/-- A separator in front of a list of items is a repetition of separators and items. -/
theorem mem_kstar_of_mem_mul_separatedBy (h : u ∈ l * separatedBy l m) : u ∈ (l * m)∗ := by
  unfold separatedBy at h
  rw [← mul_assoc] at h
  exact mem_kstar_of_mem_mul h

end Viable

/-! ## Places -/

/-- What has been read last, as far as it matters for what can follow. -/
inductive Place
  | start
  | operation
  | all
  | selective
  /-- Behind `By` or `Or`: a group follows. -/
  | group
  /-- Inside a group, behind its mark, `And` or an underscore: a property follows. -/
  | name
  /-- Behind a property of a condition. -/
  | segment
  | comparator
  /-- Behind the mark of a term. -/
  | mark
  /-- Behind `OrderBy`, or an underscore in a sort key: a property follows. -/
  | sortName
  /-- Behind a property of a sort key. -/
  | sortSegment
  | direction
  | finish
deriving DecidableEq, Repr

/-- The place after one more token, if the token can follow. -/
def Place.after : Place → TokenKind → Option Place
  | .start, .operation _ => some .operation
  | .operation, .all => some .all
  | .operation, .selective | .all, .selective => some .selective
  | .operation, .by | .all, .by | .selective, .by => some .group
  | .group, .selective => some .name
  | .group, .property | .name, .property => some .segment
  | .segment, .pathSeparator => some .name
  | .segment, .comparator _ => some .comparator
  | .segment, .selective | .comparator, .selective => some .mark
  | .segment, .and | .comparator, .and | .mark, .and => some .name
  | .segment, .or | .comparator, .or | .mark, .or => some .group
  | .operation, .orderBy | .all, .orderBy | .selective, .orderBy | .segment, .orderBy
  | .comparator, .orderBy | .mark, .orderBy => some .sortName
  | .sortName, .property | .sortSegment, .property | .direction, .property => some .sortSegment
  | .sortSegment, .pathSeparator => some .sortName
  | .sortSegment, .asc | .sortSegment, .desc => some .direction
  | .operation, .eof | .all, .eof | .selective, .eof | .segment, .eof | .comparator, .eof
  | .mark, .eof | .sortSegment, .eof | .direction, .eof => some .finish
  | _, _ => none

/-- Behind a name that is still to come, nothing but a property follows. -/
theorem Place.after_of_ne_property {s : Place} (hs : s = .name ∨ s = .sortName) {kind : TokenKind}
    (h : kind ≠ .property) : s.after kind = none := by
  rcases hs with rfl | rfl <;> cases kind <;> simp_all [Place.after]

/-- The place after tokens, if they can follow one after another. -/
def run (s : Place) (w : List TokenKind) : Option Place := w.foldlM Place.after s

@[simp] theorem run_nil (s : Place) : run s [] = some s := rfl

@[simp] theorem run_singleton (s : Place) (kind : TokenKind) : run s [kind] = s.after kind := by
  simp [run]

/-- Tokens are read from where those before them end. -/
theorem run_append {s t : Place} {u : List TokenKind} (h : run s u = some t) (v : List TokenKind) :
    run s (u ++ v) = run t v := by
  unfold run at h ⊢
  rw [List.foldlM_append, h]
  rfl

/-! ## Every sentence can be read -/

/-- Every word of the language leads from any of the first places to one of the others. -/
def Leads (S T : Set Place) (l : Language TokenKind) : Prop :=
  ∀ s ∈ S, ∀ w ∈ l, ∃ t ∈ T, run s w = some t

section Leads

variable {S T M : Set Place} {l m : Language TokenKind}

/-- A token leads to the place that it leads to from each of the first ones. -/
theorem Leads.token {kind : TokenKind} {t : Place} (ht : t ∈ T)
    (h : ∀ s ∈ S, s.after kind = some t) : Leads S T (token kind) := by
  intro s hs w hw
  obtain rfl : w = [kind] := hw
  exact ⟨t, ht, by rw [run_singleton, h s hs]⟩

/-- Two parts lead where the second one leads from where the first one does. -/
theorem Leads.mul (hl : Leads S M l) (hm : Leads M T m) : Leads S T (l * m) := by
  intro s hs w hw
  obtain ⟨u, hu, v, hv, rfl⟩ := Language.mem_mul.mp hw
  obtain ⟨r, hr, hrun⟩ := hl s hs u hu
  obtain ⟨t, ht, hrun'⟩ := hm r hr v hv
  exact ⟨t, ht, by rw [run_append hrun, hrun']⟩

theorem Leads.add (hl : Leads S T l) (hm : Leads S T m) : Leads S T (l + m) := by
  intro s hs w hw
  rcases hw with hw | hw
  · exact hl s hs w hw
  · exact hm s hs w hw

/-- A part that may be left out leads also to where it starts. -/
theorem Leads.atMostOne (h : Leads S T l) (hsub : S ⊆ T) : Leads S T (atMostOne l) := by
  intro s hs w hw
  rcases hw with hw | hw
  · obtain rfl : w = [] := hw
    exact ⟨s, hsub hs, rfl⟩
  · exact h s hs w hw

/-- A part that leads back to where it starts can be repeated. -/
theorem Leads.star (h : Leads S S l) : Leads S S l∗ := by
  intro s hs w hw
  obtain ⟨words, rfl, hwords⟩ := Language.mem_kstar.mp hw
  clear hw
  induction words generalizing s with
  | nil => exact ⟨s, hs, rfl⟩
  | cons word words ih =>
    obtain ⟨r, hr, hrun⟩ := h s hs word (hwords word List.mem_cons_self)
    have hothers : ∀ y ∈ words, y ∈ l := fun y hy => hwords y (List.mem_cons_of_mem word hy)
    obtain ⟨t, ht, hrun'⟩ := ih r hr hothers
    exact ⟨t, ht, by rw [List.flatten_cons, run_append hrun, hrun']⟩

/-- Items lead where one item does, if a separator leads back to where an item starts. -/
theorem Leads.separatedBy (hitem : Leads S T m) (hsep : Leads T S l) :
    Leads S T (separatedBy l m) :=
  hitem.mul (hsep.mul hitem).star

theorem Leads.mono {S' : Set Place} (h : Leads S T l) (hsub : S' ⊆ S) : Leads S' T l :=
  fun s hs => h s (hsub hs)

end Leads

/-- The places where a property of a condition can follow. -/
def termStart : Set Place := {.group, .name}

/-- The places behind a term. -/
def termEnd : Set Place := {.segment, .comparator, .mark}

/-- The places where a property of a sort key can follow. -/
def sortStart : Set Place := {.sortName, .sortSegment, .direction}

/-- The places behind a sort key. -/
def sortEnd : Set Place := {.sortSegment, .direction}

theorem leads_term : Leads termStart termEnd term := by
  have hpath : Leads termStart {.segment} path := by
    have hname : Leads termStart {.segment} (token .property) := by
      refine Leads.token rfl fun s hs => ?_
      rcases hs with rfl | rfl <;> rfl
    have hbar : Leads {.segment} termStart (token .pathSeparator) := by
      refine Leads.token (t := .name) (.inr rfl) fun s hs => ?_
      rw [Set.mem_singleton_iff.mp hs]
      rfl
    exact hname.separatedBy hbar
  have hcomparator : Leads {.segment} {.segment, .comparator} comparator := by
    intro s hs w hw
    obtain ⟨c, rfl⟩ := hw
    rw [Set.mem_singleton_iff.mp hs]
    exact ⟨.comparator, .inr rfl, rfl⟩
  have hmark : Leads {.segment, .comparator} termEnd (token .selective) := by
    refine Leads.token (t := .mark) (.inr (.inr rfl)) fun s hs => ?_
    rcases hs with rfl | rfl <;> rfl
  refine (hpath.mul (hcomparator.atMostOne ?_)).mul (hmark.atMostOne ?_)
  · exact Set.singleton_subset_iff.mpr (.inl rfl)
  · exact Set.insert_subset_insert (Set.singleton_subset_iff.mpr (.inl rfl))

theorem leads_condition : Leads {.group} termEnd condition := by
  have hmark : Leads {.group} termStart (token .selective) := by
    refine Leads.token (t := .name) (.inr rfl) fun s hs => ?_
    rw [Set.mem_singleton_iff.mp hs]
    rfl
  have hand : Leads termEnd termStart (token .and) := by
    refine Leads.token (t := .name) (.inr rfl) fun s hs => ?_
    rcases hs with rfl | rfl | rfl <;> rfl
  have hor : Leads termEnd {.group} (token .or) := by
    refine Leads.token rfl fun s hs => ?_
    rcases hs with rfl | rfl | rfl <;> rfl
  have hgroup : Leads {.group} termEnd group :=
    (hmark.atMostOne (Set.singleton_subset_iff.mpr (.inl rfl))).mul (leads_term.separatedBy hand)
  exact hgroup.separatedBy hor

theorem leads_order : Leads {.sortName} sortEnd order := by
  have hpath : Leads sortStart {.sortSegment} path := by
    have hname : Leads sortStart {.sortSegment} (token .property) := by
      refine Leads.token rfl fun s hs => ?_
      rcases hs with rfl | rfl | rfl <;> rfl
    have hbar : Leads {.sortSegment} sortStart (token .pathSeparator) := by
      refine Leads.token (t := .sortName) (.inl rfl) fun s hs => ?_
      rw [Set.mem_singleton_iff.mp hs]
      rfl
    exact hname.separatedBy hbar
  have hdirection : Leads {.sortSegment} sortEnd (token .asc + token .desc) := by
    refine (Leads.token (t := .direction) (.inr rfl) fun s hs => ?_).add
      (Leads.token (t := .direction) (.inr rfl) fun s hs => ?_)
    all_goals
      rw [Set.mem_singleton_iff.mp hs]
      rfl
  have hphrase : Leads sortStart sortEnd sortPhrase :=
    hpath.mul (hdirection.atMostOne (Set.singleton_subset_iff.mpr (.inl rfl)))
  refine Leads.mul (hphrase.mono ?_) (hphrase.mono ?_).star
  · exact Set.singleton_subset_iff.mpr (.inl rfl)
  · exact Set.subset_insert _ _

/-- The places behind the words in front of the condition. -/
def headEnd : Set Place := {.operation, .all, .selective}

/-- The places behind a phrase. -/
def phraseEnd : Set Place := headEnd ∪ termEnd ∪ sortEnd

theorem leads_phrase : Leads {.start} phraseEnd phrase := by
  have hoperation : Leads {.start} {.operation} operation := by
    intro s hs w hw
    obtain ⟨op, rfl⟩ := hw
    rw [Set.mem_singleton_iff.mp hs]
    exact ⟨_, rfl, rfl⟩
  have hall : Leads {.operation} {.operation, .all} (token .all) := by
    refine Leads.token (t := .all) (.inr rfl) fun s hs => ?_
    rw [Set.mem_singleton_iff.mp hs]
    rfl
  have hselective : Leads {.operation, .all} headEnd (token .selective) := by
    refine Leads.token (t := .selective) (.inr (.inr rfl)) fun s hs => ?_
    rcases hs with rfl | rfl <;> rfl
  have hby : Leads headEnd {.group} (token .by) := by
    refine Leads.token rfl fun s hs => ?_
    rcases hs with rfl | rfl | rfl <;> rfl
  have hcondition : Leads headEnd (headEnd ∪ termEnd) (token .by * condition) := by
    intro s hs w hw
    obtain ⟨t, ht, hrun⟩ := (hby.mul leads_condition) s hs w hw
    exact ⟨t, .inr ht, hrun⟩
  have hordered : Leads (headEnd ∪ termEnd) {.sortName} (token .orderBy) := by
    refine Leads.token rfl fun s hs => ?_
    rcases hs with (rfl | rfl | rfl) | (rfl | rfl | rfl) <;> rfl
  have horder : Leads (headEnd ∪ termEnd) phraseEnd (token .orderBy * order) := by
    intro s hs w hw
    obtain ⟨t, ht, hrun⟩ := (hordered.mul leads_order) s hs w hw
    exact ⟨t, .inr ht, hrun⟩
  -- the operation and its modifiers, then the clauses, each of which may be missing
  refine (((hoperation.mul (hall.atMostOne ?_)).mul (hselective.atMostOne ?_)).mul
    (hcondition.atMostOne Set.subset_union_left)).mul (horder.atMostOne Set.subset_union_left)
  · exact Set.singleton_subset_iff.mpr (.inl rfl)
  · exact Set.insert_subset_insert (Set.singleton_subset_iff.mpr (.inl rfl))

/-- Every sentence can be read from the start to its end. -/
theorem run_of_mem_sentence {w : List TokenKind} (h : w ∈ sentence) :
    run .start w = some .finish := by
  have hend : Leads phraseEnd {.finish} (token .eof) := by
    refine Leads.token rfl fun s hs => ?_
    rcases hs with ((rfl | rfl | rfl) | (rfl | rfl | rfl)) | (rfl | rfl) <;> rfl
  obtain ⟨t, rfl, hrun⟩ := (leads_phrase.mul hend) .start rfl w h
  exact hrun

/-- Tokens that cannot be read are the start of no sentence. -/
theorem not_viable_of_run_eq_none {u : List TokenKind} (h : run .start u = none) :
    ¬ Viable sentence u := by
  intro hviable
  obtain ⟨v, hv⟩ := hviable
  have hrun := run_of_mem_sentence hv
  unfold run at h hrun
  rw [List.foldlM_append, h] at hrun
  cases hrun

end Grammar

end DerivedQuery.MethodName
