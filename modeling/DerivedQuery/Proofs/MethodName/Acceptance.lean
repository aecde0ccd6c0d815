import DerivedQuery.MethodName.Parser
import DerivedQuery.Proofs.Except
import DerivedQuery.Proofs.MethodName.Grammar

/-!
# What the parser accepts

Each procedure of the parser is compared with the part of the grammar it reads (`Meets`). Where it
succeeds, the kinds of the tokens it has read form a word of that part, and it stands in front of a
token that cannot continue the part. Where it stops, what it has read is the beginning of a word,
and neither the token there nor the end goes on with it (`Stopped`).

The places of the grammar tie the procedures together: each one says in which places it may be
entered, and in which places it leaves the cursor with which tokens possible.

> `Outcome.bind`: procedures one after another read the parts one after another.

> `Loops.meets`: a loop over items with separators reads a separated list.

> `groups_meets`, `sortPhrases_meets`: the condition and the order are read as the grammar has them.

> `clause_meets`: a part behind its keyword is read, or there is no such keyword.
-/

namespace DerivedQuery.MethodName

open DerivedQuery Grammar

/-! ## Moving a cursor -/

/-- The second cursor is the first one after tokens of these kinds. -/
def Reads (c : Cursor) (u : List TokenKind) (c' : Cursor) : Prop :=
  ∃ tokens : List Token, c.ahead = tokens ++ c'.ahead ∧ tokens.map (·.kind) = u ∧
    c'.finish = c.finish ∧ c'.previous = tokens.getLast?.or c.previous

namespace Reads

theorem refl (c : Cursor) : Reads c [] c := ⟨[], rfl, rfl, rfl, rfl⟩

theorem trans {c₁ c₂ c₃ : Cursor} {u v : List TokenKind} (h : Reads c₁ u c₂) (h' : Reads c₂ v c₃) :
    Reads c₁ (u ++ v) c₃ := by
  obtain ⟨first, hahead, rfl, hfinish, hprevious⟩ := h
  obtain ⟨second, hahead', rfl, hfinish', hprevious'⟩ := h'
  refine ⟨first ++ second, ?_, List.map_append, hfinish'.trans hfinish, ?_⟩
  · rw [hahead, hahead', List.append_assoc]
  · rw [hprevious', hprevious, List.getLast?_append, Option.or_assoc]

end Reads

open Cursor

theorem reads_accept {kind : TokenKind} {c c' : Cursor} (h : c.accept kind = some c') :
    Reads c [kind] c' := by
  unfold accept at h
  split at h
  · cases h
  · next t rest hc =>
    split at h
    · next hkind =>
      cases h
      exact ⟨[t], hc, by rw [List.map_singleton, hkind], rfl, rfl⟩
    · cases h

/-- A token that is not accepted is of another kind. -/
theorem kind_ne_of_accept {kind : TokenKind} {c : Cursor} (hkind : kind ≠ .eof)
    (h : c.accept kind = none) : c.current.kind ≠ kind := by
  unfold accept at h
  unfold current
  split at h
  · next hc =>
    rw [hc]
    exact hkind.symm
  · next t rest hc =>
    rw [hc]
    split at h
    · cases h
    · next hne => exact hne

/-- Skipping reads a token of the kind, or there is none. -/
theorem reads_skip (kind : TokenKind) (hkind : kind ≠ .eof) (c : Cursor) :
    Reads c [kind] (c.skip kind).2 ∨ (c.skip kind).2 = c ∧ c.current.kind ≠ kind := by
  unfold skip
  split
  · next h => exact .inl (reads_accept h)
  · next h => exact .inr ⟨rfl, kind_ne_of_accept hkind h⟩

theorem reads_comparator (c : Cursor) :
    (∃ op, Reads c [.comparator op] c.comparator.2) ∨
      c.comparator.2 = c ∧ ∀ op, c.current.kind ≠ .comparator op := by
  unfold Cursor.comparator
  split
  · next op text position rest hc =>
    exact .inl ⟨op, [⟨.comparator op, text, position⟩], hc, rfl, rfl, rfl⟩
  · next hc =>
    refine .inr ⟨rfl, fun op hkind => ?_⟩
    unfold current at hkind
    cases hahead : c.ahead with
    | nil =>
      rw [hahead] at hkind
      cases hkind
    | cons t rest =>
      obtain ⟨kind, text, position⟩ := t
      rw [hahead] at hkind
      obtain rfl : kind = .comparator op := hkind
      exact hc op text position rest hahead

/-! ## Loops of the parser -/

/-- A procedure that reads items for as long as a separator of the kind follows. A single item gives
`one` result, and an item in front of others gives `more`. -/
def Loops {α β : Type} (items : Cursor → Except Stop (β × Cursor))
    (item : Cursor → Except Stop (α × Cursor)) (kind : TokenKind) (one : α → β)
    (more : α → β → β) : Prop :=
  ∀ c, items c = item c >>= fun x =>
    match x.2.accept kind with
    | none => .ok (one x.1, x.2)
    | some next => items next >>= fun y => .ok (more x.1 y.1, y.2)

/-- Reads one segment of a path. -/
def segment (c : Cursor) : Except Stop (String × Cursor) :=
  match c.accept .property with
  | none => .error ⟨.property, c⟩
  | some next => .ok (c.current.text, next)

/-- A path is segments with bars between them. -/
theorem segments_loops :
    Loops Cursor.segments segment .pathSeparator (fun name => [name]) List.cons := by
  intro c
  rw [Cursor.segments, segment]
  split
  · next h => simp only [h]; rfl
  · next name h =>
    simp only [h]
    split
    · next h' => simp only [bind, Except.bind, h']
    · next bar h' => simp only [bind, Except.bind, h']; rfl

theorem terms_loops :
    Loops Cursor.terms Cursor.term .and (fun first => (first, []))
      fun first others => (first, others.1 :: others.2) := by
  intro c
  rw [Cursor.terms]
  split
  · next h => simp only [h]; rfl
  · next first next h =>
    simp only [h]
    split
    · next h' => simp only [bind, Except.bind, h']
    · next h' => simp only [bind, Except.bind, h']; rfl

theorem groups_loops :
    Loops Cursor.groups Cursor.group .or (fun first => [first]) List.cons := by
  intro c
  rw [Cursor.groups]
  split
  · next h => simp only [h]; rfl
  · next first next h =>
    simp only [h]
    split
    · next h' => simp only [bind, Except.bind, h']
    · next h' => simp only [bind, Except.bind, h']; rfl

/-! ## What a procedure does -/

/-- The parser has read a word of the language and has come to a cursor that fits the place. -/
def Passed (l : Language TokenKind) (s : Place) (c : Cursor) (post : Place → Cursor → Prop)
    (c' : Cursor) : Prop :=
  ∃ u t, Reads c u c' ∧ u ∈ l ∧ run s u = some t ∧ post t c'

/-- The parser stopped in a part where a property is required: what it has read can be continued,
but neither with the token that stands there nor with the end. -/
def Stopped (l : Language TokenKind) (s : Place) (c : Cursor) (stop : Stop) : Prop :=
  stop.expected = .property ∧ ∃ u t, Reads c u stop.place ∧ Viable l u ∧ run s u = some t ∧
    t.after stop.place.current.kind = none ∧ t.after .eof = none

/-- The parser has read a word of the language, or it stopped in one. -/
def Outcome {α : Type} (l : Language TokenKind) (s : Place) (c : Cursor)
    (post : Place → Cursor → Prop) : Except Stop (α × Cursor) → Prop
  | .ok (_, c') => Passed l s c post c'
  | .error stop => Stopped l s c stop

/-- From every place and cursor that fit together, a procedure reads a word of the language or stops
in one. -/
def Meets {α : Type} (read : Cursor → Except Stop (α × Cursor)) (l : Language TokenKind)
    (pre post : Place → Cursor → Prop) : Prop :=
  ∀ s c, pre s c → Outcome l s c post (read c)

/-- A property can follow and leads to a place; any other token that stands there cannot, nor can
the end. -/
def Ready (next : Place) (s : Place) (c : Cursor) : Prop :=
  s.after .property = some next ∧
    (c.current.kind ≠ .property → s.after c.current.kind = none ∧ s.after .eof = none)

/-- The place is one of those given, and the token at the cursor is one of a few if it can follow
there. -/
def Settled (places : Set Place) (follow : List TokenKind) (s : Place) (c : Cursor) : Prop :=
  s ∈ places ∧ (s.after c.current.kind ≠ none → c.current.kind ∈ follow)

section Outcome

variable {α β : Type} {l m : Language TokenKind} {s : Place} {c c₁ c' : Cursor} {stop : Stop}
  {mid post post' : Place → Cursor → Prop} {v : List TokenKind}

theorem Passed.nil (h : post s c) (hnil : [] ∈ l) : Passed l s c post c :=
  ⟨[], s, Reads.refl c, hnil, rfl, h⟩

/-- A token that is accepted has been passed. -/
theorem Passed.token {kind : TokenKind} {t : Place} (h : c.accept kind = some c')
    (hafter : s.after kind = some t) : Passed (token kind) s c (fun r _ => r = t) c' :=
  ⟨[kind], t, reads_accept h, mem_token kind, by rw [run_singleton, hafter], rfl⟩

/-- Two parts have been passed, the second one from where the first one ended. -/
theorem Passed.mul (h : Passed l s c mid c₁) (h' : ∀ t, mid t c₁ → Passed m t c₁ post c') :
    Passed (l * m) s c post c' := by
  obtain ⟨u, t, hu, hmem, hrun, hmid⟩ := h
  obtain ⟨v, t', hv, hmem', hrun', hpost⟩ := h' t hmid
  exact ⟨u ++ v, t', hu.trans hv, Language.append_mem_mul hmem hmem',
    by rw [run_append hrun, hrun'], hpost⟩

/-- The parser stopped in the second part. -/
theorem Passed.mul_stopped (h : Passed l s c mid c₁) (h' : ∀ t, mid t c₁ → Stopped m t c₁ stop) :
    Stopped (l * m) s c stop := by
  obtain ⟨u, t, hu, hmem, hrun, hmid⟩ := h
  obtain ⟨hexpected, v, t', hv, hviable, hrun', hdead⟩ := h' t hmid
  exact ⟨hexpected, u ++ v, t', hu.trans hv, hviable.mul_right hmem,
    by rw [run_append hrun, hrun'], hdead⟩

/-- The parser stopped in the first part. -/
theorem Stopped.mul (h : Stopped l s c stop) (hm : v ∈ m) : Stopped (l * m) s c stop := by
  obtain ⟨hexpected, u, t, hu, hviable, hrest⟩ := h
  exact ⟨hexpected, u, t, hu, hviable.mul_left hm, hrest⟩

theorem Passed.mul_outcome {r : Except Stop (α × Cursor)} (h : Passed l s c mid c₁)
    (h' : ∀ t, mid t c₁ → Outcome m t c₁ post r) : Outcome (l * m) s c post r := by
  cases r with
  | ok x => exact Passed.mul h h'
  | error stop => exact Passed.mul_stopped h h'

/-- Two procedures one after another read two parts, if the second part has a word at all. -/
theorem Outcome.bind {r : Except Stop (α × Cursor)} {f : α × Cursor → Except Stop (β × Cursor)}
    (h : Outcome l s c mid r) (hm : v ∈ m)
    (h' : ∀ a c₁ t, mid t c₁ → Outcome m t c₁ post (f (a, c₁))) :
    Outcome (l * m) s c post (r >>= f) := by
  cases r with
  | ok x => exact Passed.mul_outcome h fun t ht => h' x.1 x.2 t ht
  | error stop => exact Stopped.mul h hm

/-- What is made of the value does not matter. -/
theorem Outcome.result {r : Except Stop (α × Cursor)} (h : Outcome l s c post r) (f : α → β) :
    Outcome l s c post (r >>= fun x => .ok (f x.1, x.2)) := by
  cases r with
  | ok x => exact h
  | error stop => exact h

theorem Outcome.mono {r : Except Stop (α × Cursor)} (h : Outcome l s c post r)
    (hsub : ∀ w ∈ l, w ∈ m) : Outcome m s c post r := by
  cases r with
  | ok x =>
    obtain ⟨u, t, hu, hmem, hrest⟩ := h
    exact ⟨u, t, hu, hsub u hmem, hrest⟩
  | error stop =>
    obtain ⟨hexpected, u, t, hu, hviable, hrest⟩ := h
    exact ⟨hexpected, u, t, hu, hviable.mono hsub, hrest⟩

/-- A place and a cursor fit together in any way that follows from what is known there, also from
what has been read. -/
theorem Outcome.imp {r : Except Stop (α × Cursor)} (h : Outcome l s c post r)
    (himp : ∀ t c', c'.ahead.length ≤ c.ahead.length → post t c' → post' t c') :
    Outcome l s c post' r := by
  cases r with
  | ok x =>
    obtain ⟨u, t, hu, hmem, hrun, hpost⟩ := h
    obtain ⟨tokens, hahead, -⟩ := id hu
    have hlength : x.2.ahead.length ≤ c.ahead.length := by
      rw [hahead, List.length_append]
      omega
    exact ⟨u, t, hu, hmem, hrun, himp t x.2 hlength hpost⟩
  | error stop => exact h

end Outcome

section Settled

variable {S T : Set Place} {kind : TokenKind} {follow : List TokenKind} {t : Place} {c : Cursor}

/-- A kind that does not stand at the cursor need not be named. -/
theorem Settled.of_ne (h : Settled S (kind :: follow) t c) (hne : c.current.kind ≠ kind) :
    Settled S follow t c :=
  ⟨h.1, fun hafter => (List.mem_cons.mp (h.2 hafter)).resolve_left hne⟩

theorem Settled.mono (h : Settled S follow t c) (hsub : S ⊆ T) : Settled T follow t c :=
  ⟨hsub h.1, h.2⟩

end Settled

/-- A loop over items with separators reads a list of items, up to a token that is no separator. -/
theorem Loops.meets {α β : Type} {items : Cursor → Except Stop (β × Cursor)}
    {item : Cursor → Except Stop (α × Cursor)} {kind : TokenKind} {one : α → β}
    {more : α → β → β} {l : Language TokenKind} {pre post : Place → Cursor → Prop}
    (hitems : Loops items item kind one more) (hkind : kind ≠ .eof) (hitem : Meets item l pre post)
    (hagain : ∀ t c, post t c → ∃ s, t.after kind = some s ∧ ∀ c, pre s c) :
    Meets items (separatedBy (token kind) l) pre
      fun t c => post t c ∧ c.current.kind ≠ kind := by
  intro s c hs
  -- what is ahead gets shorter with every separator
  induction hlength : c.ahead.length using Nat.strong_induction_on generalizing s c with
  | _ n ih =>
    have hfirst := (hitem s c hs).imp fun _ _ hshort hpost => And.intro hpost hshort
    rw [hitems c]
    refine hfirst.bind (Language.nil_mem_kstar _) fun a c₁ t ht => ?_
    obtain ⟨hpost, hshort⟩ := ht
    -- either the list ends here, or a separator and the rest of the list follow
    cases hnext : c₁.accept kind with
    | none =>
      show Passed _ t c₁ (fun t c => post t c ∧ c.current.kind ≠ kind) c₁
      exact Passed.nil ⟨hpost, kind_ne_of_accept hkind hnext⟩ (Language.nil_mem_kstar _)
    | some next =>
      obtain ⟨s', hs', hpre⟩ := hagain t c₁ hpost
      have hshorter : next.ahead.length < n := by
        have := length_accept hnext
        omega
      have hrest := (ih _ hshorter s' next (hpre next) rfl).result (more a)
      refine Outcome.mono ((Passed.token hnext hs').mul_outcome fun r hr => ?_)
        fun w hw => mem_kstar_of_mem_mul_separatedBy hw
      rw [hr]
      exact hrest

/-! ## The procedures of the parser -/

theorem segment_meets (next : Place) :
    Meets segment (token .property) (Ready next) fun t _ => t = next := by
  intro s c hs
  unfold segment
  cases h : c.accept .property with
  | none =>
    obtain ⟨hdead, heof⟩ := hs.2 (kind_ne_of_accept (by decide) h)
    exact ⟨rfl, [], s, Reads.refl c, ⟨_, mem_token .property⟩, rfl, hdead, heof⟩
  | some c' => exact Passed.token h hs.1

/-- A path is read up to a token that does not continue it. -/
theorem segments_meets {next bar : Place} (hbar : next.after .pathSeparator = some bar)
    (hready : ∀ c, Ready next bar c) :
    Meets Cursor.segments path (Ready next)
      fun t c => t = next ∧ c.current.kind ≠ .pathSeparator := by
  refine segments_loops.meets (by decide) (segment_meets next) ?_
  intro t c ht
  exact ⟨bar, ht ▸ hbar, hready⟩

/-- A token that may be missing is skipped, and does not follow behind its place. -/
theorem passed_skip {S T : Set Place} {kind : TokenKind} {follow : List TokenKind} {s t : Place}
    {c : Cursor} (hkind : kind ≠ .eof) (hafter : s.after kind = some t)
    (hsettled : ∀ c, Settled T follow t c) (hsub : S ⊆ T) (h : Settled S (kind :: follow) s c) :
    Passed (atMostOne (token kind)) s c (Settled T follow) (c.skip kind).2 := by
  rcases reads_skip kind hkind c with hreads | ⟨hnone, hne⟩
  · exact ⟨[kind], t, hreads, mem_atMostOne (mem_token kind), by rw [run_singleton, hafter],
      hsettled _⟩
  · rw [hnone]
    exact Passed.nil ((h.of_ne hne).mono hsub) (nil_mem_atMostOne _)

/-- A comparator may stand behind a path. -/
theorem passed_comparator {c : Cursor} (hc : c.current.kind ≠ .pathSeparator) :
    Passed (atMostOne Grammar.comparator) .segment c
      (Settled {.segment, .comparator} [.selective, .and, .or, .orderBy, .eof])
      c.comparator.2 := by
  rcases reads_comparator c with ⟨op, hop⟩ | ⟨hnone, hop⟩
  · refine ⟨_, .comparator, hop, mem_atMostOne ⟨op, rfl⟩, rfl, .inr rfl, ?_⟩
    cases c.comparator.2.current.kind <;> simp [Place.after]
  · rw [hnone]
    refine Passed.nil ⟨.inl rfl, ?_⟩ (nil_mem_atMostOne _)
    revert hop hc
    cases c.current.kind <;> simp [Place.after]

/-- The mark of a term may stand behind its comparator. -/
theorem passed_mark {s : Place} {c : Cursor}
    (h : Settled {.segment, .comparator} [.selective, .and, .or, .orderBy, .eof] s c) :
    Passed (atMostOne (token .selective)) s c (Settled termEnd [.and, .or, .orderBy, .eof])
      (c.skip .selective).2 := by
  refine passed_skip (t := .mark) (by decide) ?_ (fun c => ⟨.inr (.inr rfl), ?_⟩) ?_ h
  · rcases h.1 with rfl | rfl <;> rfl
  · cases c.current.kind <;> simp [Place.after]
  · exact Set.insert_subset_insert (Set.singleton_subset_iff.mpr (.inl rfl))

/-- Behind a name of a condition, nothing but a property can follow. -/
theorem ready_name (c : Cursor) : Ready .segment .name c :=
  ⟨rfl, fun hkind => ⟨Place.after_of_ne_property (.inl rfl) hkind, rfl⟩⟩

/-- A term is read up to a token that continues no term. -/
theorem term_meets :
    Meets Cursor.term Grammar.term (Ready .segment)
      (Settled termEnd [.and, .or, .orderBy, .eof]) := by
  intro s c hs
  unfold Cursor.term Grammar.term
  rw [mul_assoc]
  refine (segments_meets rfl ready_name s c hs).bind (Language.append_mem_mul
    (nil_mem_atMostOne _) (nil_mem_atMostOne _)) fun names c₁ t ht => ?_
  obtain ⟨rfl, hbar⟩ := ht
  exact (passed_comparator hbar).mul fun t ht => passed_mark ht

/-- Terms are read up to a token that cannot follow on them but `Or`, `OrderBy` or the end. -/
theorem terms_meets :
    Meets Cursor.terms (separatedBy (token .and) Grammar.term) (Ready .segment)
      (Settled termEnd [.or, .orderBy, .eof]) := by
  intro s c hs
  refine (terms_loops.meets (by decide) term_meets ?_ s c hs).imp fun t c' _ h => h.1.of_ne h.2
  intro t c ht
  rcases ht with ⟨rfl | rfl | rfl, -⟩
  all_goals exact ⟨.name, rfl, ready_name⟩

/-- The mark of a group may stand in front of its first property. -/
theorem passed_group_mark (c : Cursor) :
    Passed (atMostOne (token .selective)) .group c (Ready .segment) (c.skip .selective).2 := by
  rcases reads_skip .selective (by decide) c with hreads | ⟨hnone, hkind⟩
  · exact ⟨_, .name, hreads, mem_atMostOne (mem_token .selective), rfl, ready_name _⟩
  · rw [hnone]
    refine Passed.nil ⟨rfl, ?_⟩ (nil_mem_atMostOne _)
    revert hkind
    cases c.current.kind <;> simp [Place.after]

/-- A group is read up to a token that continues no group. -/
theorem group_meets :
    Meets Cursor.group Grammar.group (fun s _ => s = .group)
      (Settled termEnd [.or, .orderBy, .eof]) := by
  intro s c hs
  subst hs
  unfold Cursor.group
  refine (passed_group_mark c).mul_outcome fun t ht => ?_
  exact (terms_meets t _ ht).result fun ts : Term × List Term =>
    TermGroup.mk (c.skip .selective).1 ts.1 ts.2

/-- Groups are read up to a token that cannot follow on them but `OrderBy` or the end. -/
theorem groups_meets :
    Meets Cursor.groups Grammar.condition (fun s _ => s = .group)
      (Settled termEnd [.orderBy, .eof]) := by
  intro s c hs
  refine (groups_loops.meets (by decide) group_meets ?_ s c hs).imp fun t c' _ h => h.1.of_ne h.2
  intro t c ht
  rcases ht with ⟨rfl | rfl | rfl, -⟩
  all_goals exact ⟨.group, rfl, fun _ => rfl⟩

/-- Behind a name of a sort key, nothing but a property can follow. -/
theorem ready_sortName (c : Cursor) : Ready .sortSegment .sortName c :=
  ⟨rfl, fun hkind => ⟨Place.after_of_ne_property (.inr rfl) hkind, rfl⟩⟩

/-- A direction may stand behind the path of a sort key. -/
theorem passed_direction {c : Cursor} (hc : c.current.kind ≠ .pathSeparator) :
    Passed (atMostOne (token .asc + token .desc)) .sortSegment c
      (Settled sortEnd [.property, .eof]) c.direction.2 := by
  have hsettled : ∀ c, Settled sortEnd [.property, .eof] .direction c := by
    intro c
    refine ⟨.inr rfl, ?_⟩
    cases c.current.kind <;> simp [Place.after]
  unfold Cursor.direction
  cases hdesc : c.accept .desc with
  | some next =>
    exact ⟨_, .direction, reads_accept hdesc, mem_atMostOne (.inr (mem_token .desc)), rfl,
      hsettled next⟩
  | none =>
    rcases reads_skip .asc (by decide) c with hreads | ⟨hnone, hasc⟩
    · exact ⟨_, .direction, hreads, mem_atMostOne (.inl (mem_token .asc)), rfl, hsettled _⟩
    · show Passed _ _ _ _ (c.skip .asc).2
      rw [hnone]
      refine Passed.nil ⟨.inl rfl, ?_⟩ (nil_mem_atMostOne _)
      have hdesc := kind_ne_of_accept (by decide) hdesc
      revert hasc hdesc hc
      cases c.current.kind <;> simp [Place.after]

/-- A sort key is read up to a token that continues no sort key. -/
theorem sortPhrase_meets :
    Meets Cursor.sortPhrase Grammar.sortPhrase (Ready .sortSegment)
      (Settled sortEnd [.property, .eof]) := by
  intro s c hs
  unfold Cursor.sortPhrase Grammar.sortPhrase
  refine (segments_meets rfl ready_sortName s c hs).bind (nil_mem_atMostOne _)
    fun names c₁ t ht => ?_
  obtain ⟨rfl, hbar⟩ := ht
  exact passed_direction hbar

/-- Sort keys are read up to a token that cannot follow on them but the end. -/
theorem sortPhrases_meets :
    Meets Cursor.sortPhrases Grammar.order (Ready .sortSegment) (Settled sortEnd [.eof]) := by
  intro s c hs
  fun_induction Cursor.sortPhrases c generalizing s with
  | case1 c stop h =>
    have hstop := sortPhrase_meets s c hs
    rw [h] at hstop
    exact Stopped.mul hstop (Language.nil_mem_kstar _)
  | case2 c first next h hproperty ih =>
    have hfirst := sortPhrase_meets s c hs
    rw [h] at hfirst
    refine Passed.mul_outcome hfirst fun t ht => ?_
    have hready : Ready .sortSegment t next := by
      refine ⟨?_, fun hne => absurd hproperty hne⟩
      rcases ht.1 with rfl | rfl <;> rfl
    exact ((ih t hready).result (first :: ·)).mono fun w hw => mem_kstar_of_mem_mul hw
  | case3 c first next h hproperty =>
    have hfirst := sortPhrase_meets s c hs
    rw [h] at hfirst
    exact Passed.mul hfirst fun t ht =>
      Passed.nil (ht.of_ne hproperty) (Language.nil_mem_kstar _)

/-- A part behind its keyword is read, or there is no such keyword. -/
theorem clause_meets {α : Type} {read : Cursor → Except Stop (List α × Cursor)}
    {kind : TokenKind} {l : Language TokenKind} {pre pre' post : Place → Cursor → Prop}
    (hkind : kind ≠ .eof) (hread : Meets read l pre' post)
    (hkeyword : ∀ t c, pre t c → ∃ s, t.after kind = some s ∧ ∀ c, pre' s c)
    (hnone : ∀ t c, pre t c → c.current.kind ≠ kind → post t c) :
    Meets (Cursor.clause kind read) (atMostOne (token kind * l)) pre post := by
  intro s c hs
  unfold Cursor.clause
  cases h : c.accept kind with
  | none => exact Passed.nil (hnone s c hs (kind_ne_of_accept hkind h)) (nil_mem_atMostOne _)
  | some next =>
    obtain ⟨s', hs', hpre⟩ := hkeyword s c hs
    refine Outcome.mono ((Passed.token h hs').mul_outcome fun r hr => ?_)
      fun w hw => mem_atMostOne hw
    rw [hr]
    exact hread s' next (hpre next)

end DerivedQuery.MethodName
