import DerivedQuery.Proofs.Generation.Run

/-!
# A second run adds nothing

Over the document of a first run, every id is known that the first run made known, from its first
candidate on. What was added has a statement now, and so has every candidate of a name that the
first run came to later than to the candidate; what failed under a name that is still not known
fails again, for the same reason (`Fate.again`).
-/

namespace DerivedQuery

open DerivedQuery.Types

/-! ## Fates where more is known -/

namespace Fate

variable {t : Translator} {known settled : IdSnapshot}

/-- What becomes of a candidate with a fate where all ids are known that are known after a run. -/
def again (settled : IdSnapshot) : Fate → Fate
  | .added s => .existing s.id
  | .existing name => .existing name
  | .skipped m => .skipped m
  | .failed m => if settled.contains m.name then .existing m.name else .failed m

/-- Where more ids are known, and those that a candidate makes known are among them, the candidate
has a statement or lacks one for the same reason as before. -/
theorem of_eq_again {x : Except SkippedMethod DerivedMethod}
    (hsettled : ∀ id, (known.after (of t known x)).contains id = true →
      settled.contains id = true) :
    of t settled x = (of t known x).again settled := by
  have hmono : ∀ id, known.contains id = true → settled.contains id = true := fun id hid =>
    hsettled id (IdSnapshot.contains_after.mpr (.inr hid))
  cases x with
  | error m => rfl
  | ok derived =>
    by_cases hknown : known.contains derived.method.name = true
    · rw [of, if_pos (hmono _ hknown), of, if_pos hknown, again]
    · cases hs : t.translate derived.query derived.method with
      | error e =>
        have hof : of t known (.ok derived) = .failed ⟨derived.method.name, e⟩ := by
          rw [of, if_neg hknown, hs]
        rw [hof, of, hs]
        rfl
      | ok s =>
        have hid : s.id = derived.method.name := (Translator.translate_assembled hs).id
        have hof : of t known (.ok derived) = .added s := by
          rw [of, if_neg hknown, hs]
        rw [hof] at hsettled
        have hnew := hsettled s.id (IdSnapshot.contains_after.mpr (.inl ⟨s, rfl, rfl⟩))
        rw [hid] at hnew
        rw [hof, of, if_pos hnew, again, hid]

/-- Where everything is known that is known after a run, nothing is added. -/
theorem after_again (fate : Fate) : known.after (fate.again settled) = known := by
  cases fate with
  | added | existing | skipped => rfl
  | failed m =>
    rw [again]
    split <;> rfl

end Fate

/-! ## Runs over what they led to -/

section

variable {t : Translator} {settled : IdSnapshot} {xs : List (Except SkippedMethod DerivedMethod)}

theorem map_of_eq_again {known : IdSnapshot}
    (hsettled : ∀ id, ((fates t known xs).foldl IdSnapshot.after known).contains id = true →
      settled.contains id = true) :
    xs.map (Fate.of t settled) = (fates t known xs).map (Fate.again settled) := by
  induction xs generalizing known with
  | nil => rfl
  | cons x xs ih =>
    rw [fates, List.foldl_cons] at hsettled
    rw [List.map_cons, fates, List.map_cons, ih hsettled, Fate.of_eq_again]
    intro id hid
    exact hsettled id (IdSnapshot.contains_foldl_after.mpr (.inr hid))

/-- Candidates that add nothing fare as they would each alone. -/
theorem fates_eq_map
    (h : ∀ x ∈ xs, settled.after (Fate.of t settled x) = settled) :
    fates t settled xs = xs.map (Fate.of t settled) := by
  induction xs with
  | nil => rfl
  | cons x xs ih =>
    obtain ⟨hx, hxs⟩ := List.forall_mem_cons.mp h
    rw [fates, hx, ih hxs, List.map_cons]

/-- Over what a run led to, every candidate fares by its first fate. -/
theorem fates_again {known : IdSnapshot}
    (hsettled : (fates t known xs).foldl IdSnapshot.after known = settled) :
    fates t settled xs = (fates t known xs).map (Fate.again settled) := by
  have hmap := map_of_eq_again fun id (hid : _ = true) => hsettled ▸ hid
  -- alone, each fares by its first fate and adds nothing, so one after another they fare the same
  rw [← hmap, fates_eq_map]
  intro x hx
  have hmem : Fate.of t settled x ∈ (fates t known xs).map (Fate.again settled) := by
    rw [← hmap]
    exact List.mem_map_of_mem hx
  obtain ⟨fate, -, hfate⟩ := List.mem_map.mp hmem
  rw [← hfate, Fate.after_again]

end

/-! ## What the second report tells -/

namespace Fate

variable {settled : IdSnapshot}

theorem added?_again (fate : Fate) : (fate.again settled).added? = none := by
  cases fate with
  | added | existing | skipped => rfl
  | failed m =>
    rw [again]
    split <;> rfl

theorem skipped?_again (fate : Fate) : (fate.again settled).skipped? = fate.skipped? := by
  cases fate with
  | added | existing | skipped => rfl
  | failed m =>
    rw [again]
    split <;> rfl

theorem failed?_again (fate : Fate) :
    (fate.again settled).failed? = fate.failed?.filter fun m => !settled.contains m.name := by
  cases fate with
  | added | existing | skipped => rfl
  | failed m =>
    cases hknown : settled.contains m.name <;>
      simp [again, failed?, Option.filter, hknown]

theorem existing?_of {t : Translator} (derived : DerivedMethod) :
    (of t settled (.ok derived)).existing? =
      if settled.contains derived.method.name then some derived.method.name else none := by
  rw [of]
  split
  · rfl
  · split <;> rfl

end Fate

section

variable {settled : IdSnapshot} (fs : List Fate)

theorem filterMap_added?_again : (fs.map (Fate.again settled)).filterMap Fate.added? = [] := by
  rw [List.filterMap_map, List.filterMap_eq_nil_iff]
  exact fun fate _ => Fate.added?_again fate

theorem filterMap_skipped?_again :
    (fs.map (Fate.again settled)).filterMap Fate.skipped? = fs.filterMap Fate.skipped? := by
  rw [List.filterMap_map]
  exact List.filterMap_congr fun fate _ => Fate.skipped?_again fate

theorem filterMap_failed?_again :
    (fs.map (Fate.again settled)).filterMap Fate.failed? =
      (fs.filterMap Fate.failed?).filter fun m => !settled.contains m.name := by
  rw [List.filterMap_map, List.filter_filterMap]
  exact List.filterMap_congr fun fate _ => Fate.failed?_again fate

end

/-- The candidates that have a statement are those that are derived under a known name. -/
theorem filterMap_existing?_of {m : Manifest} {t : Translator} {settled : IdSnapshot}
    (cs : List Candidate) :
    ((cs.map m.derive).map (Fate.of t settled)).filterMap Fate.existing? =
      (cs.filter fun c => (m.derive c).isOk && settled.contains c.method.name).map
        (·.method.name) := by
  induction cs with
  | nil => rfl
  | cons c cs ih =>
    rw [List.map_cons, List.map_cons]
    cases hderive : m.derive c with
    | error skipped =>
      rw [List.filterMap_cons_none (by rfl), ih, List.filter_cons_of_neg]
      simp [hderive, Except.isOk, Except.toBool]
    | ok derived =>
      have hname : derived.method.name = c.method.name := name_of_deriveMethod_ok hderive
      cases hknown : settled.contains c.method.name with
      | false =>
        rw [List.filterMap_cons_none (by rw [Fate.existing?_of, hname, hknown]; rfl), ih,
          List.filter_cons_of_neg]
        simp [hknown]
      | true =>
        rw [List.filterMap_cons_some (by rw [Fate.existing?_of, hname, hknown]; rfl), ih,
          List.filter_cons_of_pos, List.map_cons]
        simp [hderive, hknown, Except.isOk, Except.toBool]

/-- **Generation is idempotent.** A run over the document of a run succeeds and adds nothing to it.
It skips what was skipped; the candidates that are derived under the id of a statement have one,
and of those that failed the ones without a statement of their name fail again. -/
theorem generate_again {m : Manifest} {existing : Option Document} {r : Report}
    (h : m.generate existing = .ok r) :
    ∃ again, m.generate (some r.document) = .ok again ∧
      again.added = [] ∧ again.document = r.document ∧ again.skipped = r.skipped ∧
      again.existing =
        ((candidates m.typeTable m.mapper).filter fun c =>
          (m.derive c).isOk && decide (c.method.name ∈ r.document.statements.map (·.id))).map
            (·.method.name) ∧
      again.failed =
        r.failed.filter fun f => decide (f.name ∉ r.document.statements.map (·.id)) := by
  obtain ⟨hmapper, hnamespace, hrun⟩ := Manifest.generate_eq_ok.mp h
  let cs := candidates m.typeTable m.mapper
  let before := existing.getD ⟨m.namespaceName, []⟩
  let settled := r.document.snapshot
  let fs := fates m.translator before.snapshot (cs.map m.derive)
  have hfirst : m.progress before cs = (Progress.start before).extend fs :=
    Manifest.progress_eq_extend before cs
  have hreport : r = ((Progress.start before).extend fs).report := by
    rw [hrun, ← hfirst]
  -- what is known after the first run is what the second one starts with
  have hsettled : fs.foldl IdSnapshot.after before.snapshot = settled := by
    have hinStep : (m.progress before cs).InStep :=
      (Progress.inStep_start before).foldl m.translator (cs.map m.derive)
    rw [hfirst] at hinStep
    show _ = r.document.snapshot
    rw [hreport]
    exact hinStep
  have hfates : fates m.translator settled (cs.map m.derive) = fs.map (Fate.again settled) :=
    fates_again hsettled
  have hsecond : m.progress r.document cs =
      (Progress.start r.document).extend (fs.map (Fate.again settled)) := by
    rw [Manifest.progress_eq_extend, hfates]
  have hdocument : r.document.namespaceName = m.namespaceName := by
    rw [hreport]
    cases existing with
    | none => rfl
    | some given => exact hnamespace given rfl
  have hcontains : ∀ name,
      settled.contains name = decide (name ∈ r.document.statements.map (·.id)) := fun name => by
    rw [Bool.eq_iff_iff, Document.contains_snapshot, decide_eq_true_iff]
  refine ⟨(m.progress r.document cs).report, Manifest.generate_eq_ok.mpr ⟨hmapper, ?_, rfl⟩, ?_⟩
  · rintro given ⟨⟩
    exact hdocument
  rw [hsecond]
  refine ⟨?added, ?document, ?skipped, ?existing, ?failed⟩
  case added =>
    rw [Progress.extend, filterMap_added?_again]
    rfl
  case document =>
    rw [Progress.extend, filterMap_added?_again, List.append_nil]
    rfl
  case skipped =>
    rw [hreport]
    exact filterMap_skipped?_again fs
  case existing =>
    simp only [← hcontains]
    rw [← filterMap_existing?_of (t := m.translator) cs,
      map_of_eq_again fun id (hid : _ = true) => hsettled ▸ hid]
    rfl
  case failed =>
    simp only [decide_not, ← hcontains]
    have hfailed : r.failed = fs.filterMap Fate.failed? := by
      rw [hreport]
      rfl
    rw [hfailed]
    exact filterMap_failed?_again fs

/-- The second run finds statements for both overloads of `count` and for `find`, which failed
before a later `find` was added. -/
theorem generate_again_counting :
    counting.generate (some handWritten) = .ok countingReport ∧
      counting.generate (some countingReport.document) = .ok
        { document := countingReport.document
          existing := ["find", "count", "exists", "count", "find"]
          skipped := countingReport.skipped
          failed := [⟨"insert", .missingPayload "insert"⟩] } := by
  refine ⟨generate_counting, ?_⟩
  obtain ⟨⟨document, added, existing, skipped, failed⟩, hagain, rfl, rfl, rfl, rfl, rfl⟩ :=
    generate_again generate_counting
  rw [hagain]
  cbv

end DerivedQuery
