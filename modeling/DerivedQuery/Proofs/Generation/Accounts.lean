import DerivedQuery.Proofs.Generation.Run
import Mathlib.Data.List.Forall2

/-!
# A run accounts for every candidate

A run writes behind the statements of a document and changes none of them, adds no id a second
time and tells of every candidate what became of it. The ids that are known and the document say
the same thing twice, and a run has to keep them alike (`Progress.InStep`) while some candidates
fail, some share a name with others and some have a statement that was written by hand.

`Manifest.Accounts` says what a report tells, and `generate_accounts` that the report of every run
tells it.
-/

namespace DerivedQuery

open DerivedQuery.Types

/-! ## What a history tells -/

namespace Fate

variable {t : Translator} {known : IdSnapshot}

/-- A candidate that is left without a statement makes no id known. -/
theorem after_of_isMissing {fate : Fate} (h : fate.isMissing = true) :
    known.after fate = known := by
  cases fate with
  | added | existing => cases h
  | skipped | failed => rfl

/-- The fate of a candidate is put down under the candidate's name. -/
theorem Befits.name_eq {r : Resolver} {owner : TypeRef} {decl : MethodDecl} {fate : Fate}
    (h : Befits t (deriveMethod r owner decl) fate) : fate.name = decl.name := by
  generalize hx : deriveMethod r owner decl = x at h
  cases h with
  | added hs => exact (Translator.translate_assembled hs).id.trans (name_of_deriveMethod_ok hx)
  | existing derived => exact name_of_deriveMethod_ok hx
  | skipped m => exact name_of_deriveMethod_error hx
  | failed he => exact name_of_deriveMethod_ok hx

end Fate

section

variable {t : Translator} {known : IdSnapshot} {xs : List (Except SkippedMethod DerivedMethod)}

theorem forall₂_befits_fates : List.Forall₂ (Fate.Befits t) xs (fates t known xs) := by
  induction xs generalizing known with
  | nil => exact .nil
  | cons x xs ih => exact .cons (Fate.befits_of x) ih

theorem map_name_fates {m : Manifest} (cs : List Candidate) :
    (fates t known (cs.map m.derive)).map Fate.name = cs.map (·.method.name) := by
  induction cs generalizing known with
  | nil => rfl
  | cons c cs ih =>
    have hname : (Fate.of t known (m.derive c)).name = c.method.name := (Fate.befits_of _).name_eq
    rw [List.map_cons, fates, List.map_cons, ih, hname, List.map_cons]

/-- No id is added that is known, and none twice. -/
theorem added_fresh :
    (((fates t known xs).filterMap Fate.added?).map (·.id)).Nodup ∧
      ∀ s ∈ (fates t known xs).filterMap Fate.added?, known.contains s.id = false := by
  induction xs generalizing known with
  | nil => exact ⟨.nil, fun s hs => by cases hs⟩
  | cons x xs ih =>
    -- the rest of the run adds nothing that is known by now, so neither what was known before nor
    -- what the first candidate added
    obtain ⟨hnodup, hfresh⟩ := @ih (known.after (Fate.of t known x))
    rw [fates]
    cases hfate : Fate.of t known x with
    | added s =>
      rw [hfate] at hnodup hfresh
      have hlater : ∀ s' ∈ (fates t (known.record s.id) xs).filterMap Fate.added?,
          s'.id ≠ s.id ∧ known.contains s'.id = false := by
        intro s' hs'
        have hnot := hfresh s' hs'
        rw [IdSnapshot.after, ← Bool.not_eq_true, IdSnapshot.contains_record, not_or,
          Bool.not_eq_true] at hnot
        exact hnot
      rw [List.filterMap_cons_some (by rfl), List.map_cons, List.nodup_cons]
      refine ⟨⟨?_, hnodup⟩, ?_⟩
      · intro hmem
        obtain ⟨s', hs', hid⟩ := List.mem_map.mp hmem
        exact (hlater s' hs').1 hid
      · intro s' hs'
        rcases List.mem_cons.mp hs' with rfl | hs'
        · exact Fate.of_eq_added hfate
        · exact (hlater s' hs').2
    | existing | skipped | failed =>
      rw [hfate] at hnodup hfresh
      rw [List.filterMap_cons_none (by rfl)]
      exact ⟨hnodup, hfresh⟩

/-- What had a statement had it before, or was added earlier. -/
theorem existing_known {earlier later : List Fate} {name : String}
    (h : fates t known xs = earlier ++ .existing name :: later) :
    known.contains name = true ∨ ∃ s, .added s ∈ earlier ∧ s.id = name := by
  obtain ⟨x, -, hfate⟩ := fates_split h
  exact (IdSnapshot.contains_foldl_after.mp (Fate.of_eq_existing hfate.symm)).symm

/-- Every fate stands in one of the four lists. -/
theorem length_lists (fs : List Fate) :
    (fs.filterMap Fate.added?).length + (fs.filterMap Fate.existing?).length +
      (fs.filterMap Fate.skipped?).length + (fs.filterMap Fate.failed?).length = fs.length := by
  induction fs with
  | nil => rfl
  | cons fate fs ih =>
    cases fate <;>
      simp only [List.filterMap_cons, Fate.added?, Fate.existing?, Fate.skipped?, Fate.failed?,
        List.length_cons] <;>
      omega

/-! ## Leaving out what is missing -/

/-- The members of a list at the places of the candidates that have a statement. -/
def provided {α : Type} (xs : List α) (fs : List Fate) : List α :=
  ((xs.zip fs).filter fun x => !x.2.isMissing).map (·.1)

theorem map_provided {α β : Type} (f : α → β) (xs : List α) (fs : List Fate) :
    (provided xs fs).map f = provided (xs.map f) fs := by
  simp [provided, List.zip_map_left, List.filter_map, Function.comp_def]

/-- Without the candidates that are left without a statement, the others fare the same. -/
theorem fates_provided :
    fates t known (provided xs (fates t known xs)) =
      (fates t known xs).filter fun fate => !fate.isMissing := by
  induction xs generalizing known with
  | nil => rfl
  | cons x xs ih =>
    -- a candidate that is left out made nothing known, so the rest starts from the same ids
    have hrest := @ih (known.after (Fate.of t known x))
    cases hmissing : (Fate.of t known x).isMissing with
    | true =>
      rw [Fate.after_of_isMissing hmissing] at hrest
      rw [fates, Fate.after_of_isMissing hmissing,
        List.filter_cons_of_neg (by simpa using hmissing), ← hrest]
      simp [provided, hmissing]
    | false =>
      rw [fates, List.filter_cons_of_pos (by simpa using hmissing), ← hrest]
      simp [provided, hmissing, fates]

end

namespace Progress

/-- The document and the known ids do not depend on the candidates without a statement. -/
theorem extend_filter (p : Progress) (fs : List Fate) :
    (p.extend (fs.filter fun fate => !fate.isMissing)).report.document =
        (p.extend fs).report.document ∧
      (p.extend (fs.filter fun fate => !fate.isMissing)).known = (p.extend fs).known := by
  have hadded : (fs.filter fun fate => !fate.isMissing).filterMap Fate.added? =
      fs.filterMap Fate.added? := by
    rw [List.filterMap_filter]
    refine List.filterMap_congr fun fate _ => ?_
    cases fate <;> rfl
  have hknown : (fs.filter fun fate => !fate.isMissing).foldl IdSnapshot.after p.known =
      fs.foldl IdSnapshot.after p.known := by
    rw [List.foldl_filter]
    refine List.foldl_ext _ _ _ fun known fate _ => ?_
    cases fate <;> rfl
  exact ⟨by rw [extend, extend, hadded], hknown⟩

/-- A candidate that is skipped or fails changes neither the document nor the known ids. -/
theorem put_of_missing {p : Progress} {fate : Fate}
    (h : (p.put fate).report.missing ≠ p.report.missing) :
    (p.put fate).report.document = p.report.document ∧ (p.put fate).known = p.known := by
  cases fate with
  | added | existing => exact absurd rfl h
  | skipped | failed => exact ⟨rfl, rfl⟩

end Progress

/-! ## The accounts of a run -/

/-- What the report of a run from a document tells, where `fs` are the fates of the candidates. -/
structure Manifest.Accounts (m : Manifest) (before : Document) (r : Report) (fs : List Fate) :
    Prop where
  /-- Every candidate has one fate, and its derivation leads to it. -/
  befits : List.Forall₂ (fun c fate => Fate.Befits m.translator (m.derive c) fate)
    (candidates m.typeTable m.mapper) fs
  names : fs.map Fate.name = (candidates m.typeTable m.mapper).map (·.method.name)
  /-- Each of the lists has the candidates of one fate, in their order. -/
  added : r.added = (fs.filterMap Fate.added?).map (·.id)
  existing : r.existing = fs.filterMap Fate.existing?
  skipped : r.skipped = fs.filterMap Fate.skipped?
  failed : r.failed = fs.filterMap Fate.failed?
  lengths : r.added.length + r.existing.length + r.skipped.length + r.failed.length =
    (candidates m.typeTable m.mapper).length
  /-- The statements of what was added stand behind those of the document. -/
  document : r.document =
    { before with statements := before.statements ++ fs.filterMap Fate.added? }
  generated : ∀ s ∈ fs.filterMap Fate.added?, s.generated = true
  /-- No id is added twice, and none that the document has. -/
  nodup : r.added.Nodup
  fresh : ∀ name ∈ r.added, name ∉ before.statements.map (·.id)
  /-- What had a statement had it from the document or from an earlier candidate. -/
  known : ∀ earlier name later, fs = earlier ++ .existing name :: later →
    name ∈ before.statements.map (·.id) ∨ ∃ s, .added s ∈ earlier ∧ s.id = name
  /-- The report is that of a run over the candidates. -/
  run : r = (m.progress before (candidates m.typeTable m.mapper)).report
  /-- Over any candidates, the known ids stay those of the document. -/
  inStep : ∀ cs, (m.progress before cs).known = (m.progress before cs).report.document.snapshot
  /-- One more candidate that is skipped or fails changes neither. -/
  untouched : ∀ cs c,
    (m.progress before (cs ++ [c])).report.missing ≠ (m.progress before cs).report.missing →
      (m.progress before (cs ++ [c])).report.document = (m.progress before cs).report.document ∧
      (m.progress before (cs ++ [c])).known = (m.progress before cs).known
  /-- A run over the candidates that have a statement leads to the same document and ids. -/
  provided :
    (m.progress before (provided (candidates m.typeTable m.mapper) fs)).report.document =
        r.document ∧
      (m.progress before (provided (candidates m.typeTable m.mapper) fs)).known =
        r.document.snapshot

/-- **A run only appends and accounts for every candidate.** Where a run succeeds, its document is
the given one, or an empty one of the manifest's namespace, with the statements of what was added
behind its own; every candidate has a fate and stands in the list for it; and what was left without
a statement had no influence on the rest. -/
theorem generate_accounts {m : Manifest} {existing : Option Document} {r : Report}
    (h : m.generate existing = .ok r) :
    ∃ fs, m.Accounts (existing.getD ⟨m.namespaceName, []⟩) r fs := by
  obtain ⟨-, -, hrun⟩ := Manifest.generate_eq_ok.mp h
  generalize existing.getD ⟨m.namespaceName, []⟩ = before at hrun ⊢
  let cs := candidates m.typeTable m.mapper
  let fs := fates m.translator before.snapshot (cs.map m.derive)
  have hextend : m.progress before cs = (Progress.start before).extend fs :=
    Manifest.progress_eq_extend before cs
  have hreport : r = ((Progress.start before).extend fs).report := by
    rw [hrun, hextend]
  have hnames : fs.map Fate.name = cs.map (·.method.name) := map_name_fates cs
  have hinStep (cs : List Candidate) : (m.progress before cs).InStep :=
    (Progress.inStep_start before).foldl m.translator (cs.map m.derive)
  obtain ⟨hnodup, hfresh⟩ :=
    @added_fresh m.translator before.snapshot (cs.map m.derive)
  have hprovided : m.progress before (provided cs fs) =
      (Progress.start before).extend (fs.filter fun fate => !fate.isMissing) := by
    rw [Manifest.progress_eq_extend, map_provided, fates_provided]
  obtain ⟨hdocument, hknown⟩ := (Progress.start before).extend_filter fs
  refine ⟨fs, {
    befits := List.forall₂_map_left_iff.mp forall₂_befits_fates
    names := hnames
    added := by rw [hreport]; rfl
    existing := by rw [hreport]; rfl
    skipped := by rw [hreport]; rfl
    failed := by rw [hreport]; rfl
    lengths := ?lengths
    document := by rw [hreport]; rfl
    generated := ?generated
    nodup := by rw [hreport]; exact hnodup
    fresh := ?fresh
    known := ?known
    run := hrun
    inStep := hinStep
    untouched := ?untouched
    provided := ?provided }⟩
  case lengths =>
    have hlength : fs.length = cs.length := by simpa using congrArg List.length hnames
    rw [← hlength, ← length_lists fs, hreport]
    simp [Progress.extend, Progress.start]
  case generated =>
    intro s hs
    obtain ⟨derived, -, htranslate⟩ := translate_of_mem_fates hs
    exact (Translator.translate_assembled htranslate).generated
  case fresh =>
    rw [hreport]
    intro name hname
    obtain ⟨s, hs, rfl⟩ := List.mem_map.mp hname
    rw [← Document.contains_snapshot, hfresh s hs]
    exact Bool.false_ne_true
  case known =>
    intro earlier name later hsplit
    rw [← Document.contains_snapshot]
    exact existing_known hsplit
  case untouched =>
    intro cs c hmissing
    rw [Manifest.progress_concat] at hmissing ⊢
    exact Progress.put_of_missing hmissing
  case provided =>
    have hfinal := hinStep cs
    rw [hprovided, hdocument, hknown, ← hextend, hrun]
    exact ⟨rfl, hfinal⟩

/-- All seven candidates of a run with every fate are accounted for. -/
theorem generate_accounts_counting :
    counting.generate (some handWritten) = .ok countingReport ∧
      ∃ fs, counting.Accounts handWritten countingReport fs ∧
        fs.map Fate.name = ["find", "refresh", "count", "exists", "count", "find", "insert"] := by
  obtain ⟨fs, hfs⟩ := generate_accounts generate_counting
  refine ⟨generate_counting, fs, hfs, ?_⟩
  rw [hfs.names]
  cbv

end DerivedQuery
