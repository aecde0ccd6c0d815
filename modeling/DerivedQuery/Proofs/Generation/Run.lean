import DerivedQuery.Generation
import DerivedQuery.Proofs.Statement.Parts
import Mathlib

/-!
# What becomes of the candidates

A run goes through the derived methods with a document and the ids that are known, and puts down
what became of each method in one of four lists. `Fate` is what became of one of them, `fates` is
the history of a run: the fate of every method in the order of the run. The report is read off the
history (`foldl_step`), so that statements about reports are statements about lists of fates.

Methods influence each other through the known ids alone (`Fate.of`), and these only through the
statements that are added.
-/

namespace DerivedQuery

open DerivedQuery.Types

/-! ## What is derived goes by the name of its method -/

section

variable {r : Resolver} {owner : TypeRef} {decl : MethodDecl}

theorem name_of_deriveMethod_error {skipped : SkippedMethod}
    (h : deriveMethod r owner decl = .error skipped) : skipped.name = decl.name := by
  unfold deriveMethod at h
  split at h
  · cases h
    rfl
  · split at h
    · cases h
      rfl
    · cases h

/-- A method is derived if its name is parsed and its signature is bound. -/
theorem deriveMethod_eq_ok {derived : DerivedMethod} :
    deriveMethod r owner decl = .ok derived ↔
      MethodName.parse decl.name = .ok derived.query ∧
        bindMethod r owner decl = .ok derived.method := by
  unfold deriveMethod
  cases hparse : MethodName.parse decl.name with
  | error cause => simp
  | ok query =>
    cases hbind : bindMethod r owner decl with
    | error cause => simp
    | ok bound => cases derived; simp

theorem name_of_deriveMethod_ok {derived : DerivedMethod}
    (h : deriveMethod r owner decl = .ok derived) : derived.method.name = decl.name := by
  obtain ⟨-, hbind⟩ := deriveMethod_eq_ok.mp h
  generalize derived.method = bound at hbind
  unfold bindMethod at hbind
  split at hbind
  · cases hbind
  · cases hbind
    rfl

end

/-! ## Fates -/

/-- What becomes of a candidate. -/
inductive Fate
  | added (statement : Statement)
  | existing (name : String)
  | skipped (method : SkippedMethod)
  | failed (method : FailedMethod)

namespace Fate

/-- The name of the candidate. -/
def name : Fate → String
  | .added s => s.id
  | .existing name => name
  | .skipped m => m.name
  | .failed m => m.name

/-- The statement that was added. -/
def added? : Fate → Option Statement
  | .added s => some s
  | _ => none

/-- The name of a candidate that had a statement. -/
def existing? : Fate → Option String
  | .existing name => some name
  | _ => none

/-- The candidate that was skipped. -/
def skipped? : Fate → Option SkippedMethod
  | .skipped m => some m
  | _ => none

/-- The candidate that failed. -/
def failed? : Fate → Option FailedMethod
  | .failed m => some m
  | _ => none

/-- Whether the candidate is left without a statement. -/
def isMissing : Fate → Bool
  | .skipped _ | .failed _ => true
  | .added _ | .existing _ => false

/-- What becomes of a derived method where some ids are known. -/
def of (t : Translator) (known : IdSnapshot) : Except SkippedMethod DerivedMethod → Fate
  | .error m => .skipped m
  | .ok derived =>
    if known.contains derived.method.name then .existing derived.method.name
    else
      match t.translate derived.query derived.method with
      | .error e => .failed ⟨derived.method.name, e⟩
      | .ok s => .added s

/-- What may become of a derived method, whatever is known. -/
inductive Befits (t : Translator) : Except SkippedMethod DerivedMethod → Fate → Prop
  | added {derived : DerivedMethod} {s : Statement}
    (h : t.translate derived.query derived.method = .ok s) : Befits t (.ok derived) (.added s)
  | existing (derived : DerivedMethod) : Befits t (.ok derived) (.existing derived.method.name)
  | skipped (m : SkippedMethod) : Befits t (.error m) (.skipped m)
  | failed {derived : DerivedMethod} {e : TranslateError}
    (h : t.translate derived.query derived.method = .error e) :
    Befits t (.ok derived) (.failed ⟨derived.method.name, e⟩)

variable {t : Translator} {known : IdSnapshot}

theorem befits_of (x : Except SkippedMethod DerivedMethod) : Befits t x (of t known x) := by
  cases x with
  | error m => exact .skipped m
  | ok derived =>
    rw [of]
    split
    · exact .existing derived
    · split
      next e h => exact .failed h
      next s h => exact .added h

/-- A statement is added under a name that is not known. -/
theorem of_eq_added {x : Except SkippedMethod DerivedMethod} {s : Statement}
    (h : of t known x = .added s) : known.contains s.id = false := by
  cases x with
  | error m => cases h
  | ok derived =>
    rw [of] at h
    split at h
    · cases h
    next hnew =>
      split at h
      · cases h
      next s' hs =>
        cases h
        rw [(Translator.translate_assembled hs).id]
        exact Bool.eq_false_iff.mpr hnew

/-- A candidate that has a statement is one whose name is known. -/
theorem of_eq_existing {x : Except SkippedMethod DerivedMethod} {name : String}
    (h : of t known x = .existing name) : known.contains name = true := by
  cases x with
  | error m => cases h
  | ok derived =>
    rw [of] at h
    split at h
    next hknown =>
      cases h
      exact hknown
    · split at h <;> cases h

end Fate

/-! ## Known ids -/

namespace IdSnapshot

/-- The ids that are known after the fate of one more candidate. -/
def after (known : IdSnapshot) : Fate → IdSnapshot
  | .added s => known.record s.id
  | _ => known

theorem contains_record {known : IdSnapshot} {id other : String} :
    (known.record id).contains other = true ↔ other = id ∨ known.contains other = true := by
  unfold record
  split
  next hid =>
    refine ⟨.inr, ?_⟩
    rintro (rfl | h)
    · exact hid
    · exact h
  · simp [contains, or_comm]

theorem contains_after {known : IdSnapshot} {fate : Fate} {id : String} :
    (known.after fate).contains id = true ↔
      (∃ s, fate = .added s ∧ s.id = id) ∨ known.contains id = true := by
  cases fate with
  | added s =>
    rw [after, contains_record, eq_comm]
    simp
  | existing | skipped | failed => simp [after]

/-- After some fates the ids are known that were known before and those of the statements that
were added. -/
theorem contains_foldl_after {known : IdSnapshot} {fs : List Fate} {id : String} :
    (fs.foldl after known).contains id = true ↔
      (∃ s, .added s ∈ fs ∧ s.id = id) ∨ known.contains id = true := by
  induction fs generalizing known with
  | nil => simp
  | cons fate fs ih =>
    rw [List.foldl_cons, ih, contains_after]
    constructor
    · rintro (⟨s, hs, rfl⟩ | ⟨s, rfl, rfl⟩ | h)
      · exact .inl ⟨s, .tail _ hs, rfl⟩
      · exact .inl ⟨s, .head _, rfl⟩
      · exact .inr h
    · rintro (⟨s, hs, rfl⟩ | h)
      · rcases List.mem_cons.mp hs with hs | hs
        · exact .inr (.inl ⟨s, hs.symm, rfl⟩)
        · exact .inl ⟨s, hs, rfl⟩
      · exact .inr (.inr h)

theorem contains_ofList {ids : List String} {id : String} :
    (ofList ids).contains id = true ↔ id ∈ ids := by
  suffices ∀ known : IdSnapshot, (ids.foldl record known).contains id = true ↔
      id ∈ ids ∨ known.contains id = true by
    simpa [ofList, empty, contains] using this empty
  induction ids with
  | nil => simp
  | cons other ids ih =>
    intro known
    rw [List.foldl_cons, ih, contains_record, List.mem_cons]
    tauto

end IdSnapshot

/-- The snapshot of a document knows the ids of its statements. -/
theorem Document.contains_snapshot {d : Document} {id : String} :
    d.snapshot.contains id = true ↔ id ∈ d.statements.map (·.id) := IdSnapshot.contains_ofList

/-! ## Histories -/

/-- What becomes of derived methods one after another. -/
def fates (t : Translator) (known : IdSnapshot) :
    List (Except SkippedMethod DerivedMethod) → List Fate
  | [] => []
  | x :: xs => Fate.of t known x :: fates t (known.after (Fate.of t known x)) xs

section

variable {t : Translator} {known : IdSnapshot} {xs : List (Except SkippedMethod DerivedMethod)}

/-- The fate of a candidate depends on the fates before it through the ids they made known. -/
theorem fates_split {earlier later : List Fate} {fate : Fate}
    (h : fates t known xs = earlier ++ fate :: later) :
    ∃ x ∈ xs, fate = Fate.of t (earlier.foldl IdSnapshot.after known) x := by
  induction earlier generalizing known xs with
  | nil =>
    cases xs with
    | nil => cases h
    | cons x xs =>
      cases h
      exact ⟨x, .head _, rfl⟩
  | cons first earlier ih =>
    cases xs with
    | nil => cases h
    | cons x xs =>
      rw [fates, List.cons_append, List.cons.injEq] at h
      obtain ⟨rfl, h⟩ := h
      obtain ⟨y, hy, hfate⟩ := ih h
      exact ⟨y, .tail _ hy, hfate⟩

/-- The statements that are added are those of derived methods. -/
theorem translate_of_mem_fates {s : Statement}
    (h : s ∈ (fates t known xs).filterMap Fate.added?) :
    ∃ derived, .ok derived ∈ xs ∧ t.translate derived.query derived.method = .ok s := by
  obtain ⟨fate, hmem, hfate⟩ := List.mem_filterMap.mp h
  obtain ⟨earlier, later, hsplit⟩ := List.append_of_mem hmem
  obtain ⟨x, hx, hof⟩ := fates_split hsplit
  have hbefits : Fate.Befits t x fate := hof ▸ Fate.befits_of x
  cases hbefits with
  | added hs =>
    cases hfate
    exact ⟨_, hx, hs⟩
  | existing | skipped | failed => cases hfate

end

namespace Progress

/-- The progress before the first candidate. -/
def start (d : Document) : Progress := ⟨{ document := d }, d.snapshot⟩

/-- The progress with the fate of one more candidate put down. -/
def put (p : Progress) : Fate → Progress
  | .added s => {
      report := { p.report with
        document := { p.report.document with statements := p.report.document.statements ++ [s] }
        added := p.report.added ++ [s.id] }
      known := p.known.record s.id }
  | .existing name => { p with report.existing := p.report.existing ++ [name] }
  | .skipped m => { p with report.skipped := p.report.skipped ++ [m] }
  | .failed m => { p with report.failed := p.report.failed ++ [m] }

/-- The progress with the fates of some more candidates, list by list. -/
def extend (p : Progress) (fs : List Fate) : Progress where
  report := {
    document := { p.report.document with
      statements := p.report.document.statements ++ fs.filterMap Fate.added? }
    added := p.report.added ++ (fs.filterMap Fate.added?).map (·.id)
    existing := p.report.existing ++ fs.filterMap Fate.existing?
    skipped := p.report.skipped ++ fs.filterMap Fate.skipped?
    failed := p.report.failed ++ fs.filterMap Fate.failed? }
  known := fs.foldl IdSnapshot.after p.known

theorem extend_nil (p : Progress) : p.extend [] = p := by
  simp [extend]

theorem extend_append (p : Progress) (fs gs : List Fate) :
    p.extend (fs ++ gs) = (p.extend fs).extend gs := by
  simp [extend]

theorem put_eq_extend (p : Progress) (fate : Fate) : p.put fate = p.extend [fate] := by
  cases fate <;>
    simp [put, extend, Fate.added?, Fate.existing?, Fate.skipped?, Fate.failed?, IdSnapshot.after,
      List.filterMap_cons]

/-- A step puts down what becomes of a method where the ids known so far are. -/
theorem step_eq_put (t : Translator) (p : Progress) (x : Except SkippedMethod DerivedMethod) :
    p.step t x = p.put (Fate.of t p.known x) := by
  cases x with
  | error m => rfl
  | ok derived =>
    rw [step, Document.apply, Fate.of]
    by_cases hknown : p.known.contains derived.method.name = true
    · rw [if_pos hknown, if_pos hknown]
      rfl
    · rw [if_neg hknown, if_neg hknown]
      cases hs : t.translate derived.query derived.method with
      | error e => rfl
      | ok s =>
        show Progress.mk _ (p.known.record derived.method.name) = _
        rw [← (Translator.translate_assembled hs).id]
        rfl

/-- A run puts down the fates of its methods in their order. -/
theorem foldl_step (t : Translator) (p : Progress)
    (xs : List (Except SkippedMethod DerivedMethod)) :
    xs.foldl (step t) p = p.extend (fates t p.known xs) := by
  induction xs generalizing p with
  | nil => rw [List.foldl_nil, fates, extend_nil]
  | cons x xs ih =>
    rw [List.foldl_cons, ih, step_eq_put, put_eq_extend]
    exact (extend_append p [_] _).symm

/-- The known ids are those of the document. -/
def InStep (p : Progress) : Prop := p.known = p.report.document.snapshot

theorem inStep_start (d : Document) : (start d).InStep := rfl

theorem InStep.put {p : Progress} (h : p.InStep) (fate : Fate) : (p.put fate).InStep := by
  cases fate with
  | added s =>
    show p.known.record s.id = IdSnapshot.ofList ((_ ++ [s]).map (·.id))
    rw [List.map_append, IdSnapshot.ofList, List.foldl_append, h]
    rfl
  | existing | skipped | failed => exact h

/-- Every run keeps the known ids and the document alike. -/
theorem InStep.foldl (t : Translator) {p : Progress} (h : p.InStep)
    (xs : List (Except SkippedMethod DerivedMethod)) : (xs.foldl (step t) p).InStep := by
  induction xs generalizing p with
  | nil => exact h
  | cons x xs ih =>
    rw [List.foldl_cons, step_eq_put]
    exact ih (h.put _)

end Progress

/-! ## The run of a manifest -/

namespace Manifest

variable {m : Manifest}

/-- What is derived for a candidate. -/
def derive (m : Manifest) (c : Candidate) : Except SkippedMethod DerivedMethod :=
  deriveMethod m.resolver (.simple m.mapper) c.method

/-- The progress of a run over candidates from a document. -/
def progress (m : Manifest) (before : Document) (cs : List Candidate) : Progress :=
  (cs.map m.derive).foldl (Progress.step m.translator) (.start before)

theorem progress_eq_extend (before : Document) (cs : List Candidate) :
    m.progress before cs = (Progress.start before).extend
      (fates m.translator before.snapshot (cs.map m.derive)) :=
  Progress.foldl_step ..

/-- A run over one more candidate goes one step further. -/
theorem progress_concat (before : Document) (cs : List Candidate) (c : Candidate) :
    m.progress before (cs ++ [c]) = (m.progress before cs).put
      (Fate.of m.translator (m.progress before cs).known (m.derive c)) := by
  rw [progress, List.map_append, List.foldl_append, ← Progress.step_eq_put]
  rfl

/-- A run starts from the given document if it is one of the namespace, or else from an empty
one. -/
theorem startingDocument_eq_ok {existing : Option Document} {d : Document} :
    m.startingDocument existing = .ok d ↔
      (∀ given ∈ existing, given.namespaceName = m.namespaceName) ∧
      d = existing.getD ⟨m.namespaceName, []⟩ := by
  cases existing with
  | none => simp [startingDocument, eq_comm]
  | some given =>
    unfold startingDocument Document.ensureNamespace
    rw [bind_eq_ok]
    by_cases hnamespace : given.namespaceName = m.namespaceName
    · simp [hnamespace, pure, Except.pure, eq_comm]
    · simp [hnamespace]

/-- A run succeeds if the mapper is declared and a given document is one of the namespace. -/
theorem generate_eq_ok {existing : Option Document} {r : Report} :
    m.generate existing = .ok r ↔
      m.typeTable.contains m.mapper = true ∧
      (∀ given ∈ existing, given.namespaceName = m.namespaceName) ∧
      r = (m.progress (existing.getD ⟨m.namespaceName, []⟩)
        (candidates m.typeTable m.mapper)).report := by
  unfold generate
  cases hmapper : m.typeTable.contains m.mapper with
  | false => simp
  | true =>
    cases hstart : m.startingDocument existing with
    | error e =>
      refine iff_of_false (fun h => by cases h) fun ⟨_, hnamespace, _⟩ => ?_
      rw [startingDocument_eq_ok.mpr ⟨hnamespace, rfl⟩] at hstart
      cases hstart
    | ok d =>
      obtain ⟨hnamespace, rfl⟩ := startingDocument_eq_ok.mp hstart
      constructor
      · intro h
        cases h
        exact ⟨rfl, hnamespace, rfl⟩
      · rintro ⟨-, -, rfl⟩
        rfl

end Manifest

/-! ## A run with every fate -/

/-- A mapper whose candidates meet every fate: the inherited `find` returns nothing, `refresh`
starts with no operation, `count` is overloaded and `insert` has nothing to insert. -/
def counting : Manifest where
  mapper := "CountMapper"
  settings := { table := some "entries", platformTypes := false }
  types := [
    { name := "Lookup", kind := .interfaceType, methods := [{ name := "find" }] },
    { name := "CountMapper", kind := .interfaceType, interfaces := [.simple "Lookup"]
      methods := [
        { name := "refresh" },
        { name := "count", returns := .primitive "long" },
        { name := "exists", returns := .primitive "boolean" },
        { name := "count", params := [{ name := "age", type := .primitive "int" }]
          returns := .primitive "int" },
        { name := "find", returns := .primitive "int" },
        { name := "insert", returns := .primitive "int" }] }]

/-- A document with a statement that was written by hand. -/
def handWritten : Document where
  namespaceName := "CountMapper"
  statements := [{ id := "exists", kind := .select, body := [.text "SELECT 1"] }]

/-- The report of the mapper's run from the document. -/
def countingReport : Report where
  document :=
    { handWritten with
      statements := handWritten.statements ++ [
        { id := "count", kind := .select, resultType := some "long", generated := true
          body := [.text "SELECT COUNT(*) FROM entries"] },
        { id := "find", kind := .select, resultType := some "int", generated := true
          body := [.text "SELECT * FROM entries"] }] }
  added := ["count", "find"]
  existing := ["exists", "count"]
  skipped := [⟨"refresh", .notDerivable (.lex (.missingOperation "refresh"))⟩]
  failed := [⟨"find", .invalidReturn "find" "a value"⟩, ⟨"insert", .missingPayload "insert"⟩]

theorem generate_counting : counting.generate (some handWritten) = .ok countingReport := by
  cbv

end DerivedQuery
