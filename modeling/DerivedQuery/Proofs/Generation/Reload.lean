import DerivedQuery.Output
import DerivedQuery.Proofs.Generation.Run
import DerivedQuery.Proofs.Record.JsonLayer
import DerivedQuery.Proofs.Record.Reload

/-!
# Loading what a run wrote

The statements that a run adds are nested no deeper than the conditions of method names make them,
and those it found were nested so that they could be loaded. So a text layer that reads 127 levels
of what it writes loads the document of a run again.
-/

namespace DerivedQuery

open DerivedQuery.Record DerivedQuery.Types

/-- The groups of a method name are at most two, one in the other, and so are nested in a
statement. -/
theorem levels_of_derive {m : Manifest} {c : Candidate} {derived : DerivedMethod} {s : Statement}
    (hderived : m.derive c = .ok derived)
    (hs : m.translator.translate derived.query derived.method = .ok s) :
    Body.levels s.body ≤ 15 := by
  obtain ⟨hparse, -⟩ := deriveMethod_eq_ok.mp hderived
  have hheight := MethodName.height_parse hparse
  have hlevels := Translator.levels_translate hs
  omega

/-- A run adds to a document only statements that are nested no deeper than a reader goes. -/
theorem levels_of_progress {m : Manifest} {before : Document}
    (hbefore : ∀ s ∈ before.statements, Body.levels s.body ≤ 123) (cs : List Candidate) :
    ∀ s ∈ (m.progress before cs).report.document.statements, Body.levels s.body ≤ 123 := by
  intro s hs
  rw [Manifest.progress_eq_extend] at hs
  rcases List.mem_append.mp hs with hold | hadded
  · exact hbefore s hold
  · obtain ⟨derived, hmem, htranslate⟩ := translate_of_mem_fates hadded
    obtain ⟨c, -, hderived⟩ := List.mem_map.mp hmem
    have hlevels := levels_of_derive hderived htranslate
    omega

/-- A document is written as JSON by the text layer of JSON. -/
theorem Document.render_json (d : Document) (overLines : Bool) :
    d.render .json overLines = jsonLayer.write overLines d := rfl

/-- **What a run writes can be loaded again.** With any lawful text layer of 127 levels: where a run
over a document that was loaded, or over none, succeeds, the text of its document, on one line or
over several, is loaded as the same document. -/
theorem load_write_generate {l : TextLayer} (hl : l.Lawful 127) {m : Manifest}
    {existing : Option Document} {r : Report}
    (hloaded : ∀ d ∈ existing, ∃ text, l.load? text = some d) (hrun : m.generate existing = .ok r)
    (overLines : Bool) : l.load? (l.write overLines r.document) = some r.document := by
  obtain ⟨-, -, rfl⟩ := Manifest.generate_eq_ok.mp hrun
  refine TextLayer.load_write hl (levels_of_progress ?_ _) overLines
  cases existing with
  | none => exact List.forall_mem_nil _
  | some d =>
    obtain ⟨text, htext⟩ := hloaded d rfl
    exact TextLayer.levels_of_load hl htext

/-- A text of the document that was written by hand, its records as lists. -/
def handWrittenText : String :=
  "[\"CountMapper\", [[\"exists\", \"select\", null, null, null, false, " ++
    "[[\"text\", \"SELECT 1\"]]]]]"

/-- The document that was written by hand is loaded from JSON, and loaded again with what a run
added to it. -/
theorem ofJson_render_counting :
    jsonLayer.Lawful 127 ∧ Document.ofJson? handWrittenText = some handWritten ∧
      counting.generate (some handWritten) = .ok countingReport ∧
      Document.ofJson? (countingReport.document.render .json true) =
        some countingReport.document := by
  have hloaded : Document.ofJson? handWrittenText = some handWritten := by cbv
  refine ⟨lawful_jsonLayer, hloaded, generate_counting, ?_⟩
  rw [Document.render_json]
  refine load_write_generate lawful_jsonLayer ?_ generate_counting true
  intro d hd
  cases hd
  exact ⟨handWrittenText, hloaded⟩

end DerivedQuery
