import FeatureAudit.Proofs.Detection
import FeatureAudit.Proofs.Script.LineEnds
import FeatureAudit.Proofs.Text.Utf8

/-!
# A source in a file and in memory

A file is read with every line end made a line feed, while a text in memory is looked into as it is. A
stylesheet makes its own line ends line feeds, so it does not matter to one which way it comes. A script does
not: a carriage return that stands alone ends a line in the file only, and the word `await` is found before a
carriage return in memory only.

* **`Stylesheet.normalised_universalNewlines`** — to a stylesheet the ends of its lines are the same.
* **`Audit.extraction_universalNewlines`** — sources in which the same is found either way.
* **`file_is_read_as_its_text`** — what is found in the file of a text, and when it is what is found in the text.
* **`returns_tell_file_from_text`** — scripts in which it is not.
-/
namespace FeatureAudit

open FeatureAudit.Text

/-! ## Stylesheets -/

namespace Stylesheet

/-- A stylesheet reads line ends of its own accord, so to make them line feeds before changes nothing. The induction
is on the text, as line ends are read. -/
theorem normalised_universalNewlines (cs : List Char) :
    normalised (universalNewlines cs) = normalised cs := by
  induction cs using universalNewlines.induct with
  | case1 => rfl
  | case2 rest ih =>
    -- one line feed is left either way, and it is kept
    rw [universalNewlines, normalised, ← ih]
    rw [normalised.eq_3 '\n' (universalNewlines rest) (by simp)]
    rfl
  | case3 c rest hpair ih =>
    rw [universalNewlines.eq_3 c rest hpair, normalised.eq_3 c rest hpair, ← ih]
    by_cases hc : c = '\r'
    · rw [if_pos hc, normalised.eq_3 '\n' (universalNewlines rest) (by simp), if_pos (Or.inl hc)]
      rfl
    · rw [if_neg hc, normalised.eq_3 c (universalNewlines rest) (fun _ heq => absurd heq hc)]

/-- A stylesheet gives the same with all its line ends made one, since that is the first thing that is done to it
anyway. -/
theorem extract_universalNewlines (room : Nat) (r : Registry) (target : Tier) (file text : String) :
    extract room r target file (String.ofList (universalNewlines text.toList)) =
      extract room r target file text := by
  have hlexemes : lexemes (String.ofList (universalNewlines text.toList)) = lexemes text := by
    rw [lexemes, lexemes, String.toList_ofList, normalised_universalNewlines]
  rw [extract, extract, hlexemes]

end Stylesheet

/-! ## Sources -/

namespace Audit

variable {a : Audit} {file text : String}

/-- The same is found in a source whose line ends have been made line feeds, unless it is a script that does not end its
lines plainly. Stylesheets make their line ends one themselves. -/
theorem extraction_universalNewlines
    (h : fileKind? file = some .script → Script.EndsLinesPlainly text) :
    a.extraction file (String.ofList (universalNewlines text.toList)) = a.extraction file text := by
  have hsheet : Stylesheet.extract a.room.entries a.registry a.settings.target file
      (String.ofList (universalNewlines text.toList)) =
        Stylesheet.extract a.room.entries a.registry a.settings.target file text :=
    Stylesheet.extract_universalNewlines _ a.registry a.settings.target file text
  have hscript : fileKind? file = some .script →
      Script.extract a.registry a.settings.target file
        (String.ofList (universalNewlines text.toList)) =
          Script.extract a.registry a.settings.target file text :=
    fun hkind => Script.extract_universalNewlines (h hkind) a.registry a.settings.target file
  -- of the text with plain line ends nothing but this is needed
  generalize String.ofList (universalNewlines text.toList) = text' at hsheet hscript
  unfold extraction
  cases hkind : fileKind? file with
  | none => rfl
  | some kind =>
    cases kind with
    | stylesheet => simp only [hsheet]
    | script => simp only [hscript hkind]

theorem sourceText_encode (text : String) :
    sourceText (encode text) = String.ofList (universalNewlines text.toList) := by
  rw [sourceText, decodeLossy_encode]

end Audit

/-- **A file is read as its text, with line feeds for line ends.** What is found in the file of a text is what is
found in the text with every line end made a line feed. That is what is found in the text itself, unless it is
a script in which a carriage return stands without a line feed after it, or after the word `await`. -/
theorem file_is_read_as_its_text (a : Audit) {fs : Files} {p : Path} {text : String}
    (hread : fs.read p = .ok (encode text)) :
    a.fileExtraction fs p =
        .ok (a.extraction p.toString (String.ofList (universalNewlines text.toList))) ∧
      ((fileKind? p.toString = some .script → Script.EndsLinesPlainly text) →
        a.fileExtraction fs p = .ok (a.extraction p.toString text)) := by
  have hfile : a.fileExtraction fs p =
      .ok (a.extraction p.toString (String.ofList (universalNewlines text.toList))) := by
    rw [Audit.fileExtraction, hread]
    dsimp only
    rw [Audit.sourceText_encode]
  refine ⟨hfile, fun hplain => ?_⟩
  rw [hfile, Audit.extraction_universalNewlines hplain]

/-- A file with a script. -/
def scriptFile (text : String) : Files := ⟨[(["a.js"], .file (encode text))], []⟩

/-- A script whose only line ends in a carriage return and a line feed. -/
theorem file_is_read_as_its_text_with_return :
    (scriptFile "fetch(x)\r\n").read (Path.ofString "a.js") = .ok (encode "fetch(x)\r\n") ∧
      Script.EndsLinesPlainly "fetch(x)\r\n" ∧
      fetchAudit.fileExtraction (scriptFile "fetch(x)\r\n") (Path.ofString "a.js") =
        .ok (fetchAudit.extraction "a.js" "fetch(x)\r\n") ∧
      (fetchAudit.extraction "a.js" "fetch(x)\r\n").usages ≠ [] := by
  have hread : (scriptFile "fetch(x)\r\n").read (Path.ofString "a.js") =
      .ok (encode "fetch(x)\r\n") := by
    decide +kernel
  have hplain : Script.EndsLinesPlainly "fetch(x)\r\n" := by
    constructor
    · rw [Script.ReturnsEndLines]
      decide +kernel
    · have hends : ∀ line ∈ "fetch(x)\r\n".toList.splitOn '\n', ¬ "await\r".toList <:+ line := by
        decide +kernel
      exact fun line hline hawait => hends line hline hawait.isSuffix
  exact ⟨hread, hplain, (file_is_read_as_its_text fetchAudit hread).2 fun _ => hplain,
    by decide +kernel⟩

/-- An audit that knows waiting alone. -/
def awaitAudit : Audit :=
  { registry := .ofFeatures [⟨"async-await", "Async functions", .widelyAvailable, [], [], []⟩]
    settings := {}
    room := .usual }

/-- A carriage return before a call puts it on the second line of the file, and one after the word `await` hides
it in the file. -/
theorem returns_tell_file_from_text :
    ((fetchAudit.fileExtraction (scriptFile "\rfetch(x)") (Path.ofString "a.js")).map
        fun e => e.usages.map Usage.line) = .ok [2] ∧
      (fetchAudit.extraction "a.js" "\rfetch(x)").usages.map Usage.line = [1] ∧
      ((awaitAudit.fileExtraction (scriptFile "await\r\nf()") (Path.ofString "a.js")).map
        Extraction.usages) = .ok [] ∧
      (awaitAudit.extraction "a.js" "await\r\nf()").usages.map Usage.line = [1] := by
  decide +kernel

end FeatureAudit
