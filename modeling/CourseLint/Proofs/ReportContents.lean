import CourseLint.Proofs.JsonLines
import CourseLint.Report.Format

set_option autoImplicit false

namespace CourseLint.Report

def InOrder : List Text → Text → Prop
  | [], _ => True
  | piece :: pieces, text => ∃ before after, text = before ++ piece ++ after ∧ InOrder pieces after

section InOrder

variable {pieces others : List Text} {text last : Text}

theorem InOrder.behind (stand : InOrder pieces text) (before : Text) :
    InOrder pieces (before ++ text) := by
  cases pieces with
  | nil => trivial
  | cons piece pieces =>
    obtain ⟨front, after, rfl, later⟩ := stand
    exact ⟨before ++ front, after, by simp, later⟩

theorem InOrder.append (first : InOrder pieces text) (later : InOrder others last) :
    InOrder (pieces ++ others) (text ++ last) := by
  induction pieces generalizing text with
  | nil => exact later.behind text
  | cons piece pieces ih =>
    obtain ⟨before, after, rfl, rest⟩ := first
    exact ⟨before, after ++ last, by simp, ih rest⟩

theorem inOrder_nil (text : Text) : InOrder [] text := trivial

theorem inOrder_singleton (before piece after : Text) :
    InOrder [piece] (before ++ piece ++ after) :=
  ⟨before, after, rfl, trivial⟩

end InOrder

def toldPlace (path : Text) (position : Position) : Text :=
  " " ++ path ++ ":" ++ Text.ofNat position.line ++ ":" ++ Text.ofNat position.column ++ "\n"

def toldHelp (suggestion : Suggestion) : Text :=
  if withoutFinalFeeds suggestion.text = [] then "remove this line\n"
  else '`' :: withoutFinalFeeds suggestion.text ++ "`\n"

def told (diagnostic : Diagnostic) : List Text :=
  (diagnostic.severity.name ::
      (diagnostic.code.map fun code => '[' :: code.value ++ [']']).toList) ++
    [": " ++ diagnostic.message ++ "\n", toldPlace diagnostic.path diagnostic.range.start] ++
    (diagnostic.suggestion.map toldHelp).toList ++ (diagnostic.code.map Code.url).toList

def toldTotals (diagnostics : List Diagnostic) : List Text :=
  [Text.ofNat (diagnostics.countP (·.severity == .error)) ++ " error(s)",
    Text.ofNat (diagnostics.countP (·.severity == .warning)) ++ " warning(s)\n"]

theorem inOrder_header (diagnostic : Diagnostic) :
    InOrder (diagnostic.severity.name ::
      (diagnostic.code.map fun code => '[' :: code.value ++ [']']).toList) (header diagnostic) := by
  unfold header
  cases diagnostic.code with
  | none => exact ⟨[], [], by simp, trivial⟩
  | some code => exact ⟨[], '[' :: code.value ++ [']'], by simp, [], [], by simp, trivial⟩

theorem inOrder_help (suggestion : Suggestion) :
    InOrder [toldHelp suggestion] (help suggestion) := by
  simp only [help, toldHelp, List.isEmpty_iff]
  split
  · exact inOrder_singleton "   = help: " "remove this line\n" []
  · exact ⟨"   = help: replace with ", [], by simp, trivial⟩

-- What a reader of the report learns from it, in each of its formats.
def Tells (diagnostics : List Diagnostic) (report : Text) : ReportFormat → Prop
  | .jsonLines =>
    (Text.splitLines report).flatMap (· ++ ['\n']) = report ∧
      List.Forall₂
        (fun line diagnostic =>
          ∃ json, Json.parse? line = some json ∧ json.record? = some diagnostic.record)
        (Text.splitLines report) diagnostics
  | .human =>
    ∃ blocks ending, report = blocks.flatten ++ ending ∧
      List.Forall₂ (fun block diagnostic => InOrder (told diagnostic) block) blocks diagnostics ∧
      if diagnostics = [] then ending = [] else InOrder (toldTotals diagnostics) ending

variable [Writer]

theorem tells_jsonLines [LawfulWriter] (diagnostics : List Diagnostic) :
    Tells diagnostics (jsonLines diagnostics) .jsonLines := by
  rw [Tells, splitLines_jsonLines]
  refine ⟨List.flatMap_map .., ?_⟩
  rw [List.forall₂_map_left_iff, List.forall₂_same]
  intro diagnostic _
  exact ⟨Json.ofDiagnostic diagnostic, (Json.spells_diagnostic diagnostic).parse?,
    Json.record?_ofDiagnostic diagnostic⟩

section Human

variable {pieces : List Text} {text : Text}

theorem InOrder.styled [LawfulWriter] (stand : InOrder pieces text) (color : Bool)
    (styles : List Style) : InOrder pieces (styled color styles text) := by
  unfold Report.styled
  split
  · next isPainted =>
    have nonempty : styles ≠ [] := by
      rintro rfl
      simp at isPainted
    rw [LawfulWriter.paint_eq styles text nonempty, painted]
    have closed := stand.append (inOrder_nil (escapeSequence ['0']))
    simpa using closed.behind (styles.flatMap (escapeSequence ·.parameters))
  · exact stand

theorem inOrder_humanDiagnostic [LawfulWriter] (color : Bool) (diagnostic : Diagnostic) :
    InOrder (told diagnostic) (humanDiagnostic color diagnostic) := by
  have heading := (inOrder_header diagnostic).styled color (severityStyles diagnostic.severity)
  have message := inOrder_singleton [] (": " ++ diagnostic.message ++ "\n") "  "
  have place := inOrder_singleton (styled color [.dim] "-->")
    (toldPlace diagnostic.path diagnostic.range.start) []
  have helpText : InOrder (diagnostic.suggestion.map toldHelp).toList
      ((diagnostic.suggestion.map help).getD []) := by
    cases diagnostic.suggestion with
    | none => trivial
    | some suggestion => exact inOrder_help suggestion
  have url : InOrder (diagnostic.code.map Code.url).toList
      ((diagnostic.code.map fun code =>
        "   = see: " ++ styled color [.dim] code.url ++ "\n").getD [] ++ "\n") := by
    cases diagnostic.code with
    | none => trivial
    | some code =>
      have linked := (inOrder_singleton [] code.url []).styled color [.dim]
      have whole := (linked.behind "   = see: ").append (inOrder_nil "\n\n")
      simpa using whole
  have whole := (((heading.append message).append place).append helpText).append url
  simpa [told, humanDiagnostic, toldPlace] using whole

theorem tells_human [LawfulWriter] (color : Bool) (diagnostics : List Diagnostic) :
    Tells diagnostics (human color diagnostics) .human := by
  refine ⟨diagnostics.map (humanDiagnostic color), summary diagnostics, ?_, ?_, ?_⟩
  · rw [human, List.flatMap_def]
  · rw [List.forall₂_map_left_iff, List.forall₂_same]
    exact fun diagnostic _ => inOrder_humanDiagnostic color diagnostic
  · unfold summary
    cases diagnostics with
    | nil => rfl
    | cons diagnostic diagnostics =>
      let count := Text.ofNat ((diagnostic :: diagnostics).countP (·.severity == .warning))
      refine ⟨"Found ", " and " ++ count ++ " warning(s)\n", ?_, " and ", [], ?_, trivial⟩ <;>
        simp [count]

end Human

theorem report_tells [LawfulWriter] (format : ReportFormat) (color : Bool)
    (diagnostics : List Diagnostic) :
    Tells diagnostics (format.report color diagnostics) format := by
  cases format with
  | jsonLines => exact tells_jsonLines diagnostics
  | human => exact tells_human color diagnostics

end CourseLint.Report
