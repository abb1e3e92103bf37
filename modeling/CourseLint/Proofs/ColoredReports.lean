import CourseLint.Proofs.Cuts
import CourseLint.Proofs.JsonText
import CourseLint.Proofs.Rewriting
import CourseLint.Report.Human

set_option autoImplicit false

namespace CourseLint.Report

def isParameter (c : Char) : Bool := c.isDigit || c == ';'

def sequence? : Text → Option (Text × Text)
  | '\x1b' :: '[' :: rest =>
    match rest.dropWhile isParameter with
    | 'm' :: after => some (rest.takeWhile isParameter, after)
    | _ => none
  | _ => none

theorem sequence?_eq_some_iff (text parameters after : Text) :
    sequence? text = some (parameters, after) ↔
      text = escapeSequence parameters ++ after ∧ ∀ c ∈ parameters, isParameter c = true := by
  constructor
  · intro found
    unfold sequence? at found
    split at found
    case h_1 rest =>
      have parts := @List.takeWhile_append_dropWhile _ isParameter rest
      split at found
      case h_1 behind ends =>
        obtain ⟨rfl, rfl⟩ := Prod.mk.inj (Option.some.inj found)
        rw [ends] at parts
        constructor
        · simpa [escapeSequence] using parts.symm
        · exact fun c member => List.mem_takeWhile_imp member
      case h_2 => cases found
    case h_2 => cases found
  · intro parts
    obtain ⟨rfl, all⟩ := parts
    have whole : (parameters ++ 'm' :: after).takeWhile isParameter = parameters :=
      Text.takeWhile_run all (by simp [isParameter, Char.isDigit])
    have halves := @List.takeWhile_append_dropWhile _ isParameter (parameters ++ 'm' :: after)
    rw [whole] at halves
    have behind := List.append_cancel_left halves
    simp [escapeSequence, sequence?, whole, behind]

inductive Signal where
  | sequence (parameters : Text)
  | character (c : Char)
deriving DecidableEq

def signals : Text → List Signal
  | [] => []
  | c :: rest =>
    match _found : sequence? (c :: rest) with
    | some (parameters, after) => .sequence parameters :: signals after
    | none => .character c :: signals rest
termination_by text => text.length
decreasing_by
  · have parts := ((sequence?_eq_some_iff _ _ _).mp _found).1
    rw [parts]
    simp [escapeSequence]
    omega
  · simp

def Signal.character? : Signal → Option Char
  | .sequence _ => none
  | .character c => some c

def bare (text : Text) : Text := (signals text).filterMap Signal.character?

def Signal.select (styles : List Text) : Signal → List Text
  | .sequence parameters => if parameters = ['0'] then [] else styles ++ [parameters]
  | .character _ => styles

def shown (styles : List Text) : List Signal → List (Char × List Text)
  | [] => []
  | signal :: later =>
    (signal.character?.map (·, styles)).toList ++ shown (signal.select styles) later

theorem signals_sequence {parameters : Text} (all : ∀ c ∈ parameters, isParameter c = true)
    (rest : Text) :
    signals (escapeSequence parameters ++ rest) = .sequence parameters :: signals rest := by
  cases opens : escapeSequence parameters ++ rest with
  | nil => simp [escapeSequence] at opens
  | cons c later =>
    have found := (sequence?_eq_some_iff _ parameters rest).mpr ⟨opens.symm, all⟩
    rw [signals]
    split
    case h_1 parameters' after' found' =>
      cases found.symm.trans found'
      rfl
    case h_2 absent => simp [found] at absent

theorem signals_plain {text : Text} (noEscape : '\x1b' ∉ text) (rest : Text) :
    signals (text ++ rest) = text.map .character ++ signals rest := by
  induction text with
  | nil => rfl
  | cons c text ih =>
    simp only [List.mem_cons, not_or] at noEscape
    rw [List.cons_append, signals]
    split
    case h_1 parameters after found =>
      have opens := ((sequence?_eq_some_iff _ _ _).mp found).1
      exact absurd (List.cons.inj opens).1.symm noEscape.1
    case h_2 =>
      rw [ih noEscape.2]
      rfl

theorem shown_append (styles : List Text) (first later : List Signal) :
    shown styles (first ++ later) =
      shown styles first ++ shown (first.foldl Signal.select styles) later := by
  induction first generalizing styles with
  | nil => rfl
  | cons signal first ih => simp [shown, ih]

structure Run where
  styles : List Style
  text : Text

def Run.rendered [Writer] (color : Bool) (run : Run) : Text := styled color run.styles run.text

def Run.signals (run : Run) : List Signal :=
  if run.styles.isEmpty then run.text.map .character
  else
    run.styles.map (.sequence ·.parameters) ++ run.text.map .character ++ [.sequence ['0']]

section Run

variable (run : Run)

theorem Style.isParameter_of_mem (style : Style) :
    ∀ c ∈ style.parameters, isParameter c = true := by
  cases style <;> exact List.all_eq_true.mp rfl

theorem Style.parameters_ne_reset (style : Style) : style.parameters ≠ ['0'] := by
  cases style <;> decide

theorem signals_styles (styles : List Style) (rest : Text) :
    signals (styles.flatMap (escapeSequence ·.parameters) ++ rest) =
      styles.map (.sequence ·.parameters) ++ signals rest := by
  induction styles with
  | nil => rfl
  | cons style styles ih =>
    rw [List.flatMap_cons, List.append_assoc, signals_sequence style.isParameter_of_mem, ih]
    rfl

theorem Run.signals_rendered [Writer] [LawfulWriter] {run : Run} (noEscape : '\x1b' ∉ run.text)
    (rest : Text) :
    Report.signals (run.rendered true ++ rest) = run.signals ++ Report.signals rest := by
  unfold Run.rendered styled Run.signals
  cases unstyled : run.styles.isEmpty with
  | true => exact signals_plain noEscape rest
  | false =>
    have paints := LawfulWriter.paint_eq run.styles run.text (List.isEmpty_eq_false_iff.mp unstyled)
    have reset : ∀ c ∈ ['0'], isParameter c = true := List.all_eq_true.mp rfl
    simp [paints, painted, signals_styles, signals_plain noEscape, signals_sequence reset]

theorem foldl_select_styles (opened : List Text) (styles : List Style) :
    (styles.map fun style => Signal.sequence style.parameters).foldl Signal.select opened =
      opened ++ styles.map Style.parameters := by
  induction styles generalizing opened with
  | nil => simp
  | cons style styles ih => simp [Signal.select, style.parameters_ne_reset, ih]

theorem foldl_select_characters (opened : List Text) (text : Text) :
    (text.map Signal.character).foldl Signal.select opened = opened := by
  induction text with
  | nil => rfl
  | cons c text ih => exact ih

theorem shown_styles (opened : List Text) (styles : List Style) :
    shown opened (styles.map fun style => Signal.sequence style.parameters) = [] := by
  induction styles generalizing opened with
  | nil => rfl
  | cons style styles ih => simp [shown, Signal.character?, ih]

theorem shown_characters (opened : List Text) (text : Text) :
    shown opened (text.map Signal.character) = text.map (·, opened) := by
  induction text with
  | nil => rfl
  | cons c text ih => simp [shown, Signal.character?, Signal.select, ih]

theorem Run.foldl_select : run.signals.foldl Signal.select [] = [] := by
  unfold Run.signals
  split
  · exact foldl_select_characters [] run.text
  · simp [Signal.select]

theorem Run.shown_signals :
    shown [] run.signals = run.text.map (·, run.styles.map Style.parameters) := by
  unfold Run.signals
  split
  · next isEmpty => simp [shown_characters, List.isEmpty_iff.mp isEmpty]
  · simp [shown_append, shown_styles, foldl_select_styles, shown_characters, shown,
      Signal.character?]

theorem Run.filterMap_signals : run.signals.filterMap Signal.character? = run.text := by
  unfold Run.signals
  split <;> simp [Function.comp_def, Signal.character?]

end Run

section Row

variable {row : List Run}

theorem signals_row [Writer] [LawfulWriter] (noEscape : ∀ run ∈ row, '\x1b' ∉ run.text) :
    signals (row.flatMap (Run.rendered true)) = row.flatMap Run.signals := by
  induction row with
  | nil => simp [signals]
  | cons run row ih =>
    have first := noEscape run List.mem_cons_self
    have later := ih fun other member => noEscape other (List.mem_cons_of_mem _ member)
    rw [List.flatMap_cons, Run.signals_rendered first, later, List.flatMap_cons]

theorem foldl_select_row (row : List Run) :
    (row.flatMap Run.signals).foldl Signal.select [] = [] := by
  induction row with
  | nil => rfl
  | cons run row ih => rw [List.flatMap_cons, List.foldl_append, run.foldl_select, ih]

theorem shown_row (row : List Run) :
    shown [] (row.flatMap Run.signals) =
      row.flatMap fun run => run.text.map (·, run.styles.map Style.parameters) := by
  induction row with
  | nil => rfl
  | cons run row ih =>
    rw [List.flatMap_cons, shown_append, run.foldl_select, run.shown_signals, ih, List.flatMap_cons]

theorem bare_row [Writer] [LawfulWriter] (noEscape : ∀ run ∈ row, '\x1b' ∉ run.text) :
    bare (row.flatMap (Run.rendered true)) = row.flatMap (Run.rendered false) := by
  rw [bare, signals_row noEscape, List.filterMap_flatMap]
  simp only [Run.filterMap_signals]
  rfl

end Row

def codeRuns (code : Code) : List Run :=
  [⟨[], "   = see: "⟩, ⟨[.dim], code.url⟩, ⟨[], "\n"⟩]

def diagnosticRuns (diagnostic : Diagnostic) : List Run :=
  [⟨severityStyles diagnostic.severity, header diagnostic⟩,
    ⟨[], ": " ++ diagnostic.message ++ "\n  "⟩,
    ⟨[.dim], "-->"⟩,
    ⟨[], " " ++ diagnostic.path ++ ":" ++ Text.ofNat diagnostic.range.start.line ++ ":" ++
      Text.ofNat diagnostic.range.start.column ++ "\n"⟩,
    ⟨[], (diagnostic.suggestion.map help).getD []⟩] ++
  ((diagnostic.code.map codeRuns).getD []) ++ [⟨[], "\n"⟩]

def runs (diagnostics : List Diagnostic) : List Run :=
  diagnostics.flatMap diagnosticRuns ++ [⟨[], summary diagnostics⟩]

theorem humanDiagnostic_eq_runs [Writer] (color : Bool) (diagnostic : Diagnostic) :
    humanDiagnostic color diagnostic =
      (diagnosticRuns diagnostic).flatMap (Run.rendered color) := by
  have unstyled (text : Text) : styled color [] text = text := by simp [styled]
  cases code : diagnostic.code with
  | none => simp [humanDiagnostic, diagnosticRuns, Run.rendered, unstyled, code]
  | some code => simp [humanDiagnostic, diagnosticRuns, codeRuns, Run.rendered, unstyled, code]

theorem human_eq_runs [Writer] (color : Bool) (diagnostics : List Diagnostic) :
    human color diagnostics = (runs diagnostics).flatMap (Run.rendered color) := by
  have each : humanDiagnostic color = fun diagnostic =>
      (diagnosticRuns diagnostic).flatMap (Run.rendered color) :=
    funext (humanDiagnostic_eq_runs color)
  rw [human, runs, List.flatMap_append, List.flatMap_assoc, each]
  simp [Run.rendered, styled]

structure Unescaped (diagnostic : Diagnostic) : Prop where
  path : '\x1b' ∉ diagnostic.path
  message : '\x1b' ∉ diagnostic.message
  suggestion : ∀ suggestion ∈ diagnostic.suggestion, '\x1b' ∉ suggestion.text
  code : ∀ code ∈ diagnostic.code, '\x1b' ∉ code.value
  code_no_feed : ∀ code ∈ diagnostic.code, '\n' ∉ code.value

section Clean

variable {diagnostic : Diagnostic} {diagnostics : List Diagnostic}

theorem not_mem_ofNat {control : Char} (noDigit : control.isDigit = false) (n : Nat) :
    control ∉ Text.ofNat n := by
  intro member
  simp [Json.digit_of_mem_ofNat member] at noDigit

theorem no_escape_summary (diagnostics : List Diagnostic) : '\x1b' ∉ summary diagnostics := by
  unfold summary
  split
  · simp
  · simp [not_mem_ofNat]

theorem no_escape_help {suggestion : Suggestion} (noEscape : '\x1b' ∉ suggestion.text) :
    '\x1b' ∉ help suggestion := by
  have noText : '\x1b' ∉ withoutFinalFeeds suggestion.text := by
    intro member
    rw [withoutFinalFeeds, List.mem_reverse] at member
    exact noEscape (List.mem_reverse.mp ((List.dropWhile_sublist _).mem member))
  simp only [help]
  split
  · simp
  · simp [noText]

section Control

variable {control : Char} (isControl : control.toNat < 0x20)

include isControl

theorem not_mem_printable {text : Text} (printable : text.all (0x20 ≤ ·.toNat) = true) :
    control ∉ text := by
  intro member
  have large := of_decide_eq_true (List.all_eq_true.mp printable control member)
  omega

theorem no_control_url {code : Code} (positive : 0 < control.toNat)
    (absent : control ∉ code.value) : control ∉ code.url := by
  have noAnchor : control ∉ code.anchor := by
    apply Text.no_control_lower positive isControl
    simp [absent]
  have noFront : control ∉ Code.documentation ++ ['#'] :=
    not_mem_printable isControl (by decide)
  rw [Code.url, List.append_cons, List.mem_append]
  exact not_or.mpr ⟨noFront, noAnchor⟩

theorem no_control_header (absent : ∀ code ∈ diagnostic.code, control ∉ code.value) :
    control ∉ header diagnostic := by
  have noName : control ∉ diagnostic.severity.name ++ ['['] := by
    apply not_mem_printable isControl
    cases diagnostic.severity <;> decide
  have noBracket : control ∉ [']'] := not_mem_printable isControl (by decide)
  unfold header
  split
  · next code found =>
    rw [List.append_assoc, List.cons_append, List.append_cons]
    simp only [List.mem_append, not_or] at noName ⊢
    exact ⟨noName, absent code found, noBracket⟩
  · exact fun member => noName (List.mem_append_left _ member)

end Control

structure Run.Clean (run : Run) : Prop where
  no_escape : '\x1b' ∉ run.text
  no_feed : run.styles ≠ [] → '\n' ∉ run.text

theorem Run.Clean.plain {text : Text} (noEscape : '\x1b' ∉ text) : Run.Clean ⟨[], text⟩ :=
  ⟨noEscape, fun styled => absurd rfl styled⟩

theorem clean_codeRuns {code : Code} (noEscape : '\x1b' ∉ code.value) (noFeed : '\n' ∉ code.value) :
    ∀ run ∈ codeRuns code, run.Clean := by
  have urlEscape : '\x1b' ∉ code.url := no_control_url (by decide) (by decide) noEscape
  have urlFeed : '\n' ∉ code.url := no_control_url (by decide) (by decide) noFeed
  simp only [codeRuns, List.forall_mem_cons]
  exact ⟨.plain (by decide), ⟨urlEscape, fun _ => urlFeed⟩, .plain (by decide), by simp⟩

theorem clean_diagnosticRuns (unescaped : Unescaped diagnostic) :
    ∀ run ∈ diagnosticRuns diagnostic, run.Clean := by
  have headerRun : Run.Clean ⟨severityStyles diagnostic.severity, header diagnostic⟩ :=
    ⟨no_control_header (by decide) unescaped.code,
      fun _ => no_control_header (by decide) unescaped.code_no_feed⟩
  have arrowRun : Run.Clean ⟨[.dim], "-->"⟩ := by constructor <;> decide
  have helpText : '\x1b' ∉ (diagnostic.suggestion.map help).getD [] := by
    cases found : diagnostic.suggestion with
    | none => simp
    | some suggestion => exact no_escape_help (unescaped.suggestion suggestion found)
  have codes : ∀ run ∈ (diagnostic.code.map codeRuns).getD [], run.Clean := by
    cases found : diagnostic.code with
    | none => simp
    | some code =>
      exact clean_codeRuns (unescaped.code code found) (unescaped.code_no_feed code found)
  have messageRun : Run.Clean ⟨[], ": " ++ diagnostic.message ++ "\n  "⟩ :=
    .plain (by simp [unescaped.message])
  have placeRun : Run.Clean ⟨[], " " ++ diagnostic.path ++ ":" ++
      Text.ofNat diagnostic.range.start.line ++ ":" ++
      Text.ofNat diagnostic.range.start.column ++ "\n"⟩ :=
    .plain (by simp [unescaped.path, not_mem_ofNat])
  simp only [diagnosticRuns, List.forall_mem_append, List.forall_mem_cons]
  exact ⟨⟨⟨headerRun, messageRun, arrowRun, placeRun, .plain helpText, by simp⟩, codes⟩,
    .plain (by decide), by simp⟩

theorem clean_of_mem_runs (unescaped : ∀ diagnostic ∈ diagnostics, Unescaped diagnostic) {run : Run}
    (member : run ∈ runs diagnostics) : run.Clean := by
  rw [runs, List.mem_append, List.mem_flatMap, List.mem_singleton] at member
  cases member with
  | inl ofDiagnostic =>
    obtain ⟨diagnostic, reported, inside⟩ := ofDiagnostic
    exact clean_diagnosticRuns (unescaped diagnostic reported) run inside
  | inr last =>
    rw [last]
    exact ⟨no_escape_summary diagnostics, fun styled => absurd rfl styled⟩

end Clean

theorem human_shows_runs [Writer] [LawfulWriter] {diagnostics : List Diagnostic}
    (unescaped : ∀ diagnostic ∈ diagnostics, Unescaped diagnostic) :
    bare (human true diagnostics) = human false diagnostics ∧
      shown [] (signals (human true diagnostics)) =
        ((runs diagnostics).flatMap fun run =>
          run.text.map (·, run.styles.map Style.parameters)) ∧
      (∀ styles, ('\n', styles) ∈ shown [] (signals (human true diagnostics)) → styles = []) ∧
      (signals (human true diagnostics)).foldl Signal.select [] = [] := by
  have clean (run : Run) (member : run ∈ runs diagnostics) : run.Clean :=
    clean_of_mem_runs unescaped member
  have noEscape (run : Run) (member : run ∈ runs diagnostics) : '\x1b' ∉ run.text :=
    (clean run member).no_escape
  have signalled : signals (human true diagnostics) = (runs diagnostics).flatMap Run.signals := by
    rw [human_eq_runs, signals_row noEscape]
  have shows := shown_row (runs diagnostics)
  rw [← signalled] at shows
  refine ⟨?_, shows, ?_, ?_⟩
  case refine_1 => rw [human_eq_runs, human_eq_runs, bare_row noEscape]
  case refine_2 =>
    intro styles member
    rw [shows, List.mem_flatMap] at member
    obtain ⟨run, inRow, isShown⟩ := member
    obtain ⟨c, inText, same⟩ := List.mem_map.mp isShown
    obtain ⟨rfl, rfl⟩ := Prod.mk.inj same
    cases styled : run.styles with
    | nil => rfl
    | cons style others =>
      exact absurd inText ((clean run inRow).no_feed (by simp [styled]))
  case refine_3 => rw [signalled, foldl_select_row]

def badCall : Diagnostic where
  path := "topics/tutorial.md"
  range := ⟨⟨10, 3⟩, ⟨10, 12⟩⟩
  severity := .error
  code := some ⟨"GTN:006"⟩
  message := "[31mBad call"
  suggestion := some ⟨"\x7b% tool %\x7d\n", ⟨⟨10, 3⟩, ⟨10, 12⟩⟩⟩

def needlessLine : Diagnostic := .deleteLine "a.md" 0 "\x7b: .no_toc\x7d" "Remove it"

theorem human_shows_runs_error_and_warning :
    LawfulWriter ∧ (∀ diagnostic ∈ [badCall, needlessLine], Unescaped diagnostic) ∧
    bare (human true [badCall, needlessLine]) = human false [badCall, needlessLine] ∧
    ((shown [] (signals (human true [badCall, needlessLine]))).filter
      (·.2 == ["31".toList, "1".toList])).map Prod.fst = "error[GTN:006]".toList ∧
    (signals (human true [badCall, needlessLine])).foldl Signal.select [] = [] := by
  have unescaped : ∀ diagnostic ∈ [badCall, needlessLine], Unescaped diagnostic := by
    have call : Unescaped badCall := by
      constructor
      case path => decide
      case message => decide
      case suggestion => rintro suggestion ⟨⟩; decide
      case code => rintro code ⟨⟩; decide
      case code_no_feed => rintro code ⟨⟩; decide
    have line : Unescaped needlessLine := by
      constructor
      case path => decide
      case message => decide
      case suggestion => rintro suggestion ⟨⟩; decide
      case code => rintro code ⟨⟩
      case code_no_feed => rintro code ⟨⟩
    simpa using ⟨call, line⟩
  obtain ⟨same, shows, -, closed⟩ := human_shows_runs unescaped
  refine ⟨inferInstance, unescaped, same, ?_, closed⟩
  rw [shows]
  decide +kernel

end CourseLint.Report
