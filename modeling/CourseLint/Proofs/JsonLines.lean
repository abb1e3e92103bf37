import Mathlib.Data.List.Forall2
import CourseLint.Proofs.JsonText
import CourseLint.Proofs.Lines

set_option autoImplicit false

namespace CourseLint

open Text

structure Record where
  message : Text
  path : Text
  range : Range
  severity : Severity
  code : Option (Text × Text)
  suggestion : Option Suggestion

def Diagnostic.record (diagnostic : Diagnostic) : Record where
  message := diagnostic.message
  path := diagnostic.path
  range := diagnostic.range
  severity := diagnostic.severity
  code := diagnostic.code.map fun code => (code.value, code.url)
  suggestion := diagnostic.suggestion

namespace Json

def member? (name : Text) : Json → Option Json
  | .object members => members.lookup name
  | _ => none

def text? : Json → Option Text
  | .string text => some text
  | _ => none

def natural? : Json → Option Nat
  | .number (.ofNat n) (.ofNat 0) => some n
  | _ => none

def position? (json : Json) : Option Position := do
  let line ← (← json.member? "line").natural?
  let column ← (← json.member? "column").natural?
  return ⟨line, column⟩

def range? (json : Json) : Option Range := do
  let start ← (← json.member? "start").position?
  let stop ← (← json.member? "end").position?
  return ⟨start, stop⟩

def severity? (json : Json) : Option Severity := do
  let name ← json.text?
  if name = "WARNING" then some .warning
  else if name = "ERROR" then some .error
  else none

def code? (json : Json) : Option (Text × Text) := do
  let value ← (← json.member? "value").text?
  let url ← (← json.member? "url").text?
  return (value, url)

def suggestion? : Json → Option Suggestion
  | .array [json] => do
    let text ← (← json.member? "text").text?
    let range ← (← json.member? "range").range?
    return ⟨text, range⟩
  | _ => none

def optional? {α : Type} (read : Json → Option α) : Option Json → Option (Option α)
  | none => some none
  | some json => (read json).map some

def record? (json : Json) : Option Record := do
  let message ← (← json.member? "message").text?
  let location ← json.member? "location"
  let path ← (← location.member? "path").text?
  let range ← (← location.member? "range").range?
  let severity ← (← json.member? "severity").severity?
  let code ← optional? code? (json.member? "code")
  let suggestion ← optional? suggestion? (json.member? "suggestions")
  return ⟨message, path, range, severity, code, suggestion⟩

def ofPosition (position : Position) : Json :=
  .object [("line", .number position.line 0), ("column", .number position.column 0)]

def ofRange (range : Range) : Json :=
  .object [("start", ofPosition range.start), ("end", ofPosition range.stop)]

def ofLocation (path : Text) (range : Range) : Json :=
  .object [("path", .string path), ("range", ofRange range)]

def ofCode (code : Code) : Json :=
  .object [("value", .string code.value), ("url", .string code.url)]

def ofSuggestion (suggestion : Suggestion) : Json :=
  .object [("text", .string suggestion.text), ("range", ofRange suggestion.range)]

section Written

variable [Report.Writer]

def codeMember (code : Code) : Member where
  name := "code"
  text := Report.jsonCode code
  json := ofCode code

def suggestionMember (suggestion : Suggestion) : Member where
  name := "suggestions"
  text := '[' :: Report.jsonSuggestion suggestion ++ [']']
  json := .array [ofSuggestion suggestion]

section Diagnostics

variable (diagnostic : Diagnostic)

def messageMember : Member where
  name := "message"
  text := Report.jsonString diagnostic.message
  json := .string diagnostic.message

def laterMembers : List Member :=
  [⟨"location", Report.jsonLocation diagnostic.path diagnostic.range,
      ofLocation diagnostic.path diagnostic.range⟩,
    ⟨"severity", Report.jsonString (Report.jsonSeverity diagnostic.severity),
      .string (Report.jsonSeverity diagnostic.severity)⟩] ++
    (diagnostic.code.map codeMember).toList ++
    (diagnostic.suggestion.map suggestionMember).toList

def ofDiagnostic : Json :=
  .object ((messageMember diagnostic :: laterMembers diagnostic).map Member.read)

end Diagnostics

section Spells

variable [Report.LawfulWriter]

theorem spells_pair {first second firstText secondText : Text} {firstJson secondJson : Json}
    (spellsFirst : Spells firstText firstJson) (spellsSecond : Spells secondText secondJson)
    (differ : first ≠ second) :
    Spells (Report.jsonObject [Report.jsonMember first firstText, Report.jsonMember second secondText])
      (.object [(first, firstJson), (second, secondJson)]) := by
  have spelled : ∀ member ∈ [Member.mk first firstText firstJson, ⟨second, secondText, secondJson⟩],
      Spells member.text member.json := by
    simp [spellsFirst, spellsSecond]
  exact spells_object spelled (by simpa using differ)

theorem spells_position (position : Position) :
    Spells (Report.jsonPosition position) (ofPosition position) :=
  spells_pair (spells_natural position.line) (spells_natural position.column) (by decide)

theorem spells_range (range : Range) : Spells (Report.jsonRange range) (ofRange range) :=
  spells_pair (spells_position range.start) (spells_position range.stop) (by decide)

theorem spells_location (path : Text) (range : Range) :
    Spells (Report.jsonLocation path range) (ofLocation path range) :=
  spells_pair (spells_string path) (spells_range range) (by decide)

theorem spells_code (code : Code) : Spells (Report.jsonCode code) (ofCode code) :=
  spells_pair (spells_string code.value) (spells_string code.url) (by decide)

theorem spells_suggestion (suggestion : Suggestion) :
    Spells (Report.jsonSuggestion suggestion) (ofSuggestion suggestion) :=
  spells_pair (spells_string suggestion.text) (spells_range suggestion.range) (by decide)

end Spells

theorem jsonDiagnostic_eq (diagnostic : Diagnostic) :
    Report.jsonDiagnostic diagnostic =
      '{' :: joined (messageMember diagnostic :: laterMembers diagnostic) ++ ['}'] := by
  rw [Report.jsonDiagnostic, Report.jsonObject, joined]
  cases code : diagnostic.code <;> cases suggestion : diagnostic.suggestion <;>
    simp only [laterMembers, code, suggestion] <;> rfl

theorem spells_diagnostic [Report.LawfulWriter] (diagnostic : Diagnostic) :
    Spells (Report.jsonDiagnostic diagnostic) (ofDiagnostic diagnostic) := by
  rw [jsonDiagnostic_eq]
  apply spells_object
  case spelled =>
    intro member isMember
    simp only [laterMembers, List.mem_cons, List.mem_append, List.not_mem_nil, or_false,
      Option.mem_toList, Option.map_eq_some_iff] at isMember
    rcases isMember with rfl | ((rfl | rfl) | ⟨code, -, rfl⟩) | ⟨suggestion, -, rfl⟩
    · exact spells_string diagnostic.message
    · exact spells_location diagnostic.path diagnostic.range
    · exact spells_string (Report.jsonSeverity diagnostic.severity)
    · exact spells_code code
    · exact spells_array (spells_suggestion suggestion)
  case differ =>
    rw [laterMembers]
    cases diagnostic.code <;> cases diagnostic.suggestion <;> exact of_decide_eq_true rfl

theorem record?_ofDiagnostic (diagnostic : Diagnostic) :
    (ofDiagnostic diagnostic).record? = some diagnostic.record := by
  cases diagnostic with
  | mk path range severity code message suggestion =>
    cases severity <;> cases code <;> cases suggestion <;> rfl

theorem code?_ofDiagnostic (diagnostic : Diagnostic) :
    (ofDiagnostic diagnostic).member? "code" = diagnostic.code.map ofCode := by
  cases diagnostic with
  | mk path range severity code message suggestion =>
    cases code <;> cases suggestion <;> rfl

theorem suggestions?_ofDiagnostic (diagnostic : Diagnostic) :
    (ofDiagnostic diagnostic).member? "suggestions" =
      diagnostic.suggestion.map fun suggestion => .array [ofSuggestion suggestion] := by
  cases diagnostic with
  | mk path range severity code message suggestion =>
    cases code <;> cases suggestion <;> rfl

end Written

end Json

namespace Report

section Lines

variable [Writer]

def lineOf (diagnostic : Diagnostic) : Line := ⟨jsonDiagnostic diagnostic, .lineFeed⟩

theorem lineOf_proper [LawfulWriter] (diagnostic : Diagnostic) : (lineOf diagnostic).Proper where
  no_feed := (Json.spells_diagnostic diagnostic).no_feed
  no_return := by
    intro _
    change (jsonDiagnostic diagnostic).getLast? ≠ some '\r'
    rw [jsonDiagnostic, jsonObject, List.getLast?_concat]
    decide
  not_empty := by simp [lineOf]

theorem linesOf_jsonLines [LawfulWriter] (diagnostics : List Diagnostic) :
    linesOf (jsonLines diagnostics) = diagnostics.map lineOf := by
  have source : (diagnostics.map lineOf).flatMap Line.source = jsonLines diagnostics := by
    rw [List.flatMap_map]
    rfl
  have lines := linesOf_flatMap_append (diagnostics.map lineOf) []
    (by simp [lineOf_proper]) (by simp [Line.Closed, lineOf])
  rwa [List.append_nil, source, linesOf, List.append_nil] at lines

theorem count_feed_jsonLines [LawfulWriter] (diagnostics : List Diagnostic) :
    (jsonLines diagnostics).count '\n' = diagnostics.length := by
  induction diagnostics with
  | nil => rfl
  | cons diagnostic diagnostics ih =>
    have clean := (Json.spells_diagnostic diagnostic).no_feed
    rw [jsonLines] at ih ⊢
    rw [List.flatMap_cons, List.count_append, List.count_append, List.count_eq_zero_of_not_mem clean,
      ih, List.count_singleton_self, List.length_cons]
    omega

theorem splitLines_jsonLines [LawfulWriter] (diagnostics : List Diagnostic) :
    splitLines (jsonLines diagnostics) = diagnostics.map jsonDiagnostic := by
  rw [splitLines, linesOf_jsonLines, List.map_map]
  rfl

theorem jsonLines_read_back [LawfulWriter] (diagnostics : List Diagnostic) :
    (jsonLines diagnostics).count '\n' = diagnostics.length ∧
      (splitLines (jsonLines diagnostics)).flatMap (· ++ ['\n']) = jsonLines diagnostics ∧
      List.Forall₂
        (fun line diagnostic =>
          '\n' ∉ line ∧
            ∃ json, Json.parse? line = some json ∧
              json.record? = some diagnostic.record ∧
              (json.member? "code" = none ↔ diagnostic.code = none) ∧
              (json.member? "suggestions" = none ↔ diagnostic.suggestion = none))
        (splitLines (jsonLines diagnostics)) diagnostics := by
  rw [splitLines_jsonLines]
  refine ⟨count_feed_jsonLines diagnostics, List.flatMap_map .., ?_⟩
  rw [List.forall₂_map_left_iff, List.forall₂_same]
  intro diagnostic _
  have spells := Json.spells_diagnostic diagnostic
  refine ⟨spells.no_feed, Json.ofDiagnostic diagnostic, spells.parse?,
    Json.record?_ofDiagnostic diagnostic, ?_, ?_⟩
  · rw [Json.code?_ofDiagnostic, Option.map_eq_none_iff]
  · rw [Json.suggestions?_ofDiagnostic, Option.map_eq_none_iff]

end Lines

def quotedLine : Diagnostic where
  path := "a\\b\".md"
  range := ⟨⟨3, 1⟩, ⟨4, 1⟩⟩
  severity := .error
  code := some ⟨"GTN:006"⟩
  message := "one\ntwo \x01 \"é\""
  suggestion := some ⟨"\t\r\n", ⟨⟨3, 1⟩, ⟨4, 1⟩⟩⟩

theorem jsonLines_read_back_quoted :
    LawfulWriter ∧ (jsonLines [quotedLine]).count '\n' = 1 ∧
      ∃ line json, splitLines (jsonLines [quotedLine]) = [line] ∧ '\n' ∉ line ∧
        Json.parse? line = some json ∧ json.record? = some quotedLine.record ∧
        json.member? "code" ≠ none ∧ json.member? "suggestions" ≠ none := by
  obtain ⟨counted, -, read⟩ := jsonLines_read_back [quotedLine]
  obtain ⟨line, later, ⟨noFeed, json, parsed, same, code, suggestion⟩, rest, isLines⟩ :=
    List.forall₂_cons_right_iff.mp read
  obtain rfl := List.forall₂_nil_right_iff.mp rest
  refine ⟨inferInstance, counted, line, json, isLines, noFeed, parsed, same, ?_, ?_⟩
  · exact fun absent => nomatch code.mp absent
  · exact fun absent => nomatch suggestion.mp absent

end Report

end CourseLint
