import Mathlib.Data.List.Nodup
import CourseLint.CommandLine.RulesCommand
import CourseLint.Proofs.Cuts
import CourseLint.Proofs.Disabling
import CourseLint.Proofs.Lines

set_option autoImplicit false

namespace CourseLint.CommandLine

open Text

structure Row where
  name : Text
  marks : List Text
deriving DecidableEq, Repr

def isRow (line : Text) : Bool := line.head? != some ' '

def readRow (line : Text) : Row where
  name := line.takeWhile (· != ' ')
  marks := splitOn ',' (line.rtakeWhile (· != ' '))

def readListing (listing : Text) : List Row := ((splitLines listing).filter isRow).map readRow

def OneLine (text : Text) : Prop := ∀ c ∈ text, c ≠ '\n' ∧ c ≠ '\r'

instance (text : Text) : Decidable (OneLine text) := List.decidableBAll _ text

theorem OneLine.append {front back : Text} (isFront : OneLine front) (isBack : OneLine back) :
    OneLine (front ++ back) := by
  intro c member
  rcases List.mem_append.mp member with inFront | inBack
  · exact isFront c inFront
  · exact isBack c inBack

theorem OneLine.padRight {text : Text} (oneLine : OneLine text) (length : Nat) :
    OneLine (padRight text length) := by
  apply oneLine.append
  intro c member
  rw [List.eq_of_mem_replicate member]
  decide

theorem splitLines_flatMap {texts : List Text} (oneLine : ∀ text ∈ texts, OneLine text) :
    splitLines (texts.flatMap fun text => text ++ ['\n']) = texts := by
  have proper : ∀ line ∈ texts.map (⟨·, .lineFeed⟩), Line.Proper line := by
    intro line member
    obtain ⟨text, listed, rfl⟩ := List.mem_map.mp member
    constructor
    case no_feed => exact fun feed => (oneLine text listed _ feed).1 rfl
    case no_return =>
      exact fun _ isReturn => (oneLine text listed _ (List.mem_of_getLast? isReturn)).2 rfl
    case not_empty => simp
  have closed : ∀ line ∈ texts.map (⟨·, .lineFeed⟩), Line.Closed line := by simp [Line.Closed]
  have lines := linesOf_flatMap_append _ [] proper closed
  rw [List.append_nil, List.flatMap_map] at lines
  change linesOf (texts.flatMap fun text => text ++ ['\n']) = _ at lines
  rw [splitLines, lines, linesOf, List.append_nil, List.map_map]
  exact List.map_id texts

def rowFront (rule : Rule) : Text :=
  padRight rule.id 24 ++ " " ++ padRight rule.code.value 8 ++ " " ++
    padRight rule.severity.name 8 ++ " " ++ padRight (kindLabel rule.kind) 4

def rowMarks (config : Config) (rule : Rule) : Text := joinWith "," (ruleMarks config rule)

def block (config : Config) (long : Bool) (rule : Rule) : List Text :=
  (rowFront rule ++ ' ' :: rowMarks config rule) ::
    if long then ["    " ++ rule.name ++ ": " ++ rule.description, "    " ++ rule.code.url] else []

theorem flatMap_block (config : Config) (long : Bool) (rule : Rule) :
    ((block config long rule).flatMap fun text => text ++ ['\n']) =
      ruleLine config rule ++ if long then ruleDetails rule else [] := by
  have row : (rowFront rule ++ ' ' :: rowMarks config rule) ++ ['\n'] = ruleLine config rule := by
    rw [List.append_cons (rowFront rule)]
    rfl
  have details : ("    " ++ rule.name ++ ": " ++ rule.description) ++ ['\n'] ++
      ("    " ++ rule.code.url ++ ['\n']) = ruleDetails rule := by
    delta ruleDetails
    simp only [List.append_assoc]
    rfl
  cases long with
  | false => simp [block, ← row]
  | true => simp [block, ← row, ← details]

theorem rowMarks_eq (config : Config) (rule : Rule) :
    OneLine (rowMarks config rule) ∧ ' ' ∉ rowMarks config rule ∧
      (splitOn ',' (rowMarks config rule)).contains "disabled".toList = isDisabled config rule := by
  simp only [rowMarks, ruleMarks]
  cases rule.fixable <;> cases isDisabled config rule <;> decide

structure Listable (rule : Rule) : Prop where
  id_ne_nil : rule.id ≠ []
  unbroken : ' ' ∉ rule.id
  id : OneLine rule.id
  code : OneLine rule.code.value
  name : OneLine rule.name
  description : OneLine rule.description
  url : OneLine rule.code.url

theorem OneLine.ofList {chars : List Char} (oneLine : OneLine chars) :
    OneLine (String.ofList chars).toList := by
  rw [String.toList_ofList]
  exact oneLine

theorem oneLine_description [Pattern.Engine] :
    ∀ rule ∈ Registry.builtinRules, OneLine rule.description := by
  simp only [Registry.builtinRules, List.forall_mem_cons, List.not_mem_nil, false_implies,
    implies_true, and_true]
  delta Rule.noToc Rule.youtubeEmbed Rule.externalSlidesLink Rule.externalTutorialLink
    Rule.doiCitation Rule.linkText Rule.callDelimiters Rule.missingSnippet Rule.toolUrl
    Rule.boxTitle Rule.newTabLink Rule.bibMissingFields
  dsimp only
  and_intros
  all_goals
    apply OneLine.ofList
    decide

theorem listable_of_builtin [Pattern.Engine] {rule : Rule} (builtin : rule ∈ Registry.builtinRules) :
    Listable rule := by
  have facts : ∀ rule ∈ Registry.builtinRules, rule.id ≠ [] ∧ ' ' ∉ rule.id ∧ OneLine rule.id ∧
      OneLine rule.code.value ∧ OneLine rule.name ∧ OneLine rule.code.anchor :=
    of_decide_eq_true rfl
  obtain ⟨id_ne_nil, unbroken, id, code, name, anchor⟩ := facts rule builtin
  have documentation : OneLine Code.documentation := by decide +kernel
  have hash : OneLine ('#' :: rule.code.anchor) := by simpa [OneLine] using anchor
  exact ⟨id_ne_nil, unbroken, id, code, name, oneLine_description rule builtin,
    documentation.append hash⟩

theorem exists_rowFront (rule : Rule) : ∃ behind, rowFront rule = rule.id ++ ' ' :: behind := by
  have front : ∃ back, rowFront rule = padRight rule.id 24 ++ ' ' :: back := by
    delta rowFront
    simp only [List.append_assoc]
    exact ⟨_, rfl⟩
  obtain ⟨back, front⟩ := front
  rw [front, padRight, List.append_assoc]
  cases 24 - rule.id.length with
  | zero => exact ⟨back, rfl⟩
  | succ count => exact ⟨List.replicate count ' ' ++ ' ' :: back, rfl⟩

namespace Listable

variable {rule : Rule} (listable : Listable rule)
include listable

theorem oneLine_rowFront : OneLine (rowFront rule) := by
  have severity : OneLine rule.severity.name := by cases rule.severity <;> decide
  have kind : OneLine (kindLabel rule.kind) := by cases rule.kind <;> decide
  have blank : OneLine " ".toList := by decide
  exact ((((((listable.id.padRight 24).append blank).append (listable.code.padRight 8)).append
    blank).append (severity.padRight 8)).append blank).append (kind.padRight 4)

theorem oneLine_block (config : Config) (long : Bool) :
    ∀ text ∈ block config long rule, OneLine text := by
  have row : OneLine (rowFront rule ++ ' ' :: rowMarks config rule) := by
    have marks : OneLine (' ' :: rowMarks config rule) := by
      simpa [OneLine] using (rowMarks_eq config rule).1
    exact listable.oneLine_rowFront.append marks
  have title : OneLine ("    " ++ rule.name ++ ": " ++ rule.description) := by
    have indent : OneLine "    ".toList := by decide
    have colon : OneLine ": ".toList := by decide
    exact ((indent.append listable.name).append colon).append listable.description
  have address : OneLine ("    " ++ rule.code.url) := by
    have indent : OneLine "    ".toList := by decide
    exact indent.append listable.url
  cases long with
  | false => exact List.forall_mem_singleton.mpr row
  | true =>
    exact List.forall_mem_cons.mpr
      ⟨row, List.forall_mem_cons.mpr ⟨title, List.forall_mem_singleton.mpr address⟩⟩

theorem readRow_eq (config : Config) :
    readRow (rowFront rule ++ ' ' :: rowMarks config rule) =
      ⟨rule.id, splitOn ',' (rowMarks config rule)⟩ := by
  have name : (rowFront rule ++ ' ' :: rowMarks config rule).takeWhile (· != ' ') = rule.id := by
    obtain ⟨behind, front⟩ := exists_rowFront rule
    rw [front, List.append_assoc]
    apply takeWhile_run
    case all => simpa [List.forall_mem_ne'] using listable.unbroken
    case ends => simp
  have marks : (rowFront rule ++ ' ' :: rowMarks config rule).rtakeWhile (· != ' ') =
      rowMarks config rule := by
    rw [List.append_cons]
    apply rtakeWhile_run
    case all => simpa [List.forall_mem_ne'] using (rowMarks_eq config rule).2.1
    case ends => simp
  rw [readRow, name, marks]

theorem filter_block (config : Config) (long : Bool) :
    (block config long rule).filter isRow = [rowFront rule ++ ' ' :: rowMarks config rule] := by
  have row : isRow (rowFront rule ++ ' ' :: rowMarks config rule) = true := by
    obtain ⟨behind, front⟩ := exists_rowFront rule
    obtain ⟨c, rest, opens⟩ := List.exists_cons_of_ne_nil listable.id_ne_nil
    have other : c ≠ ' ' := fun blank => listable.unbroken (by simp [opens, blank])
    simp [isRow, front, opens, other]
  have details (text : Text) : isRow ("    " ++ text) = false := rfl
  cases long with
  | false => exact List.filter_cons_of_pos row
  | true =>
    rw [block, List.filter_cons_of_pos row, if_pos rfl, List.append_assoc, List.append_assoc,
      List.filter_cons_of_neg (by simp only [details, Bool.false_eq_true, not_false_eq_true]),
      List.filter_cons_of_neg (by simp only [details, Bool.false_eq_true, not_false_eq_true])]
    rfl

end Listable

theorem readListing_rulesListing [Pattern.Engine] (config : Config) (long : Bool) :
    readListing (rulesListing config long) =
      Registry.builtinRules.map fun rule => ⟨rule.id, splitOn ',' (rowMarks config rule)⟩ := by
  have blocks : rulesListing config long =
      (Registry.builtinRules.flatMap (block config long)).flatMap fun text => text ++ ['\n'] := by
    rw [rulesListing, Registry.rules_builtins, List.flatMap_assoc]
    simp only [flatMap_block]
  have oneLine : ∀ text ∈ Registry.builtinRules.flatMap (block config long), OneLine text := by
    intro text member
    obtain ⟨rule, builtin, inBlock⟩ := List.mem_flatMap.mp member
    exact (listable_of_builtin builtin).oneLine_block config long text inBlock
  have rows : (Registry.builtinRules.flatMap (block config long)).filter isRow =
      Registry.builtinRules.map fun rule => rowFront rule ++ ' ' :: rowMarks config rule := by
    rw [List.filter_flatMap, List.map_eq_flatMap]
    apply List.flatMap_congr
    exact fun rule builtin => (listable_of_builtin builtin).filter_block config long
  rw [readListing, blocks, splitLines_flatMap oneLine, rows, List.map_map]
  apply List.map_congr_left
  exact fun rule builtin => (listable_of_builtin builtin).readRow_eq config

theorem isDisabled_iff (config : Config) (rule : Rule) :
    isDisabled config rule = true ↔ rule.NamedBy config.disable := by
  simp [isDisabled, Rule.NamedBy, Rule.answersTo]

section Registered

variable (config : Config) (arguments : LintArguments)

theorem rules_registryFor [Pattern.Engine] :
    (registryFor config { arguments with disable := [] }).rules =
      Registry.builtinRules.filter fun rule => !isDisabled config rule := by
  rw [registryFor, List.append_nil, Registry.rules_disable, Registry.rules_builtins]
  apply List.filter_congr
  intro rule _
  rw [Bool.eq_iff_iff]
  simp [← isDisabled_iff]

theorem mem_ids_registryFor_iff [Pattern.Engine] {rule : Rule} (builtin : rule ∈ Registry.builtinRules) :
    rule.id ∈ (registryFor config { arguments with disable := [] }).ids ↔
      isDisabled config rule = false := by
  have nodup := Rule.nodup_ids_builtinRules
  rw [Registry.ids, rules_registryFor, List.mem_map]
  constructor
  · intro found
    obtain ⟨other, kept, sameId⟩ := found
    obtain ⟨otherBuiltin, enabled⟩ := List.mem_filter.mp kept
    obtain rfl := List.inj_on_of_nodup_map nodup otherBuiltin builtin sameId
    simpa using enabled
  · exact fun enabled => ⟨rule, List.mem_filter.mpr ⟨builtin, by simp [enabled]⟩, rfl⟩

theorem listing_marks_rules_left_out [Pattern.Engine] (disk : Disk) (long : Bool) :
    (readListing (runRules disk config long).out).map
        (fun row => (row.name, row.marks.contains "disabled".toList)) =
      Registry.builtins.rules.map (fun rule =>
        (rule.id, decide (rule.id ∉ (registryFor config { arguments with disable := [] }).ids))) ∧
    Registry.builtins.ids.Nodup ∧
    ∀ rule ∈ Registry.builtins.rules,
      (rule.id ∈ (registryFor config { arguments with disable := [] }).ids ↔
        rule ∈ (registryFor config { arguments with disable := [] }).rules) := by
  refine ⟨?_, Rule.nodup_ids_builtinRules, ?_⟩
  · change (readListing (rulesListing config long)).map _ = _
    rw [readListing_rulesListing, List.map_map, Registry.rules_builtins]
    apply List.map_congr_left
    intro rule builtin
    have marked := (rowMarks_eq config rule).2.2
    have left := mem_ids_registryFor_iff config arguments builtin
    cases disabled : isDisabled config rule <;> simp_all
  · intro rule builtin
    rw [mem_ids_registryFor_iff config arguments builtin, rules_registryFor, List.mem_filter]
    simp [Registry.rules_builtins ▸ builtin]

example :
    (readListing (rulesListing ⟨["gtn:003", "no-toc", "no-toc", "none"], none, none⟩ false)).filter
        (fun row => row.marks.contains "disabled".toList) =
      [⟨"no-toc", ["disabled"]⟩, ⟨"external-slides-link", ["fix", "disabled"]⟩,
        ⟨"external-tutorial-link", ["fix", "disabled"]⟩] := by
  decide +kernel

end Registered

end CourseLint.CommandLine
