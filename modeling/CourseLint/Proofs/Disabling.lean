import CourseLint.Proofs.Reports

set_option autoImplicit false

namespace CourseLint

open Text

def Rule.NamedBy (names : List Text) (rule : Rule) : Prop :=
  ∃ name ∈ names, rule.id = name ∨ sameIgnoringAsciiCase rule.code.value name = true

instance (names : List Text) (rule : Rule) : Decidable (rule.NamedBy names) :=
  inferInstanceAs (Decidable (∃ name ∈ names, _))

def Code.NamedBy (names : List Text) (code : Code) : Prop :=
  ∃ name ∈ names, sameIgnoringAsciiCase code.value name = true

instance (names : List Text) (code : Code) : Decidable (code.NamedBy names) :=
  inferInstanceAs (Decidable (∃ name ∈ names, _))

def Diagnostic.CodeNamedBy (names : List Text) (diagnostic : Diagnostic) : Prop :=
  ∃ code ∈ diagnostic.code, code.NamedBy names

instance (names : List Text) (diagnostic : Diagnostic) : Decidable (diagnostic.CodeNamedBy names) :=
  inferInstanceAs (Decidable (∃ code ∈ diagnostic.code, _))

theorem Rule.namedBy_of_code {names : List Text} {rule : Rule} (named : rule.code.NamedBy names) :
    rule.NamedBy names := by
  obtain ⟨name, listed, same⟩ := named
  exact ⟨name, listed, .inr same⟩

theorem Rule.code_of_mem_check {rule : Rule} {page : Page} {diagnostic : Diagnostic}
    (member : diagnostic ∈ rule.check page) : diagnostic.code = some rule.code := by
  obtain ⟨finding, -, rfl⟩ := List.mem_map.mp member
  rw [rule.diagnose_eq]

namespace Registry

theorem rules_disable (registry : Registry) (names : List Text) :
    (registry.disable names).1.rules =
      registry.rules.filter fun rule => ¬ rule.NamedBy names := by
  induction names generalizing registry with
  | nil => simp [disable, Rule.NamedBy]
  | cons name names ih =>
    change ((registry.without name).disable names).1.rules = _
    rw [ih, without, List.filter_filter]
    refine List.filter_congr fun rule _ => ?_
    rw [Bool.eq_iff_iff]
    simp [Rule.answersTo, Rule.NamedBy, and_comm]

def rulesFor (registry : Registry) (path : Path) : List Rule :=
  if FileKind.ofPath path = .unsupported then [] else registry.forKind (FileKind.ofPath path)

theorem rulesFor_disable (registry : Registry) (names : List Text) (path : Path) :
    (registry.disable names).1.rulesFor path =
      (registry.rulesFor path).filter fun rule => ¬ rule.NamedBy names := by
  simp only [rulesFor, forKind, rules_disable]
  split
  · rfl
  · rw [List.filter_filter, List.filter_filter]
    exact List.filter_congr fun _ _ => Bool.and_comm _ _

end Registry

def readPage [Bibliography.Reader] (fileExists : Text → Bool) (path : Path) (source : Text) :
    Except Error Page :=
  (bibEntriesOf path (FileKind.ofPath path) source).map fun entries =>
    ⟨path, splitLines source, entries, fileExists⟩

def lintBy [Bibliography.Reader] (report : Rule → Page → List Diagnostic) (registry : Registry)
    (fileExists : Text → Bool) (path : Path) (source : Text) : Except Error (List Diagnostic) :=
  (readPage fileExists path source).map fun page =>
    (registry.rulesFor path).flatMap (report · page)

theorem lintBy_check [Bibliography.Reader] : lintBy Rule.check = lint := by
  funext registry fileExists path source
  simp only [lintBy, readPage, lint, Registry.rulesFor, Registry.diagnose]
  cases kind : FileKind.ofPath path with
  | unsupported => rfl
  | markup => rfl
  | bibliography => cases bibEntriesOf path .bibliography source <;> rfl

section Blocks

variable {names : List Text} {blocks : List (Rule × List Diagnostic)}

theorem filter_flatMap_blocks (byCode : ∀ block ∈ blocks, block.1.NamedBy names →
      block.1.code.NamedBy names)
    (own : ∀ block ∈ blocks, ∀ diagnostic ∈ block.2, diagnostic.code = some block.1.code) :
    (blocks.filter fun block => ¬ block.1.NamedBy names).flatMap Prod.snd =
      (blocks.flatMap Prod.snd).filter fun diagnostic => ¬ diagnostic.CodeNamedBy names := by
  induction blocks with
  | nil => rfl
  | cons block blocks ih =>
    have rest := ih (fun other member => byCode other (by simp [member]))
      (fun other member => own other (by simp [member]))
    have ownCode := own block (by simp)
    rw [List.flatMap_cons, List.filter_append, ← rest]
    by_cases named : block.1.NamedBy names
    · have gone : block.2.filter (fun diagnostic => ¬ diagnostic.CodeNamedBy names) = [] := by
        refine List.filter_eq_nil_iff.mpr fun diagnostic member => ?_
        have codeNamed : diagnostic.CodeNamedBy names :=
          ⟨block.1.code, ownCode diagnostic member, byCode block (by simp) named⟩
        simpa using codeNamed
      rw [gone, List.filter_cons_of_neg (by simpa using named), List.nil_append]
    · have kept : block.2.filter (fun diagnostic => ¬ diagnostic.CodeNamedBy names) = block.2 := by
        refine List.filter_eq_self.mpr fun diagnostic member => decide_eq_true ?_
        rintro ⟨code, isCode, codeNamed⟩
        obtain rfl := Option.some.inj ((ownCode diagnostic member).symm.trans isCode)
        exact named (Rule.namedBy_of_code codeNamed)
      rw [kept, List.filter_cons_of_pos (by simpa using named), List.flatMap_cons]

end Blocks

theorem disable_cuts_blocks [Bibliography.Reader] (report : Rule → Page → List Diagnostic)
    (registry : Registry)
    (names : List Text) (fileExists : Text → Bool) (path : Path) (source : Text) :
    lintBy Rule.check = lint ∧
    (∀ cause, lintBy report (registry.disable names).1 fileExists path source = .error cause ↔
      lintBy report registry fileExists path source = .error cause) ∧
    ∀ diagnostics, lintBy report registry fileExists path source = .ok diagnostics →
      ∃ page, readPage fileExists path source = .ok page ∧
        ∃ blocks, blocks = (registry.rulesFor path).map (fun rule => (rule, report rule page)) ∧
          diagnostics = blocks.flatMap Prod.snd ∧
          lintBy report (registry.disable names).1 fileExists path source =
            .ok ((blocks.filter fun block => ¬ block.1.NamedBy names).flatMap Prod.snd) ∧
          ((∀ rule ∈ registry.rulesFor path, rule.NamedBy names → rule.code.NamedBy names) →
            (∀ rule ∈ registry.rulesFor path, ∀ diagnostic ∈ report rule page,
              diagnostic.code = some rule.code) →
            lintBy report (registry.disable names).1 fileExists path source =
              .ok (diagnostics.filter fun diagnostic => ¬ diagnostic.CodeNamedBy names)) := by
  cases read : readPage fileExists path source with
  | error cause => simp [lintBy_check, lintBy, read, Except.map]
  | ok page =>
    have cut : lintBy report (registry.disable names).1 fileExists path source =
        .ok ((((registry.rulesFor path).map fun rule => (rule, report rule page)).filter
          fun block => ¬ block.1.NamedBy names).flatMap Prod.snd) := by
      simp only [lintBy, read, Except.map, Registry.rulesFor_disable, List.filter_map,
        List.flatMap_map, Function.comp_def]
    refine ⟨lintBy_check, by simp [lintBy, read, Except.map], ?_⟩
    intro diagnostics linted
    have whole : diagnostics =
        ((registry.rulesFor path).map fun rule => (rule, report rule page)).flatMap Prod.snd := by
      simp only [lintBy, read, Except.map, Except.ok.injEq] at linted
      rw [← linted, List.flatMap_map]
    refine ⟨page, rfl, _, rfl, whole, cut, ?_⟩
    intro byCode own
    rw [cut, whole, filter_flatMap_blocks]
    · simpa using byCode
    · simpa using own

def twoSites : Text :=
  "(https://training.galaxyproject.org/training-material/slides.html) [here] " ++
    "(https://training.galaxyproject.org/training-material/tutorial.html)"

theorem disable_cuts_blocks_shared_code :
    (∀ rule ∈ Registry.builtins.rulesFor "tutorial.md",
      rule.NamedBy ["gtn:003".toList] → rule.code.NamedBy ["gtn:003".toList]) ∧
    ∃ before after,
      lint Registry.builtins (fun _ => false) "tutorial.md" twoSites = .ok before ∧
      lint (Registry.builtins.disable ["gtn:003".toList]).1 (fun _ => false) "tutorial.md"
        twoSites = .ok after ∧
      after = before.filter (fun diagnostic => ¬ diagnostic.CodeNamedBy ["gtn:003".toList]) ∧
      before.map Diagnostic.code =
        [some ⟨"GTN:003"⟩, some ⟨"GTN:003"⟩, some ⟨"GTN:005"⟩] ∧
      after.map Diagnostic.code = [some ⟨"GTN:005"⟩] := by
  have markup : FileKind.ofPath ("tutorial.md" : Text) = .markup := by decide
  have byCode : ∀ rule ∈ Registry.builtins.rulesFor "tutorial.md",
      rule.NamedBy ["gtn:003".toList] → rule.code.NamedBy ["gtn:003".toList] := by decide +kernel
  have linted := lint_markup_eq Registry.builtins (fun _ => false) markup twoSites
  obtain ⟨isLint, -, cut⟩ := disable_cuts_blocks Rule.check Registry.builtins ["gtn:003".toList]
    (fun _ => false) "tutorial.md" twoSites
  rw [isLint] at cut
  obtain ⟨page, -, _, -, -, -, filtered⟩ := cut _ linted
  have disabled := filtered byCode fun _ _ _ member => Rule.code_of_mem_check member
  exact ⟨byCode, _, _, linted, disabled, rfl, by decide +kernel⟩

end CourseLint
