import CourseLint.LintFile
import CourseLint.Proofs.Overwriting
import CourseLint.Proofs.Splicing

set_option autoImplicit false

namespace CourseLint

open Text

theorem length_filterMap_add_countP {α β : Type} (result? : α → Option β) (inputs : List α) :
    (inputs.filterMap result?).length + inputs.countP (fun input => (result? input).isNone) =
      inputs.length := by
  induction inputs with
  | nil => rfl
  | cons input inputs ih =>
    cases found : result? input <;> simp [found, ← ih] <;> omega

namespace Edit

theorem cuts_of_offsetOf? {source : Text} {position : Position} {offset : Nat}
    (found : offsetOf? source position = some offset) :
    ∃ before after, splitAtByte? source offset = some (before, after) := by
  have cut : ∀ reached, ((splitAtByte? source reached).bind fun _ => some reached) = some offset →
      ∃ before after, splitAtByte? source offset = some (before, after) := by
    intro reached checked
    obtain ⟨⟨before, after⟩, cut, same⟩ := Option.bind_eq_some_iff.mp checked
    obtain rfl := Option.some.inj same
    exact ⟨before, after, cut⟩
  rw [offsetOf?] at found
  -- A start of a line, or the end of the text: either way the last step is the same.
  split at found
  · dsimp only [Option.bind_eq_bind] at found
    split at found
    · exact cut _ found
    · split at found
      · exact cut _ found
      · exact absurd found (by simp)
  · exact absurd found (by simp)

theorem ofSuggestion?_eq_some {source : Text} {suggestion : Suggestion} {start stop : Nat}
    (foundStart : offsetOf? source suggestion.range.start = some start)
    (foundStop : offsetOf? source suggestion.range.stop = some stop) (forward : start ≤ stop) :
    ∃ before, before <+: source ∧ width before = stop ∧
      ofSuggestion? source suggestion =
        some ⟨start, stop, adaptEnding before suggestion.text⟩ := by
  obtain ⟨before, after, cut⟩ := cuts_of_offsetOf? foundStop
  obtain ⟨whole, stops⟩ := (splitAtByte?_eq_some_iff _ _ _ _).mp cut
  refine ⟨before, ⟨after, whole.symm⟩, stops, ?_⟩
  simp [ofSuggestion?, foundStart, foundStop, cut, forward]

theorem usable_of_ofSuggestion? {source : Text} {suggestion : Suggestion} {edit : Edit}
    (placed : ofSuggestion? source suggestion = some edit) : edit.Usable source := by
  simp only [ofSuggestion?, Option.bind_eq_bind, Option.bind_eq_some_iff] at placed
  obtain ⟨start, foundStart, stop, foundStop, ⟨before, after⟩, cut, built⟩ := placed
  split at built
  · next forward =>
    obtain rfl := Option.some.inj built
    obtain ⟨_, _, cutStart⟩ := cuts_of_offsetOf? foundStart
    exact ⟨forward, fun _ => by simp [cutStart], fun _ => by simp [cut]⟩
  · simp at built

theorem usable_of_mem_ofDiagnostics {source : Text} {diagnostics : List Diagnostic} {edit : Edit}
    (member : edit ∈ (ofDiagnostics source diagnostics).1) : edit.Usable source := by
  simp only [ofDiagnostics, List.mem_filterMap, List.mem_map, id_eq] at member
  obtain ⟨_, ⟨suggestion, _, rfl⟩, placed⟩ := member
  exact usable_of_ofSuggestion? placed

theorem length_ofDiagnostics (source : Text) (diagnostics : List Diagnostic) :
    (ofDiagnostics source diagnostics).1.length + (ofDiagnostics source diagnostics).2 =
      (diagnostics.filterMap Diagnostic.suggestion).length := by
  have parted := length_filterMap_add_countP id
    ((diagnostics.filterMap Diagnostic.suggestion).map (ofSuggestion? source))
  rwa [List.length_map] at parted

theorem count_applyAll {source : Text} {edits : List Edit}
    (usable : ∀ edit ∈ edits, edit.Usable source) :
    ∃ repaired, applyAll source edits = some repaired ∧
      repaired.applied + repaired.skipped = edits.length := by
  refine ⟨_, applyAll_of_usable usable, ?_⟩
  have parted := (kept_append_leftOut_perm (width source) (lastFirst edits)).length_eq
  rw [List.length_append, (lastFirst_perm edits).length_eq] at parted
  exact parted

end Edit

theorem fixFile_eq {disk : Disk} {path : Path} {source : Text} {diagnostics : List Diagnostic}
    {repaired : Repair} (readable : disk.readText path = .ok source)
    (result : Edit.applyAll source (Edit.ofDiagnostics source diagnostics).1 = some repaired) :
    let counts : FixCounts :=
      ⟨repaired.applied, repaired.skipped + (Edit.ofDiagnostics source diagnostics).2,
        diagnostics.countP (·.suggestion.isNone)⟩
    fixFile disk path diagnostics =
      if repaired.applied = 0 then .ok (disk, counts)
      else
        match disk.overwrite? path repaired.text with
        | some written => .ok (written, counts)
        | none => .error (.fileUnwritable path) := by
  have read : readSource disk path = .ok source := by simp only [readSource, readable]
  have done : repair source diagnostics =
      some (repaired, (Edit.ofDiagnostics source diagnostics).2) := by
    simp only [repair, result]
    rfl
  simp only [fixFile, read, bind, Except.bind, done, Option.getD_some]
  rfl

theorem suggestions_are_accounted_for (source : Text) (diagnostics : List Diagnostic) :
    (∀ suggestion ∈ diagnostics.filterMap Diagnostic.suggestion, ∀ start stop,
      Edit.offsetOf? source suggestion.range.start = some start →
      Edit.offsetOf? source suggestion.range.stop = some stop → start ≤ stop →
      ∃ before, before <+: source ∧ width before = stop ∧
        Edit.ofSuggestion? source suggestion =
          some ⟨start, stop, Edit.adaptEnding before suggestion.text⟩) ∧
    ∃ edits invalid repaired, Edit.ofDiagnostics source diagnostics = (edits, invalid) ∧
      Edit.applyAll source edits = some repaired ∧
      repaired.applied + repaired.skipped + invalid =
        (diagnostics.filterMap Diagnostic.suggestion).length ∧
      ∀ disk path, disk.readText path = .ok source →
        (repaired.applied = 0 ∨ disk.isWritable path = true → ∃ written counts,
          fixFile disk path diagnostics = .ok (written, counts) ∧
          counts = ⟨repaired.applied, repaired.skipped + invalid,
            diagnostics.countP (·.suggestion.isNone)⟩ ∧
          counts.applied + counts.skipped + counts.unfixable = diagnostics.length ∧
          (counts.applied = 0 → written = disk) ∧
          (0 < counts.applied → written.readText path = .ok repaired.text ∧
            ∀ other, disk.locate other ≠ disk.locate path →
              written.readText other = disk.readText other)) ∧
        (0 < repaired.applied → disk.isWritable path = false →
          fixFile disk path diagnostics = .error (.fileUnwritable path)) := by
  have usable : ∀ edit ∈ (Edit.ofDiagnostics source diagnostics).1, edit.Usable source :=
    fun edit member => Edit.usable_of_mem_ofDiagnostics member
  obtain ⟨repaired, result, counted⟩ := Edit.count_applyAll usable
  have suggested := Edit.length_ofDiagnostics source diagnostics
  have parted := length_filterMap_add_countP Diagnostic.suggestion diagnostics
  refine ⟨?_, _, _, repaired, rfl, result, ?_, ?_⟩
  · intro suggestion _ start stop foundStart foundStop forward
    exact Edit.ofSuggestion?_eq_some foundStart foundStop forward
  · exact (congrArg (· + _) counted).trans suggested
  · intro disk path readable
    have fixed := fixFile_eq readable result
    dsimp only at fixed
    by_cases unused : repaired.applied = 0
    · rw [if_pos unused] at fixed
      constructor
      · intro _
        refine ⟨disk, _, fixed, rfl, ?_, fun _ => rfl, fun used => absurd unused (Nat.ne_of_gt used)⟩
        dsimp only
        omega
      · exact fun used => absurd unused (Nat.ne_of_gt used)
    · rw [if_neg unused] at fixed
      constructor
      · intro allowed
        obtain ⟨written, writes⟩ :=
          Disk.exists_overwrite? (allowed.resolve_left unused) repaired.text
        rw [writes] at fixed
        refine ⟨written, _, fixed, rfl, ?_, fun none => absurd none unused, fun _ => ?_⟩
        · dsimp only
          omega
        · exact ⟨Disk.readText_overwrite writes,
            fun other elsewhere => Disk.readText_overwrite_elsewhere writes elsewhere⟩
      · intro _ sealed
        rw [fixed, Disk.overwrite?_eq_none sealed]

def askedAt : List (Position × Position) :=
  [(⟨0, 1⟩, ⟨1, 1⟩), (⟨1, 1⟩, ⟨1, 2⟩), (⟨2, 1⟩, ⟨9, 1⟩), (⟨2, 2⟩, ⟨2, 1⟩), (⟨2, 1⟩, ⟨2, 3⟩),
    (⟨2, 2⟩, ⟨2, 3⟩), (⟨1, 1⟩, ⟨2, 1⟩)]

def asked : List Diagnostic :=
  ⟨[], ⟨⟨1, 1⟩, ⟨1, 1⟩⟩, .warning, none, [], none⟩ :: askedAt.map fun (start, stop) =>
    ⟨[], ⟨start, stop⟩, .warning, none, [], some ⟨['x', '\n'], ⟨start, stop⟩⟩⟩

def twoFiles : Disk :=
  ⟨.directory [(['a'], .file (.text ['é', '\n', 'a', 'b'])), (['b'], .file (.text ['b'])),
    (['c'], .file (.readOnly ['é', '\n', 'a', 'b']))], []⟩

theorem suggestions_are_accounted_for_asked :
    twoFiles.readText ['a'] = .ok ['é', '\n', 'a', 'b'] ∧
      twoFiles.isWritable ['a'] = true ∧
      twoFiles.locate ['b'] ≠ twoFiles.locate ['a'] ∧
      (∃ written, fixFile twoFiles ['a'] asked = .ok (written, ⟨2, 5, 1⟩) ∧
        written.readText ['a'] = .ok ['x', '\n', 'a', 'x'] ∧
        written.readText ['b'] = twoFiles.readText ['b']) ∧
      twoFiles.readText ['c'] = .ok ['é', '\n', 'a', 'b'] ∧
      twoFiles.isWritable ['c'] = false ∧
      fixFile twoFiles ['c'] asked = .error (.fileUnwritable ['c']) := by
  have readable : twoFiles.readText ['a'] = .ok ['é', '\n', 'a', 'b'] := by rfl
  have alsoReadable : twoFiles.readText ['c'] = .ok ['é', '\n', 'a', 'b'] := by rfl
  have writable : twoFiles.isWritable ['a'] = true := by decide
  have sealed : twoFiles.isWritable ['c'] = false := by decide
  have elsewhere : twoFiles.locate ['b'] ≠ twoFiles.locate ['a'] := by decide
  have placed : Edit.ofDiagnostics ['é', '\n', 'a', 'b'] asked =
      ([⟨3, 5, ['x']⟩, ⟨4, 5, ['x']⟩, ⟨0, 3, ['x', '\n']⟩], 4) := by decide
  have spliced : Edit.applyAll ['é', '\n', 'a', 'b']
      [⟨3, 5, ['x']⟩, ⟨4, 5, ['x']⟩, ⟨0, 3, ['x', '\n']⟩] =
      some ⟨['x', '\n', 'a', 'x'], 2, 1⟩ := by decide
  obtain ⟨-, edits, invalid, repaired, isPlaced, result, -, onDisk⟩ :=
    suggestions_are_accounted_for ['é', '\n', 'a', 'b'] asked
  obtain ⟨rfl, rfl⟩ := Prod.mk.inj (placed.symm.trans isPlaced)
  obtain rfl := Option.some.inj (spliced.symm.trans result)
  obtain ⟨written, counts, fixed, rfl, -, -, used⟩ :=
    (onDisk twoFiles ['a'] readable).1 (.inr writable)
  obtain ⟨here, others⟩ := used (by decide)
  have refused := (onDisk twoFiles ['c'] alsoReadable).2 (by decide) sealed
  exact ⟨readable, writable, elsewhere, ⟨written, fixed, here, others ['b'] elsewhere⟩,
    alsoReadable, sealed, refused⟩

end CourseLint
