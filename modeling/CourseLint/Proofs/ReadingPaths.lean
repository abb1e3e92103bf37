import CourseLint.Proofs.ResolvedKeys

set_option autoImplicit false

namespace CourseLint

open Text

def BibEntry.Filled (entry : BibEntry) : Prop :=
  ∀ value, some value ∈ [entry.doi, entry.url, entry.title] → ∃ c ∈ value, isBlankChar c = false

namespace Bibliography

theorem exists_not_blank {text value : Text} (isPresent : present text = some value) :
    ∃ c ∈ value, isBlankChar c = false := by
  unfold present at isPresent
  split at isPresent
  · cases isPresent
  · next notBlank =>
    cases isPresent
    simpa [isBlank] using notBlank

theorem exists_not_blank_of_bind {text? : Option Text} {value : Text}
    (isPresent : text?.bind present = some value) : ∃ c ∈ value, isBlankChar c = false := by
  rw [Option.bind_eq_some_iff] at isPresent
  cases isPresent with
  | intro text found => exact exists_not_blank found.2

theorem ofResolved_filled (entry : ResolvedEntry) : (ofResolved entry).Filled := by
  intro value member
  simp only [ofResolved, List.mem_cons, List.not_mem_nil, or_false] at member
  rcases member with doi | url | title
  · exact exists_not_blank_of_bind doi.symm
  · exact exists_not_blank_of_bind url.symm
  · exact exists_not_blank_of_bind title.symm

theorem writtenField?_filled {entry : Entry} {name value : Text}
    (isField : writtenField? entry name = some value) : ∃ c ∈ value, isBlankChar c = false := by
  unfold writtenField? at isField
  cases found : entry.fields.find? (Text.sameIgnoringAsciiCase ·.name name) with
  | none => simp [found] at isField
  | some field =>
    rw [found] at isField
    exact exists_not_blank isField

theorem ofWritten_filled (entry : Entry) : (ofWritten entry).Filled := by
  intro value member
  simp only [ofWritten, List.mem_cons, List.not_mem_nil, or_false] at member
  rcases member with doi | url | title
  · exact writtenField?_filled doi.symm
  · exact writtenField?_filled url.symm
  · exact writtenField?_filled title.symm

theorem Source.bibEntries_filled [Reader] (source : Source) :
    ∀ entry ∈ source.bibEntries, entry.Filled := by
  rw [bibEntries]
  cases Reader.resolve source with
  | none => simp [ofWritten_filled]
  | some found => simp [ofResolved_filled]

theorem parse_keeps_entries [Reader] [LawfulReader] (text : Text) (source : Source)
    (read : Reader.read text = .ok source) (ends : Reader.Ends source) :
    ∃ entries, parse text = .ok entries ∧
      (∀ found, Reader.resolve source = some found → entries = found.map ofResolved) ∧
      (Reader.resolve source = none → entries = source.entries.map ofWritten) ∧
      entries.map BibEntry.key = source.entries.map Entry.key ∧
      (source.entries.Pairwise fun first later => first.start < later.start) ∧
      (∀ written ∈ source.entries, ∃ heading, written.HeadedBy text heading) ∧
      ∀ entry ∈ entries, entry.Filled := by
  refine ⟨source.bibEntries, ?_, ?_, ?_, source.bibEntries_keys ends, LawfulReader.ordered read,
    LawfulReader.headed read, source.bibEntries_filled⟩
  · rw [parse, read]
    rfl
  · intro found resolved
    rw [Source.bibEntries, resolved]
  · intro unresolved
    rw [Source.bibEntries, unresolved]

def mixedText : Text :=
  "@string\x7bj = \x7bJ\x7d\x7d @preamble\x7b\"p\"\x7d @comment\x7bc\x7d\n".toList ++
    "@misc\x7bB, ids=\x7bC\x7d, title=j, url=\x7b \x7d\x7d @misc\x7bA, title=\x7bt\x7d\x7d".toList

def mixedSource : Source where
  entries := [
    ⟨44, "misc", "B", [⟨"ids", [.written "C"]⟩, ⟨"title", [.abbreviation "j"]⟩,
      ⟨"url", [.written " "]⟩]⟩,
    ⟨80, "misc", "A", [⟨"title", [.written "t"]⟩]⟩]
  abbreviations := [⟨"j", [.written "J"]⟩]

def repeatedText : Text := "@misc\x7bB, title=\x7b \x7d\x7d @misc\x7bB, title=j\x7d"

def repeatedSource : Source where
  entries := [
    ⟨0, "misc", "B", [⟨"title", [.written " "]⟩]⟩,
    ⟨20, "misc", "B", [⟨"title", [.abbreviation "j"]⟩]⟩]
  abbreviations := []

theorem parse_keeps_entries_mixed_and_repeated :
    LawfulReader ∧
    (Reader.read mixedText = .ok mixedSource ∧ Reader.Ends mixedSource ∧
      Reader.resolve mixedSource =
        some [⟨"B", none, some " ", some "J"⟩, ⟨"A", none, none, some "t"⟩] ∧
      parse mixedText = .ok [⟨"B", none, none, some "J"⟩, ⟨"A", none, none, some "t"⟩] ∧
      ∃ entries, parse mixedText = .ok entries ∧ entries.map BibEntry.key = ["B", "A"]) ∧
    (Reader.read repeatedText = .ok repeatedSource ∧ Reader.Ends repeatedSource ∧
      Reader.resolve repeatedSource = none ∧
      ∃ entries, parse repeatedText = .ok entries ∧ entries.map BibEntry.key = ["B", "B"]) := by
  have mixed : Reader.read mixedText = .ok mixedSource := by decide +kernel
  have repeated : Reader.read repeatedText = .ok repeatedSource := by decide +kernel
  have mixedEnds : isAcyclic mixedSource = true := by decide +kernel
  have repeatedEnds : isAcyclic repeatedSource = true := by decide +kernel
  have resolved : Reader.resolve mixedSource =
      some [⟨"B", none, some " ", some "J"⟩, ⟨"A", none, none, some "t"⟩] := by
    decide +kernel
  refine ⟨inferInstance, ⟨mixed, mixedEnds, resolved, ?_⟩,
    ⟨repeated, repeatedEnds, by decide +kernel, ?_⟩⟩
  · obtain ⟨entries, parsed, fromFound, -, keys, -⟩ :=
      parse_keeps_entries mixedText mixedSource mixed mixedEnds
    refine ⟨?_, entries, parsed, keys⟩
    rw [parsed, fromFound _ resolved]
    decide +kernel
  · obtain ⟨entries, parsed, -, -, keys, -⟩ :=
      parse_keeps_entries repeatedText repeatedSource repeated repeatedEnds
    exact ⟨entries, parsed, keys⟩

end Bibliography

end CourseLint
