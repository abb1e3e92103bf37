import CourseLint.Bibliography.Reader
import Mathlib.Data.List.Perm.Subperm

set_option autoImplicit false

namespace CourseLint.Bibliography

open Text

structure Heading where
  front : Text
  kindGap : Text
  delimiter : Char
  keyGap : Text
  commaGap : Text
  rest : Text

def ofKind (c : Char) : Bool := c != '@' && !isBlankChar c

def ofKey (c : Char) : Bool := c != ',' && !isBlankChar c

structure Entry.HeadedBy (text : Text) (entry : Entry) (heading : Heading) : Prop where
  text_eq : text = heading.front ++ '@' :: entry.kind ++ heading.kindGap ++
    heading.delimiter :: heading.keyGap ++ entry.key ++ heading.commaGap ++ ',' :: heading.rest
  start_eq : width heading.front = entry.start
  kind_clean : ∀ c ∈ entry.kind, ofKind c = true
  key_clean : ∀ c ∈ entry.key, ofKey c = true
  delimiter_eq : heading.delimiter = '{' ∨ heading.delimiter = '"'
  kindGap_blank : ∀ c ∈ heading.kindGap, isBlankChar c = true
  keyGap_blank : ∀ c ∈ heading.keyGap, isBlankChar c = true
  commaGap_blank : ∀ c ∈ heading.commaGap, isBlankChar c = true

/-- What is relied on of the parsing library. -/
class LawfulReader [Reader] : Prop where
  /-- Kinds and keys are slices of the text, and the span of an entry starts at its `@`. -/
  headed {text : Text} {source : Source} (read : Reader.read text = .ok source) :
    ∀ entry ∈ source.entries, ∃ heading, entry.HeadedBy text heading
  /-- Entries are read from left to right. -/
  ordered {text : Text} {source : Source} (read : Reader.read text = .ok source) :
    source.entries.Pairwise fun first later => first.start < later.start
  /-- A repeated key is an error of its own. -/
  distinct {source : Source} {found : List ResolvedEntry} (ends : Reader.Ends source)
    (resolved : Reader.resolve source = some found) : (source.entries.map Entry.key).Nodup
  /-- Entries are iterated over in the order in which they were inserted. -/
  sublist {source : Source} {found : List ResolvedEntry} (ends : Reader.Ends source)
    (resolved : Reader.resolve source = some found) :
    (found.map ResolvedEntry.key).Sublist (source.entries.map Entry.key)
  /-- Every entry can be looked up by its key. -/
  stored {source : Source} {found : List ResolvedEntry} (ends : Reader.Ends source)
    (resolved : Reader.resolve source = some found) :
    ∀ key ∈ source.entries.map Entry.key, key ∈ found.map ResolvedEntry.key

section

variable [Reader] {source : Source}

theorem keys_of_resolve [LawfulReader] {found : List ResolvedEntry} (ends : Reader.Ends source)
    (resolved : Reader.resolve source = some found) :
    found.map ResolvedEntry.key = source.entries.map Entry.key := by
  have kept := LawfulReader.sublist ends resolved
  have distinct := LawfulReader.distinct ends resolved
  have stored : source.entries.map Entry.key ⊆ found.map ResolvedEntry.key :=
    fun key => LawfulReader.stored ends resolved key
  -- None of the distinct keys is missing, so the sublist is no shorter than the list.
  exact kept.eq_of_length_le (List.subperm_of_subset distinct stored).length_le

theorem Source.bibEntries_keys [LawfulReader] (ends : Reader.Ends source) :
    source.bibEntries.map BibEntry.key = source.entries.map Entry.key := by
  rw [bibEntries]
  cases resolved : Reader.resolve source with
  | none => simp [ofWritten]
  | some found =>
    rw [← keys_of_resolve ends resolved]
    simp [ofResolved]

theorem Source.key_of_mem_zip [LawfulReader] (ends : Reader.Ends source) {written : Entry}
    {entry : BibEntry} (member : (written, entry) ∈ source.entries.zip source.bibEntries) :
    entry.key = written.key := by
  obtain ⟨index, atIndex⟩ := List.mem_iff_getElem?.mp member
  obtain ⟨isWritten, isEntry⟩ := List.getElem?_zip_eq_some.mp atIndex
  have keys := congrArg (·[index]?) (source.bibEntries_keys ends)
  simpa [isWritten, isEntry] using keys

theorem key_clean_of_mem [LawfulReader] (ends : Reader.Ends source) {text : Text}
    (read : Reader.read text = .ok source) {entry : BibEntry}
    (member : entry ∈ source.bibEntries) : ∀ c ∈ entry.key, ofKey c = true := by
  have isKey : entry.key ∈ source.entries.map Entry.key :=
    source.bibEntries_keys ends ▸ List.mem_map_of_mem member
  obtain ⟨written, isWritten, same⟩ := List.mem_map.mp isKey
  obtain ⟨heading, headed⟩ := LawfulReader.headed read written isWritten
  exact same ▸ headed.key_clean

end

end CourseLint.Bibliography
