import CourseLint.Pattern.Occurrence

set_option autoImplicit false

namespace CourseLint

open Text

namespace Pattern

def Fits : Pattern → Text → Text → Text → List Capture → Prop
  | .nothing, _, covered, _, captures => covered = [] ∧ captures = []
  | .lineStart, before, covered, _, captures => before = [] ∧ covered = [] ∧ captures = []
  | .lineEnd, _, covered, after, captures => after = [] ∧ covered = [] ∧ captures = []
  | .char accepts, _, covered, _, captures => ∃ c, accepts c = true ∧ covered = [c] ∧ captures = []
  | .longest accepts, _, covered, _, captures =>
    (∀ c ∈ covered, accepts c = true) ∧ captures = []
  | .most spare accepts, _, covered, after, captures =>
    (∀ c ∈ covered, accepts c = true) ∧ runLength accepts 0 after ≤ spare ∧ captures = []
  | .shortest accepts, _, covered, _, captures =>
    (∀ c ∈ covered, accepts c = true) ∧ captures = []
  | .seq first second, before, covered, after, captures =>
    ∃ front back inFront inBack, covered = front ++ back ∧ captures = inBack ++ inFront ∧
      first.Fits before front (back ++ after) inFront ∧
      second.Fits (before ++ front) back after inBack
  | .either first second, before, covered, after, captures =>
    first.Fits before covered after captures ∨ second.Fits before covered after captures
  | .group index body, before, covered, after, captures =>
    ∃ inner, captures = ⟨index, width before, width (before ++ covered)⟩ :: inner ∧
      body.Fits before covered after inner

theorem mem_endsLongest_iff (accepts : Char → Bool) (offset : Nat) (rest : Text)
    (captures : List Capture) (place : Place) :
    place ∈ endsLongest accepts rest ⟨offset, rest, captures⟩ ↔
      ∃ covered after, rest = covered ++ after ∧ (∀ c ∈ covered, accepts c = true) ∧
        place = ⟨offset + width covered, after, captures⟩ := by
  induction rest generalizing offset with
  | nil =>
    simp only [endsLongest, List.mem_singleton]
    constructor
    · rintro rfl
      exact ⟨[], [], rfl, by simp, by simp⟩
    · rintro ⟨covered, after, split, -, rfl⟩
      obtain ⟨rfl, rfl⟩ := List.append_eq_nil_iff.mp split.symm
      simp
  | cons c rest ih =>
    have here : (∃ covered after, c :: rest = covered ++ after ∧ (∀ d ∈ covered, accepts d = true) ∧
        place = ⟨offset + width covered, after, captures⟩) ↔
        place = ⟨offset, c :: rest, captures⟩ ∨ (accepts c = true ∧
          ∃ covered after, rest = covered ++ after ∧ (∀ d ∈ covered, accepts d = true) ∧
            place = ⟨offset + c.utf8Size + width covered, after, captures⟩) := by
      constructor
      · rintro ⟨covered, after, split, accepted, rfl⟩
        cases covered with
        | nil => exact .inl (by simp [split])
        | cons d covered =>
          obtain ⟨rfl, rfl⟩ := List.cons.inj split
          refine .inr ⟨accepted c (by simp), covered, after, rfl, ?_, ?_⟩
          · exact fun d member => accepted d (List.mem_cons_of_mem _ member)
          · simp [Nat.add_assoc]
      · rintro (rfl | ⟨head, covered, after, rfl, accepted, rfl⟩)
        · exact ⟨[], c :: rest, rfl, by simp, by simp⟩
        · exact ⟨c :: covered, after, rfl, by simpa [head] using accepted, by simp [Nat.add_assoc]⟩
    rw [here]
    simp only [endsLongest]
    split
    · next accepted =>
      simp only [List.mem_append, List.mem_singleton, Place.step, ih, accepted, true_and]
      exact or_comm
    · next rejected => simp [rejected]

theorem mem_endsShortest_iff (accepts : Char → Bool) (text : Text) (place found : Place) :
    found ∈ endsShortest accepts text place ↔ found ∈ endsLongest accepts text place := by
  induction text generalizing place with
  | nil => simp [endsShortest, endsLongest]
  | cons c rest ih =>
    simp only [endsShortest, endsLongest]
    split
    · simp [ih, or_comm]
    · simp

theorem runLength_add (accepts : Char → Bool) (count : Nat) (text : Text) :
    runLength accepts count text = count + runLength accepts 0 text := by
  induction text generalizing count with
  | nil => simp [runLength]
  | cons c rest ih =>
    simp only [runLength]
    split
    · rw [ih (count + 1), ih (0 + 1)]
      omega
    · simp

theorem runLength_append (accepts : Char → Bool) (covered after : Text)
    (accepted : ∀ c ∈ covered, accepts c = true) :
    runLength accepts 0 (covered ++ after) = covered.length + runLength accepts 0 after := by
  induction covered with
  | nil => simp
  | cons c covered ih =>
    have rest := ih fun d member => accepted d (List.mem_cons_of_mem _ member)
    simp only [List.cons_append, runLength, accepted c (by simp), if_true, List.length_cons]
    rw [runLength_add, rest]
    omega

theorem runLength_le (accepts : Char → Bool) (text : Text) :
    runLength accepts 0 text ≤ text.length := by
  induction text with
  | nil => simp [runLength]
  | cons c rest ih =>
    simp only [runLength]
    split
    · rw [runLength_add, List.length_cons]
      omega
    · simp

theorem accepts_of_mem_take (accepts : Char → Bool) (count : Nat) (text : Text)
    (within : count ≤ runLength accepts 0 text) (c : Char) (member : c ∈ text.take count) :
    accepts c = true := by
  induction text generalizing count with
  | nil => simp at member
  | cons d rest ih =>
    cases count with
    | zero => simp at member
    | succ count =>
      simp only [runLength] at within
      split at within
      · next accepted =>
        rw [runLength_add] at within
        rcases List.mem_cons.mp member with rfl | later
        · exact accepted
        · exact ih count (by omega) later
      · omega

theorem Place.passing_eq (captures : List Capture) (count offset : Nat) (rest : Text) :
    Place.passing captures count offset rest =
      ⟨offset + width (rest.take count), rest.drop count, captures⟩ := by
  induction rest generalizing count offset with
  | nil => cases count <;> simp [Place.passing]
  | cons c rest ih => cases count <;> simp [Place.passing, ih, Nat.add_assoc]

theorem mem_nearRunEnd_iff (spare : Nat) (accepts : Char → Bool) (offset : Nat) (rest : Text)
    (captures : List Capture) (place : Place) :
    place ∈ (Pattern.most spare accepts).ends ⟨offset, rest, captures⟩ ↔
      ∃ covered after, rest = covered ++ after ∧ (∀ c ∈ covered, accepts c = true) ∧
        runLength accepts 0 after ≤ spare ∧ place = ⟨offset + width covered, after, captures⟩ := by
  simp only [ends, Place.nearRunEnd, Place.passing_eq, mem_endsLongest_iff]
  have joined : rest.take (runLength accepts 0 rest - spare) ++
      rest.drop (runLength accepts 0 rest - spare) = rest := List.take_append_drop _ _
  have near := accepts_of_mem_take accepts (runLength accepts 0 rest - spare) rest (by omega)
  -- The search begins `skipped` characters on; only that all of them are accepted matters.
  generalize count : runLength accepts 0 rest - spare = skipped at joined near
  constructor
  · rintro ⟨covered, after, split, accepted, rfl⟩
    have whole : rest = rest.take skipped ++ covered ++ after := by
      rw [List.append_assoc, ← split, joined]
    have all : ∀ c ∈ rest.take skipped ++ covered, accepts c = true := by
      intro c member
      rcases List.mem_append.mp member with early | late
      · exact near c early
      · exact accepted c late
    have length := runLength_append accepts _ after all
    rw [← whole, List.length_append, List.length_take] at length
    have bound : runLength accepts 0 rest ≤ rest.length := runLength_le accepts rest
    exact ⟨_, after, whole, all, by omega, by simp [Nat.add_assoc]⟩
  · rintro ⟨covered, after, rfl, accepted, short, rfl⟩
    have length := runLength_append accepts covered after accepted
    have inside : skipped ≤ covered.length := by omega
    refine ⟨covered.drop skipped, after, ?_, ?_, ?_⟩
    · rw [List.drop_append_of_le_length inside]
    · exact fun c member => accepted c (List.mem_of_mem_drop member)
    · rw [List.take_append_of_le_length inside]
      have widths := congrArg width (List.take_append_drop skipped covered)
      rw [width_append] at widths
      simp only [Place.mk.injEq, and_true]
      omega

def ReachedBy (pattern : Pattern) (before rest : Text) (captures : List Capture)
    (place : Place) : Prop :=
  ∃ covered after inner, rest = covered ++ after ∧ pattern.Fits before covered after inner ∧
    place = ⟨width (before ++ covered), after, inner ++ captures⟩

section Ends

variable {before rest : Text} {captures : List Capture} {place : Place}

theorem mem_ends_nothing_iff :
    place ∈ nothing.ends ⟨width before, rest, captures⟩ ↔
      nothing.ReachedBy before rest captures place := by
  simp only [ends, List.mem_singleton, ReachedBy, Fits]
  constructor
  · rintro rfl
    exact ⟨[], rest, [], rfl, ⟨rfl, rfl⟩, by simp⟩
  · rintro ⟨_, after, _, rfl, ⟨rfl, rfl⟩, rfl⟩
    simp

theorem mem_ends_lineStart_iff :
    place ∈ lineStart.ends ⟨width before, rest, captures⟩ ↔
      lineStart.ReachedBy before rest captures place := by
  simp only [ends, width_eq_zero_iff, ReachedBy, Fits]
  constructor
  · intro member
    split at member
    · next atStart =>
      obtain rfl := List.mem_singleton.mp member
      exact ⟨[], rest, [], rfl, ⟨atStart, rfl, rfl⟩, by simp⟩
    · simp at member
  · rintro ⟨_, after, _, rfl, ⟨rfl, rfl, rfl⟩, rfl⟩
    simp

theorem mem_ends_lineEnd_iff :
    place ∈ lineEnd.ends ⟨width before, rest, captures⟩ ↔
      lineEnd.ReachedBy before rest captures place := by
  simp only [ends, List.isEmpty_iff, ReachedBy, Fits]
  constructor
  · intro member
    split at member
    · next atEnd =>
      obtain rfl := List.mem_singleton.mp member
      exact ⟨[], rest, [], rfl, ⟨atEnd, rfl, rfl⟩, by simp⟩
    · simp at member
  · rintro ⟨_, after, _, rfl, ⟨rfl, rfl, rfl⟩, rfl⟩
    simp

theorem mem_ends_char_iff (accepts : Char → Bool) :
    place ∈ (char accepts).ends ⟨width before, rest, captures⟩ ↔
      (char accepts).ReachedBy before rest captures place := by
  simp only [ends, ReachedBy, Fits]
  constructor
  · intro member
    split at member
    · simp at member
    · next c after =>
      split at member
      · next accepted =>
        obtain rfl := List.mem_singleton.mp member
        exact ⟨[c], after, [], rfl, ⟨c, accepted, rfl, rfl⟩, by simp [Place.step]⟩
      · simp at member
  · rintro ⟨_, after, _, rfl, ⟨c, accepted, rfl, rfl⟩, rfl⟩
    simp [accepted, Place.step]

theorem mem_ends_longest_iff (accepts : Char → Bool) :
    place ∈ (longest accepts).ends ⟨width before, rest, captures⟩ ↔
      (longest accepts).ReachedBy before rest captures place := by
  simp only [ends, mem_endsLongest_iff, ReachedBy, Fits]
  constructor
  · rintro ⟨covered, after, rfl, accepted, rfl⟩
    exact ⟨covered, after, [], rfl, ⟨accepted, rfl⟩, by simp⟩
  · rintro ⟨covered, after, _, rfl, ⟨accepted, rfl⟩, rfl⟩
    exact ⟨covered, after, rfl, accepted, by simp⟩

theorem mem_ends_most_iff (spare : Nat) (accepts : Char → Bool) :
    place ∈ (most spare accepts).ends ⟨width before, rest, captures⟩ ↔
      (most spare accepts).ReachedBy before rest captures place := by
  simp only [mem_nearRunEnd_iff, ReachedBy, Fits]
  constructor
  · rintro ⟨covered, after, rfl, accepted, short, rfl⟩
    exact ⟨covered, after, [], rfl, ⟨accepted, short, rfl⟩, by simp⟩
  · rintro ⟨covered, after, _, rfl, ⟨accepted, short, rfl⟩, rfl⟩
    exact ⟨covered, after, rfl, accepted, short, by simp⟩

theorem mem_ends_shortest_iff (accepts : Char → Bool) :
    place ∈ (shortest accepts).ends ⟨width before, rest, captures⟩ ↔
      (shortest accepts).ReachedBy before rest captures place := by
  rw [ends, mem_endsShortest_iff]
  exact mem_ends_longest_iff accepts

variable {first second body : Pattern}

theorem mem_ends_seq_iff
    (inFirst : ∀ before rest captures place, place ∈ first.ends ⟨width before, rest, captures⟩ ↔
      first.ReachedBy before rest captures place)
    (inSecond : ∀ before rest captures place, place ∈ second.ends ⟨width before, rest, captures⟩ ↔
      second.ReachedBy before rest captures place) :
    place ∈ (seq first second).ends ⟨width before, rest, captures⟩ ↔
      (seq first second).ReachedBy before rest captures place := by
  simp only [ends, List.mem_flatMap, inFirst]
  constructor
  · rintro ⟨_, ⟨front, between, inFront, rfl, fitsFront, rfl⟩, member⟩
    obtain ⟨back, after, inBack, rfl, fitsBack, rfl⟩ := (inSecond _ _ _ _).mp member
    exact ⟨front ++ back, after, inBack ++ inFront, by simp,
      ⟨front, back, inFront, inBack, rfl, rfl, fitsFront, fitsBack⟩, by simp⟩
  · rintro ⟨_, after, _, rfl, ⟨front, back, inFront, inBack, rfl, rfl, fitsFront, fitsBack⟩, rfl⟩
    refine ⟨_, ⟨front, back ++ after, inFront, by simp, fitsFront, rfl⟩, ?_⟩
    exact (inSecond _ _ _ _).mpr ⟨back, after, inBack, rfl, fitsBack, by simp⟩

theorem reachedBy_either_iff :
    (either first second).ReachedBy before rest captures place ↔
      first.ReachedBy before rest captures place ∨ second.ReachedBy before rest captures place := by
  constructor
  · rintro ⟨covered, after, inner, split, fits | fits, found⟩
    · exact .inl ⟨covered, after, inner, split, fits, found⟩
    · exact .inr ⟨covered, after, inner, split, fits, found⟩
  · rintro (⟨covered, after, inner, split, fits, found⟩ | ⟨covered, after, inner, split, fits, found⟩)
    · exact ⟨covered, after, inner, split, .inl fits, found⟩
    · exact ⟨covered, after, inner, split, .inr fits, found⟩

theorem mem_ends_group_iff (index : Nat)
    (inBody : ∀ place, place ∈ body.ends ⟨width before, rest, captures⟩ ↔
      body.ReachedBy before rest captures place) :
    place ∈ (group index body).ends ⟨width before, rest, captures⟩ ↔
      (group index body).ReachedBy before rest captures place := by
  simp only [ends, List.mem_map, inBody]
  constructor
  · rintro ⟨_, ⟨covered, after, inner, rfl, fits, rfl⟩, rfl⟩
    exact ⟨covered, after, _, rfl, ⟨inner, rfl, fits⟩, rfl⟩
  · rintro ⟨covered, after, _, rfl, ⟨inner, rfl, fits⟩, rfl⟩
    exact ⟨_, ⟨covered, after, inner, rfl, fits, rfl⟩, rfl⟩

end Ends

theorem mem_ends_iff (pattern : Pattern) (before rest : Text) (captures : List Capture)
    (place : Place) :
    place ∈ pattern.ends ⟨width before, rest, captures⟩ ↔
      pattern.ReachedBy before rest captures place := by
  induction pattern generalizing before rest captures place with
  | nothing => exact mem_ends_nothing_iff
  | lineStart => exact mem_ends_lineStart_iff
  | lineEnd => exact mem_ends_lineEnd_iff
  | char accepts => exact mem_ends_char_iff accepts
  | longest accepts => exact mem_ends_longest_iff accepts
  | most spare accepts => exact mem_ends_most_iff spare accepts
  | shortest accepts => exact mem_ends_shortest_iff accepts
  | seq first second ihFirst ihSecond => exact mem_ends_seq_iff ihFirst ihSecond
  | either first second ihFirst ihSecond =>
    rw [ends, List.mem_append, ihFirst, ihSecond, reachedBy_either_iff]
  | group index body ih => exact mem_ends_group_iff index (ih before rest captures)

theorem Fits.index_le_groupCount {pattern : Pattern} {before covered after : Text}
    {captures : List Capture} (fits : pattern.Fits before covered after captures) :
    ∀ capture ∈ captures, capture.index ≤ pattern.groupCount := by
  induction pattern generalizing before covered after captures with
  | nothing => simp [fits.2]
  | lineStart | lineEnd | most => simp [fits.2.2]
  | char accepts =>
    obtain ⟨c, -, -, rfl⟩ := fits
    simp
  | longest accepts | shortest accepts => simp [fits.2]
  | seq first second ihFirst ihSecond =>
    obtain ⟨_, _, _, _, -, rfl, inFirst, inSecond⟩ := fits
    intro capture member
    rcases List.mem_append.mp member with later | earlier
    · exact Nat.le_trans (ihSecond inSecond capture later) (Nat.le_max_right _ _)
    · exact Nat.le_trans (ihFirst inFirst capture earlier) (Nat.le_max_left _ _)
  | either first second ihFirst ihSecond =>
    intro capture member
    rcases fits with inFirst | inSecond
    · exact Nat.le_trans (ihFirst inFirst capture member) (Nat.le_max_left _ _)
    · exact Nat.le_trans (ihSecond inSecond capture member) (Nat.le_max_right _ _)
  | group index body ih =>
    obtain ⟨inner, rfl, inBody⟩ := fits
    intro capture member
    rcases List.mem_cons.mp member with rfl | within
    · exact Nat.le_max_left _ _
    · exact Nat.le_trans (ih inBody capture within) (Nat.le_max_right _ _)

theorem exists_fit_of_matchAt {pattern : Pattern} {before rest : Text} {found : Match}
    (matched : pattern.matchAt (width before) rest = some found) :
    ∃ covered after captures, rest = covered ++ after ∧
      pattern.Fits before covered after captures ∧
      found = ⟨width before, width (before ++ covered), captures⟩ := by
  rw [matchAt, run_eq_findSome?_ends] at matched
  obtain ⟨place, member, here⟩ := List.exists_of_findSome?_eq_some matched
  obtain ⟨covered, after, captures, split, fits, rfl⟩ := (mem_ends_iff _ _ _ _ _).mp member
  refine ⟨covered, after, captures, split, fits, ?_⟩
  simpa using (Option.some.inj here).symm

theorem exists_fit_of_mem_matchesFrom {pattern : Pattern} {before rest : Text} {resume : Nat}
    {found : Match} (member : found ∈ pattern.matchesFrom resume (width before) rest) :
    ∃ front covered after captures, before ++ rest = front ++ covered ++ after ∧
      pattern.Fits front covered after captures ∧
      found = ⟨width front, width (front ++ covered), captures⟩ := by
  induction rest generalizing before resume with
  | nil =>
    simp only [matchesFrom] at member
    split at member
    · simp at member
    · obtain ⟨covered, after, captures, split, fits, rfl⟩ :=
        exists_fit_of_matchAt (Option.mem_toList.mp member)
      exact ⟨before, covered, after, captures, by rw [split, List.append_assoc], fits, rfl⟩
  | cons c rest ih =>
    have next : width before + c.utf8Size = width (before ++ [c]) := by simp
    have later (resume : Nat) (onward : found ∈ pattern.matchesFrom resume
        (width before + c.utf8Size) rest) := ih (next ▸ onward)
    simp only [List.append_assoc, List.singleton_append] at later
    simp only [matchesFrom] at member
    split at member
    · simpa using later resume member
    · split at member
      · simpa using later resume member
      · next first matched =>
        rcases List.mem_cons.mp member with rfl | onward
        · obtain ⟨covered, after, captures, split, fits, rfl⟩ := exists_fit_of_matchAt matched
          exact ⟨before, covered, after, captures, by rw [split, List.append_assoc], fits, rfl⟩
        · simpa using later first.stop onward

theorem exists_fit_of_mem_matchesOf {pattern : Pattern} {line : Text} {found : Match}
    (member : found ∈ pattern.matchesOf line) :
    ∃ front covered after captures, line = front ++ covered ++ after ∧
      pattern.Fits front covered after captures ∧
      found = ⟨width front, width (front ++ covered), captures⟩ := by
  have fromStart : found ∈ pattern.matchesFrom 0 (width []) line := member
  exact exists_fit_of_mem_matchesFrom fromStart

theorem captures_of_mem_matchesOf {pattern : Pattern} {line : Text} {found : Match}
    (member : found ∈ pattern.matchesOf line) {index : Nat} (beyond : pattern.groupCount < index) :
    found.captures.find? (·.index == index) = none := by
  obtain ⟨_, _, _, captures, -, fits, rfl⟩ := exists_fit_of_mem_matchesOf member
  rw [List.find?_eq_none]
  intro capture inside same
  have within := fits.index_le_groupCount capture inside
  simp only [beq_iff_eq] at same
  omega

theorem exists_matchAt_of_fits {pattern : Pattern} {before covered after : Text}
    {captures : List Capture} (fits : pattern.Fits before covered after captures) :
    ∃ found, pattern.matchAt (width before) (covered ++ after) = some found := by
  have member := (mem_ends_iff pattern before (covered ++ after) [] _).mpr
    ⟨covered, after, captures, rfl, fits, rfl⟩
  rw [← Option.isSome_iff_exists, matchAt, run_eq_findSome?_ends, List.findSome?_isSome_iff]
  exact ⟨_, member, rfl⟩

theorem start_of_matchAt {pattern : Pattern} {offset : Nat} {rest : Text} {found : Match}
    (matched : pattern.matchAt offset rest = some found) : found.start = offset := by
  rw [matchAt, run_eq_findSome?_ends] at matched
  obtain ⟨_, -, here⟩ := List.exists_of_findSome?_eq_some matched
  rw [← Option.some.inj here]

theorem head?_matchesFrom {pattern : Pattern} {offset : Nat} {rest : Text} {found : Match}
    (matched : pattern.matchAt offset rest = some found) :
    (pattern.matchesFrom 0 offset rest).head? = some found := by
  cases rest <;> simp [matchesFrom, matched]

theorem exists_head?_matchesFrom {pattern : Pattern} {before front covered after : Text}
    {captures : List Capture} (fits : pattern.Fits (before ++ front) covered after captures) :
    ∃ found, (pattern.matchesFrom 0 (width before) (front ++ (covered ++ after))).head? =
      some found ∧ found.start ≤ width (before ++ front) := by
  induction front generalizing before with
  | nil =>
    rw [List.append_nil] at fits ⊢
    obtain ⟨found, matched⟩ := exists_matchAt_of_fits fits
    exact ⟨found, head?_matchesFrom matched, Nat.le_of_eq (start_of_matchAt matched)⟩
  | cons c front ih =>
    have next : width before + c.utf8Size = width (before ++ [c]) := by simp
    cases matched : pattern.matchAt (width before) (c :: (front ++ (covered ++ after))) with
    | some found =>
      refine ⟨found, head?_matchesFrom matched, ?_⟩
      rw [start_of_matchAt matched, width_append]
      omega
    | none =>
      obtain ⟨found, first, leftmost⟩ := @ih (before ++ [c]) (by simpa using fits)
      refine ⟨found, ?_, by simpa using leftmost⟩
      rw [List.cons_append, matchesFrom, if_neg (Nat.not_lt_zero _), matched]
      exact next ▸ first

theorem exists_fit_of_mem_firstOccurrencesWhere {pattern : Pattern} {accepts : Occurrence → Bool}
    {lines : List Text} {occurrence : Occurrence}
    (member : occurrence ∈ pattern.firstOccurrencesWhere accepts lines) :
    ∃ lineIndex front covered after captures,
      lines[lineIndex]? = some (front ++ covered ++ after) ∧
      pattern.Fits front covered after captures ∧
      occurrence = ⟨lineIndex, front ++ covered ++ after,
        ⟨width front, width (front ++ covered), captures⟩⟩ := by
  obtain ⟨⟨line, lineIndex⟩, inLines, first⟩ := List.mem_filterMap.mp member
  obtain ⟨found, isMatch, rfl⟩ := List.mem_map.mp (List.mem_of_find?_eq_some first)
  obtain ⟨front, covered, after, captures, rfl, fits, rfl⟩ := exists_fit_of_mem_matchesOf isMatch
  exact ⟨lineIndex, front, covered, after, captures, List.mem_zipIdx_iff_getElem?.mp inLines, fits,
    rfl⟩

theorem firstOccurrencesWhere_singleton (pattern : Pattern) (accepts : Occurrence → Bool)
    (line : Text) :
    pattern.firstOccurrencesWhere accepts [line] =
      ((pattern.occurrences 0 line).find? accepts).toList := by
  cases found : (pattern.occurrences 0 line).find? accepts <;> simp [firstOccurrencesWhere, found]

theorem firstOccurrences_singleton (pattern : Pattern) (line : Text) :
    pattern.firstOccurrences [line] =
      ((pattern.matchesOf line).head?.map (⟨0, line, ·⟩)).toList := by
  rw [firstOccurrences, firstOccurrencesWhere_singleton, occurrences]
  cases pattern.matchesOf line <;> rfl

theorem exists_firstOccurrence {pattern : Pattern} {front covered after : Text}
    {captures : List Capture} (fits : pattern.Fits front covered after captures) :
    ∃ occurrence, pattern.firstOccurrences [front ++ covered ++ after] = [occurrence] ∧
      occurrence.found.start ≤ width front := by
  obtain ⟨found, first, leftmost⟩ := @exists_head?_matchesFrom pattern [] _ _ _ _ fits
  refine ⟨⟨0, front ++ covered ++ after, found⟩, ?_, leftmost⟩
  rw [width_nil, ← List.append_assoc] at first
  rw [firstOccurrences_singleton, matchesOf, first]
  rfl

section Reported

variable {α : Type} {pattern : Pattern} {accepts : Occurrence → Bool} {lines : List Text} {found : α}

theorem exists_fit_of_mem_filterMap {report : Occurrence → Option α}
    (member : found ∈ (pattern.firstOccurrencesWhere accepts lines).filterMap report) :
    ∃ lineIndex front covered after captures,
      lines[lineIndex]? = some (front ++ covered ++ after) ∧
      pattern.Fits front covered after captures ∧
      report ⟨lineIndex, front ++ covered ++ after,
        ⟨width front, width (front ++ covered), captures⟩⟩ = some found := by
  obtain ⟨occurrence, inLines, reported⟩ := List.mem_filterMap.mp member
  obtain ⟨lineIndex, front, covered, after, captures, present, fits, rfl⟩ :=
    exists_fit_of_mem_firstOccurrencesWhere inLines
  exact ⟨lineIndex, front, covered, after, captures, present, fits, reported⟩

theorem exists_fit_of_mem_map {report : Occurrence → α}
    (member : found ∈ (pattern.firstOccurrencesWhere accepts lines).map report) :
    ∃ lineIndex front covered after captures,
      lines[lineIndex]? = some (front ++ covered ++ after) ∧
      pattern.Fits front covered after captures ∧
      report ⟨lineIndex, front ++ covered ++ after,
        ⟨width front, width (front ++ covered), captures⟩⟩ = found := by
  rw [← List.filterMap_eq_map] at member
  obtain ⟨lineIndex, front, covered, after, captures, present, fits, reported⟩ :=
    exists_fit_of_mem_filterMap member
  exact ⟨lineIndex, front, covered, after, captures, present, fits, Option.some.inj reported⟩

end Reported

theorem pairwise_zipIdx {α : Type} (items : List α) :
    items.zipIdx.Pairwise fun one other => one.2 < other.2 := by
  apply List.Pairwise.of_map Prod.snd (fun _ _ less => less)
  rw [List.zipIdx_map_snd]
  exact List.pairwise_lt_range'

theorem pairwise_firstOccurrencesWhere (pattern : Pattern) (accepts : Occurrence → Bool)
    (lines : List Text) :
    (pattern.firstOccurrencesWhere accepts lines).Pairwise
      fun one other => one.lineIndex < other.lineIndex := by
  refine List.pairwise_filterMap.mpr ?_
  refine (pairwise_zipIdx lines).imp ?_
  intro one other less first firstFound second secondFound
  obtain ⟨_, _, rfl⟩ := List.mem_map.mp (List.mem_of_find?_eq_some firstFound)
  obtain ⟨_, _, rfl⟩ := List.mem_map.mp (List.mem_of_find?_eq_some secondFound)
  exact less

section Anchored

def Anchored (pattern : Pattern) : Prop :=
  ∀ before covered after captures, pattern.Fits before covered after captures → before = []

theorem le_start_of_mem_matchesFrom {pattern : Pattern} {resume offset : Nat} {rest : Text}
    {found : Match} (member : found ∈ pattern.matchesFrom resume offset rest) :
    offset ≤ found.start := by
  induction rest generalizing resume offset with
  | nil =>
    simp only [matchesFrom] at member
    split at member
    · simp at member
    · exact Nat.le_of_eq (start_of_matchAt (Option.mem_toList.mp member)).symm
  | cons c rest ih =>
    simp only [matchesFrom] at member
    split at member
    · exact Nat.le_of_add_right_le (ih member)
    · split at member
      · exact Nat.le_of_add_right_le (ih member)
      · next matched =>
        cases List.mem_cons.mp member with
        | inl first => exact first ▸ Nat.le_of_eq (start_of_matchAt matched).symm
        | inr later => exact Nat.le_of_add_right_le (ih later)

theorem Anchored.matchesOf_eq {pattern : Pattern} (anchored : pattern.Anchored) (line : Text) :
    pattern.matchesOf line = (pattern.matchAt 0 line).toList := by
  cases line with
  | nil => rfl
  | cons c rest =>
    -- A match further on would begin at the beginning of the line, too.
    have noneBehind (resume : Nat) : pattern.matchesFrom resume (0 + c.utf8Size) rest = [] := by
      apply List.eq_nil_iff_forall_not_mem.mpr
      intro found member
      have late := le_start_of_mem_matchesFrom member
      have behind : 0 + c.utf8Size = width [c] := by simp
      rw [behind] at member
      obtain ⟨front, covered, after, captures, -, fits, isMatch⟩ :=
        exists_fit_of_mem_matchesFrom member
      have atStart : found.start = 0 := by rw [isMatch, anchored _ _ _ _ fits, width_nil]
      have positive := c.utf8Size_pos
      omega
    rw [matchesOf, matchesFrom, if_neg (Nat.not_lt_zero _)]
    cases pattern.matchAt 0 (c :: rest) with
    | none => exact noneBehind 0
    | some found => exact congrArg (found :: ·) (noneBehind found.stop)

end Anchored

@[simp] theorem fits_literal (text before covered after : Text) (captures : List Capture) :
    (literal text).Fits before covered after captures ↔ covered = text ∧ captures = [] := by
  induction text generalizing before covered captures with
  | nil => simp [literal, Fits]
  | cons c rest ih =>
    have char (before covered after : Text) (captures : List Capture) :
        (Pattern.char (· == c)).Fits before covered after captures ↔
          covered = [c] ∧ captures = [] := by
      simp [Fits]
    cases rest with
    | nil => exact char before covered after captures
    | cons d rest =>
      change (Pattern.seq (.char (· == c)) (literal (d :: rest))).Fits _ _ _ _ ↔ _
      rw [Fits]
      simp only [char, ih]
      constructor
      · rintro ⟨_, _, _, _, rfl, rfl, ⟨rfl, rfl⟩, rfl, rfl⟩
        exact ⟨rfl, rfl⟩
      · rintro ⟨rfl, rfl⟩
        exact ⟨[c], d :: rest, [], [], rfl, rfl, ⟨rfl, rfl⟩, rfl, rfl⟩

end Pattern

section Groups

variable {lineIndex index : Nat} {line : Text} {found : Match}

theorem Occurrence.groupSpan?_eq {head covered : Text}
    (capture : found.captures.find? (·.index == index) =
      some ⟨index, width head, width (head ++ covered)⟩) :
    Occurrence.groupSpan? ⟨lineIndex, line, found⟩ index =
      some ⟨lineIndex, line, width head, width (head ++ covered)⟩ := by
  simp only [Occurrence.groupSpan?, capture]
  rfl

theorem Occurrence.group_eq (head covered tail : Text)
    (capture : found.captures.find? (·.index == index) =
      some ⟨index, width head, width (head ++ covered)⟩)
    (parts : line = head ++ covered ++ tail) :
    Occurrence.group ⟨lineIndex, line, found⟩ index = covered := by
  rw [Occurrence.group, Occurrence.groupSpan?_eq capture, Option.map_some, Option.getD_some,
    Span.text, parts, slice?_append, Option.getD_some]

end Groups

end CourseLint
