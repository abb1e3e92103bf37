import CourseLint.Pattern.Header
import CourseLint.Proofs.Matching

set_option autoImplicit false

namespace CourseLint.Pattern

open Text

theorem pieces?_plain {c : Char} (plain : isMeta c = false) (left : Text) :
    pieces? (c :: left) = (pieces? left).map (.char (· == c) :: ·) := by
  have other (d : Char) (isSign : isMeta d = true) : c ≠ d := by
    rintro rfl
    simp [plain] at isSign
  rw [pieces?.eq_def]
  split
  · next nil => cases nil
  · next same => exact absurd (List.cons.inj same).1 (other '^' rfl)
  · next same => exact absurd (List.cons.inj same).1 (other '.' rfl)
  · next same => exact absurd (List.cons.inj same).1 (other '\\' rfl)
  · next same => exact absurd (List.cons.inj same).1 (other '\\' rfl)
  · next same =>
    obtain ⟨rfl, rfl⟩ := List.cons.inj same
    simp [plain]

theorem pieces?_quoted {c : Char} (sign : isMeta c = true) (left : Text) :
    pieces? ('\\' :: c :: left) = (pieces? left).map (.char (· == c) :: ·) := by
  rw [pieces?.eq_def]
  split
  · next nil => cases nil
  · next same => cases same
  · next same => cases same
  · next same =>
    cases same
    cases sign
  · next same =>
    cases same
    simp [sign]
  · next notQuoted same =>
    cases same
    exact absurd rfl (notQuoted c left rfl)

theorem pieces?_escape (text left : Text) :
    pieces? (escape text ++ left) = (pieces? left).map (exactly text ++ ·) := by
  induction text with
  | nil => simp [escape, exactly]
  | cons c text ih =>
    have rest (written : Text) (one : pieces? (written ++ (escape text ++ left)) =
        (pieces? (escape text ++ left)).map (.char (· == c) :: ·)) :
        pieces? (written ++ escape text ++ left) =
          (pieces? left).map (exactly (c :: text) ++ ·) := by
      rw [List.append_assoc, one, ih, Option.map_map]
      rfl
    rw [escape, List.flatMap_cons]
    split
    · next sign => exact rest _ (pieces?_quoted sign _)
    · next plain => exact rest _ (pieces?_plain (by simpa using plain) _)

theorem pieces?_headerExpression (key : Text) :
    (pieces? (headerExpression key)).map chain = some (entryHeader key) := by
  have behind : pieces? (escape key ++ [',']) = some (exactly (key ++ [','])) := by
    rw [pieces?_escape]
    simp [pieces?, isMeta, exactly]
  have whole : headerExpression key =
      '^' :: '\\' :: 's' :: '*' :: '@' :: '.' :: '*' :: '\\' :: '{' :: (escape key ++ [',']) := rfl
  rw [whole, pieces?, pieces?, pieces?_plain rfl, pieces?, pieces?_quoted rfl, behind]
  rfl

theorem entryHeader?_eq [Engine] (key : Text) :
    entryHeader? key =
      if Engine.builds (headerExpression key) then some (entryHeader key) else none := by
  rw [entryHeader?, ofExpression?, pieces?_headerExpression]

theorem eq_of_entryHeader? [Engine] {key : Text} {header : Pattern}
    (built : entryHeader? key = some header) : header = entryHeader key := by
  rw [entryHeader?_eq] at built
  split at built
  · exact (Option.some.inj built).symm
  · cases built

variable {before covered after front back : Text} {captures inFront inBack : List Capture}

theorem Fits.chain_cons {first : Pattern} {later : List Pattern}
    (fitsFirst : first.Fits before front (back ++ after) inFront)
    (fitsLater : (chain later).Fits (before ++ front) back after inBack) :
    (chain (first :: later)).Fits before (front ++ back) after (inBack ++ inFront) :=
  ⟨front, back, inFront, inBack, rfl, rfl, fitsFirst, fitsLater⟩

theorem fits_exactly_iff {text : Text} :
    (chain (exactly text)).Fits before covered after captures ↔ covered = text ∧ captures = [] := by
  induction text generalizing before covered captures with
  | nil => exact Iff.rfl
  | cons c text ih =>
    constructor
    · rintro ⟨_, back, _, _, rfl, rfl, ⟨d, isChar, rfl, rfl⟩, later⟩
      obtain ⟨rfl, rfl⟩ := ih.mp later
      simpa using isChar
    · rintro ⟨rfl, rfl⟩
      have one : (Pattern.char (· == c)).Fits before [c] (text ++ after) [] :=
        ⟨c, beq_self_eq_true c, rfl, rfl⟩
      exact one.chain_cons (ih.mpr ⟨rfl, rfl⟩)

theorem fits_entryHeader_iff (key covered after : Text) :
    (∃ captures, (entryHeader key).Fits [] covered after captures) ↔
      ∃ indent between, covered = indent ++ '@' :: between ++ '{' :: key ++ [','] ∧
        (∀ c ∈ indent, isBlankChar c = true) ∧ '\n' ∉ between := by
  constructor
  · rintro ⟨_, _, _, _, _, rfl, -, ⟨-, rfl, -⟩, indent, _, _, _, rfl, -, ⟨blank, -⟩,
      _, _, _, _, rfl, -, ⟨sign, isSign, rfl, -⟩, between, _, _, _, rfl, -, ⟨plain, -⟩,
      _, _, _, _, rfl, -, ⟨brace, isBrace, rfl, -⟩, word⟩
    obtain ⟨rfl, -⟩ := fits_exactly_iff.mp word
    obtain rfl := beq_iff_eq.mp isSign
    obtain rfl := beq_iff_eq.mp isBrace
    refine ⟨indent, between, by simp, blank, ?_⟩
    intro feed
    simpa [isNot] using plain _ feed
  · rintro ⟨indent, between, rfl, blank, plain⟩
    have one (c : Char) (front back : Text) : (Pattern.char (· == c)).Fits front [c] back [] :=
      ⟨c, beq_self_eq_true c, rfl, rfl⟩
    have isRest (front back : Text) : rest.Fits front between back [] := by
      refine ⟨fun c member => ?_, rfl⟩
      simpa [isNot] using ne_of_mem_of_not_mem member plain
    have isIndent (front back : Text) :
        (Pattern.longest isBlankChar).Fits front indent back [] := ⟨blank, rfl⟩
    have start (back : Text) : lineStart.Fits [] [] back [] := ⟨rfl, rfl, rfl⟩
    have word (front : Text) :
        (chain (exactly (key ++ [',']))).Fits front (key ++ [',']) after [] :=
      fits_exactly_iff.mpr ⟨rfl, rfl⟩
    have fits := (start _).chain_cons <| (isIndent _ _).chain_cons <| (one '@' _ _).chain_cons <|
      (isRest _ _).chain_cons <| (one '{' _ _).chain_cons (word _)
    exact ⟨[], by simpa [entryHeader] using fits⟩

theorem anchored_entryHeader (key : Text) : (entryHeader key).Anchored := by
  rintro before covered after captures ⟨_, _, _, _, -, -, ⟨start, -⟩, -⟩
  exact start

end CourseLint.Pattern
