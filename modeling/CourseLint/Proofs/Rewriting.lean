import Mathlib.Data.List.Basic
import CourseLint.Registry

set_option autoImplicit false

namespace CourseLint

open Text

def opensVagueLink (c : Char) : Bool :=
  isBlankChar c || Pattern.foldsTo 'h' c || Pattern.foldsTo 'l' c

def citationLink : Text := "](\x7b% cite ... %\x7d)"

def betterLinkText : Text := "[Something better here]"

def toolCall (name id : Text) : Text :=
  "\x7b% tool " ++ name ++ "(" ++ Rule.decodeSlashes id ++ ") %\x7d"

inductive Rewrites : (head covered tail replacement : Text) → Prop where
  | openBrace (head call tail : Text) (unopened : head.getLast? ≠ some '{') :
      Rewrites head ('%' :: call) tail ('{' :: '%' :: call)
  | openPercent (head : Text) (c : Char) (rest tail : Text) (notPercent : c ≠ '%') :
      Rewrites (head ++ ['{']) (c :: rest) tail ('%' :: c :: rest)
  | closeBrace (head : Text) (c : Char) (tail : Text) (notBrace : c ≠ '}') :
      Rewrites (head ++ ['%']) [c] tail ['}', c]
  | closeBraceAtEnd (head : Text) : Rewrites (head ++ ['%']) [] [] ['}']
  | closePercent (head call : Text) (c : Char) (tail : Text) (notPercent : c ≠ '%') :
      Rewrites head ('{' :: call ++ [c, '}']) tail ('{' :: call ++ [c, '%', '}'])
  | externalLink (head site page suffix extension tail : Text) (colon : ':' ∈ site)
      (plain : extension = [] ∨ extension = ['.', 'm', 'd']) :
      Rewrites (head ++ ['(']) (site ++ page ++ suffix) tail (Rule.internalLink (page ++ extension))
  | citation (head address tail : Text) (colon : ':' ∈ address) :
      Rewrites head (']' :: address) tail citationLink
  | linkText (head : Text) (c : Char) (rest tail : Text) (vague : opensVagueLink c = true) :
      Rewrites head ('[' :: c :: rest ++ [']']) tail betterLinkText
  | toolLink (head opening name address id closing tail : Text) (colon : ':' ∈ address) :
      Rewrites head ('{' :: opening ++ name ++ address ++ id ++ closing) tail
        (toolCall name id)
  | boxTitle (head opening icon between title tail : Text)
      (markers : ∀ c ∈ head, Pattern.inQuoteMarkers c = true) :
      Rewrites head ('#' :: opening ++ icon ++ between ++ title) tail (Rule.boxTitleTag icon title)

namespace Text

theorem Casing.exists_run_of_lower? {runs : List Casing.Run} {n lowered : Nat}
    (found : runs.findSome? (·.lower? n) = some lowered) :
    ∃ run ∈ runs, run.first ≤ n ∧ n ≤ run.last ∧ lowered = (n + run.shift).toNat := by
  obtain ⟨run, member, isLower⟩ := List.exists_of_findSome?_eq_some found
  simp only [Casing.Run.lower?] at isLower
  split at isLower
  · next inRun => exact ⟨run, member, inRun.1, inRun.2.1, (Option.some.inj isLower).symm⟩
  · cases isLower

theorem toNat_ofNat_cases (n : Nat) : (Char.ofNat n).toNat = n ∨ (Char.ofNat n).toNat = 0 := by
  by_cases valid : n.isValidChar
  · rw [Char.ofNat, dif_pos valid]
    exact .inl rfl
  · rw [Char.ofNat, dif_neg valid]
    exact .inr rfl

theorem Casing.lowerChar_eq_control {c control : Char} (positive : 0 < control.toNat)
    (isControl : control.toNat < 0x20) (lowered : Casing.lowerChar c = control) : c = control := by
  have small : ∀ n < 0x80, (Char.ofNat n).toLower.toNat < 0x20 →
      (Char.ofNat n).toLower = Char.ofNat n := by
    decide +kernel
  have shifted : ∀ run ∈ Casing.lowerRuns, 0x20 ≤ (run.first : Int) + run.shift := by
    decide +kernel
  -- Beyond ASCII a letter is shifted within its run, and no run is shifted down so far.
  simp only [Casing.lowerChar] at lowered
  split at lowered
  · next ascii =>
    have kept := small c.toNat ascii
    rw [Char.ofNat_toNat, lowered] at kept
    exact (kept isControl).symm
  · split at lowered
    · next n found =>
      obtain ⟨run, member, first, last, rfl⟩ := Casing.exists_run_of_lower? found
      have above := shifted run member
      rw [← lowered] at positive isControl
      cases toNat_ofNat_cases (c.toNat + run.shift).toNat with
      | inl value => omega
      | inr zero => omega
    · exact lowered

theorem no_control_lower {text : Text} {control : Char} (positive : 0 < control.toNat)
    (isControl : control.toNat < 0x20) (absent : control ∉ text) : control ∉ lower text := by
  have differs (c : Char) (large : 0x20 ≤ c.toNat) : control ≠ c := by
    intro same
    rw [same] at isControl
    omega
  have after (before : Text) : control ∉ Casing.lowerAfter before text := by
    induction text generalizing before with
    | nil => simp [Casing.lowerAfter]
    | cons c rest ih =>
      simp only [List.mem_cons, not_or] at absent
      simp only [Casing.lowerAfter, List.mem_append, not_or]
      refine ⟨?_, ih absent.2 _⟩
      split
      · split
        · simpa using differs 'ς' (by decide)
        · simpa using differs 'σ' (by decide)
      · split
        · simpa using And.intro (differs 'i' (by decide)) (differs '\u0307' (by decide))
        · simpa using fun lowered : control = Casing.lowerChar c =>
            absent.1 (Casing.lowerChar_eq_control positive isControl lowered.symm).symm
  exact after []

theorem mem_of_mem_trim {text : Text} {c : Char} (member : c ∈ trim text) : c ∈ text := by
  rw [trim, trimEnd, trimStart, List.mem_reverse] at member
  exact (List.dropWhile_sublist _).mem (List.mem_reverse.mp ((List.dropWhile_sublist _).mem member))

end Text

namespace Rule

theorem mem_of_mem_boxTitleText {icon title : Text} {c : Char}
    (member : c ∈ boxTitleText icon title) : c ∈ title := by
  refine mem_of_mem_trim ?_
  simp only [boxTitleText] at member
  split at member
  · next head tail cut =>
    have whole := ((splitAtByte?_eq_some_iff _ _ _ _).mp cut).1
    split at member
    · rw [whole]
      exact List.mem_append_right _
        (List.mem_cons_of_mem _ ((List.dropWhile_sublist _).mem member))
    · exact member
  · exact member

theorem no_feed_boxTag {icon : Text} (noFeed : '\n' ∉ icon) : '\n' ∉ boxTag icon := by
  simp only [boxTag, boxLabel, List.mem_append, List.mem_map, not_or, not_exists, not_and]
  refine ⟨?_, by decide⟩
  intro c member
  split
  · decide
  · rintro rfl
    exact no_control_lower (by decide) (by decide) noFeed member

theorem no_feed_boxTitleTag {icon title : Text} (noIcon : '\n' ∉ icon) (noTitle : '\n' ∉ title) :
    '\n' ∉ boxTitleTag icon title := by
  have noTag := no_feed_boxTag noIcon
  have noText : '\n' ∉ boxTitleText icon title := mt mem_of_mem_boxTitleText noTitle
  simp only [boxTitleTag, List.mem_append, noTag, noText, or_false]
  decide

theorem mem_of_mem_decodeSlashes {text : Text} {c : Char} (member : c ∈ decodeSlashes text) :
    c = '/' ∨ c ∈ text := by
  fun_induction decodeSlashes text with
  | case1 rest ih =>
    rcases List.mem_cons.mp member with rfl | later
    · exact .inl rfl
    · exact (ih later).imp_right (by simp +contextual)
  | case2 rest ih =>
    rcases List.mem_cons.mp member with rfl | later
    · exact .inl rfl
    · exact (ih later).imp_right (by simp +contextual)
  | case3 d rest _ _ ih =>
    rcases List.mem_cons.mp member with rfl | later
    · exact .inr (by simp)
    · exact (ih later).imp_right (by simp +contextual)
  | case4 => simp at member

end Rule

theorem Rule.internalLink_eq (page : Text) :
    internalLink page = ['{', '%', ' ', 'l', 'i', 'n', 'k', ' '] ++ page ++ [' ', '%', '}'] := rfl

theorem Rule.boxTitleTag_eq (icon title : Text) :
    boxTitleTag icon title = ['<'] ++ boxTag icon ++ ['>'] ++ boxTitleText icon title ++
      ['<', '/'] ++ boxTag icon ++ ['>'] := rfl

theorem toolCall_eq (name id : Text) :
    toolCall name id = ['{', '%', ' ', 't', 'o', 'o', 'l', ' '] ++ name ++ ['('] ++
      Rule.decodeSlashes id ++ [')', ' ', '%', '}'] := rfl

namespace Rewrites

variable {head covered tail replacement : Text}

theorem replacement_ne_nil (rewrites : Rewrites head covered tail replacement) :
    replacement ≠ [] := by
  cases rewrites with
  | openBrace | openPercent | closeBrace | closeBraceAtEnd | closePercent => simp
  | externalLink => simp [Rule.internalLink_eq]
  | toolLink => simp [toolCall_eq]
  | boxTitle => simp [Rule.boxTitleTag_eq]
  | citation | linkText => decide

theorem head_covered_ne_nil (rewrites : Rewrites head covered tail replacement) :
    head ++ covered ≠ [] := by
  cases rewrites <;> simp

theorem tail_eq_nil (rewrites : Rewrites head covered tail replacement)
    (noCovered : covered = []) : tail = [] := by
  cases rewrites with
  | closeBraceAtEnd => rfl
  | externalLink head site page suffix extension tail colon plain => simp_all
  | _ => simp at noCovered

theorem no_feed (rewrites : Rewrites head covered tail replacement)
    (noFeed : '\n' ∉ covered) : '\n' ∉ replacement := by
  cases rewrites with
  | openBrace | openPercent | closeBrace | closeBraceAtEnd | closePercent => simp_all
  | externalLink head site page suffix extension tail colon plain =>
    have noExtension : '\n' ∉ extension := by rcases plain with rfl | rfl <;> decide
    simp only [List.mem_append, not_or] at noFeed
    simp [Rule.internalLink_eq, noFeed, noExtension]
  | citation | linkText => decide
  | toolLink head opening name address id closing tail colon =>
    simp only [List.mem_append, List.mem_cons, not_or] at noFeed
    have noId : '\n' ∉ Rule.decodeSlashes id := by
      intro member
      rcases Rule.mem_of_mem_decodeSlashes member with slash | inId
      · exact absurd slash (by decide)
      · exact noFeed.1.2 inId
    simp [toolCall_eq, noFeed, noId]
  | boxTitle head opening icon between title tail markers =>
    simp only [List.mem_append, List.mem_cons, not_or] at noFeed
    exact Rule.no_feed_boxTitleTag noFeed.1.1.2 noFeed.2

theorem head?_replacement_append (rewrites : Rewrites head covered tail replacement)
    (noFeed : '\n' ∉ covered) (rest : Text) : (replacement ++ rest).head? ≠ some '\n' := by
  have noFeed' := rewrites.no_feed noFeed
  cases first : replacement with
  | nil => exact absurd first rewrites.replacement_ne_nil
  | cons c more =>
    rintro feed
    obtain rfl : c = '\n' := by simpa using feed
    exact noFeed' (by simp [first])

theorem getLast?_replacement (rewrites : Rewrites head covered tail replacement)
    (isReturn : replacement.getLast? = some '\r') : covered.getLast? = some '\r' := by
  cases rewrites with
  | openBrace | openPercent | closeBrace => simpa using isReturn
  | closeBraceAtEnd => simp at isReturn
  | closePercent head call c tail notPercent =>
    rw [List.getLast?_append_of_ne_nil _ (by simp)] at isReturn
    simp at isReturn
  | externalLink =>
    rw [Rule.internalLink_eq, List.getLast?_append_of_ne_nil _ (by simp)] at isReturn
    simp at isReturn
  | toolLink =>
    rw [toolCall_eq, List.getLast?_append_of_ne_nil _ (by simp)] at isReturn
    simp at isReturn
  | boxTitle =>
    rw [Rule.boxTitleTag_eq, List.getLast?_append_of_ne_nil _ (by simp)] at isReturn
    simp at isReturn
  | citation | linkText => exact absurd isReturn (by decide)

end Rewrites

end CourseLint
