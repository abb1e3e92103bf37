import CourseLint.Proofs.Cuts
import CourseLint.Proofs.DelimiterScans

set_option autoImplicit false

namespace CourseLint

open Text

def Text.Bare (text : Text) : Prop := ∀ c ∈ text, c ≠ '{' ∧ c ≠ '%' ∧ c ≠ '}'

instance (text : Text) : Decidable (Bare text) := List.decidableBAll _ text

theorem Text.bare_iff {text : Text} : Bare text ↔ '{' ∉ text ∧ '%' ∉ text ∧ '}' ∉ text := by
  simp only [Bare, forall_and, List.forall_mem_ne']

def callText (body : Text) : Text := '{' :: '%' :: (body ++ ['%', '}'])

def Delimiter.index (body : Text) : Delimiter → Nat
  | .openBrace => 0
  | .openPercent => 1
  | .closePercent => body.length + 2
  | .closeBrace => body.length + 3

def damagedText (lost : Delimiter) (body : Text) : Text :=
  (callText body).eraseIdx (lost.index body)

section DamagedText

variable (body : Text)

@[simp] theorem damagedText_openBrace :
    damagedText .openBrace body = '%' :: (body ++ ['%', '}']) := rfl

@[simp] theorem damagedText_openPercent :
    damagedText .openPercent body = '{' :: (body ++ ['%', '}']) := rfl

@[simp] theorem damagedText_closePercent :
    damagedText .closePercent body = '{' :: '%' :: (body ++ ['}']) := by
  simp [damagedText, callText, Delimiter.index, List.eraseIdx_append_of_length_le]

@[simp] theorem damagedText_closeBrace :
    damagedText .closeBrace body = '{' :: '%' :: (body ++ ['%']) := by
  simp [damagedText, callText, Delimiter.index, List.eraseIdx_append_of_length_le]

end DamagedText

inductive Segment where
  | plain (text : Text)
  | output (body : Text)
  | call (body : Text)
  | damaged (lost : Delimiter) (body : Text)
deriving DecidableEq, Repr

def Segment.text : Segment → Text
  | .plain text => text
  | .output body => '{' :: '{' :: (body ++ ['}', '}'])
  | .call body => callText body
  | .damaged lost body => damagedText lost body

theorem exists_segment {segments : List Segment} {front back : Text} {c : Char}
    (whole : segments.flatMap Segment.text = front ++ c :: back) :
    ∃ before segment after early late, segments = before ++ segment :: after ∧
      segment.text = early ++ c :: late ∧ front = before.flatMap Segment.text ++ early ∧
      back = late ++ after.flatMap Segment.text := by
  induction segments generalizing front with
  | nil => simp at whole
  | cons segment segments ih =>
    have later {front : Text} (whole : segments.flatMap Segment.text = front ++ c :: back) :
        ∃ before segment' after early late,
          segment :: segments = before ++ segment' :: after ∧ segment'.text = early ++ c :: late ∧
          segment.text ++ front = before.flatMap Segment.text ++ early ∧
          back = late ++ after.flatMap Segment.text := by
      obtain ⟨before, segment', after, early, late, rfl, text, rfl, rfl⟩ := ih whole
      exact ⟨segment :: before, segment', after, early, late, rfl, text, by simp, rfl⟩
    rw [List.flatMap_cons] at whole
    rcases List.append_eq_append_iff.mp whole with ⟨_, rfl, rest⟩ | ⟨inside, text, rest⟩
    · exact later rest
    · cases inside with
      | nil =>
        have onward : segments.flatMap Segment.text = [] ++ c :: back := rest.symm
        simpa [text] using later onward
      | cons d late =>
        obtain ⟨rfl, rfl⟩ := List.cons.inj rest
        exact ⟨[], segment, segments, front, late, rfl, text, rfl, rfl⟩

end CourseLint
