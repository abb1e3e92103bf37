import CourseLint.Proofs.CallSegments
import CourseLint.Proofs.Placement

set_option autoImplicit false

namespace CourseLint

open Text

def Text.EndsInCall (text : Text) : Prop :=
  ∃ front run, text = front ++ '{' :: '%' :: run ∧ '%' ∉ run

def Text.BeginsInCall (text : Text) : Prop :=
  ∃ run rest, text = run ++ '%' :: '}' :: rest ∧ '%' ∉ run

theorem callText_eq_append_percent {body early late : Text} (bare : Bare body)
    (cut : callText body = early ++ '%' :: late) :
    (early = ['{'] ∧ late = body ++ ['%', '}']) ∨ (early = '{' :: '%' :: body ∧ late = ['}']) := by
  obtain ⟨-, noPercent, -⟩ := bare_iff.mp bare
  cases early with
  | nil => simp [callText] at cut
  | cons c early =>
    obtain ⟨rfl, behindBrace⟩ : '{' = c ∧ '%' :: (body ++ ['%', '}']) = early ++ '%' :: late := by
      simpa [callText] using cut
    cases early with
    | nil => exact .inl ⟨rfl, (List.cons.inj behindBrace).2.symm⟩
    | cons d early =>
      obtain ⟨rfl, behindPercent⟩ : '%' = d ∧ body ++ '%' :: ['}'] = early ++ '%' :: late := by
        simpa using behindBrace
      obtain ⟨rfl, rfl⟩ := cut_at_only noPercent (by simp) behindPercent
      exact .inr ⟨rfl, rfl⟩

namespace Delimiter

section InsideCall

variable {delimiter : Delimiter} {head left right tail before body after early late : Text}

theorem Lacks.inside_call (lacks : delimiter.Lacks head left right tail) (bare : Bare body)
    (cut : callText body = early ++ late) (front : head ++ left = before ++ early)
    (behind : right ++ tail = late ++ after) (begun : early ≠ []) (unfinished : late ≠ []) :
    (delimiter = .closeBrace ∧ EndsInCall before) ∨
      (delimiter = .openBrace ∧ BeginsInCall after ∧ early = '{' :: '%' :: body) := by
  obtain ⟨noOpen, noPercent, noClose⟩ := bare_iff.mp bare
  obtain ⟨d, late, rfl⟩ := List.exists_cons_of_ne_nil unfinished
  obtain ⟨early, e, rfl⟩ := List.eq_nil_or_concat early |>.resolve_left begun
  -- The call holds one brace at each end, so what stands beside the place fixes where it cuts.
  cases lacks with
  | openBrace head run tail unopened plain =>
    obtain ⟨rfl, close⟩ : '%' = d ∧ run ++ '%' :: '}' :: tail = late ++ after := by
      simpa using behind
    rcases callText_eq_append_percent bare cut with ⟨opens, -⟩ | ⟨isEarly, rfl⟩
    · obtain rfl : head = before ++ ['{'] := by simpa [← opens] using front
      simp at unopened
    · refine .inr ⟨rfl, ?_, isEarly⟩
      cases run with
      | nil => simp at close
      | cons c run =>
        obtain ⟨-, rfl⟩ : c = '}' ∧ run ++ '%' :: '}' :: tail = after := by simpa using close
        exact ⟨run, tail, rfl, fun isIn => plain (List.mem_cons_of_mem _ isIn)⟩
  | openPercent head c run tail other plain =>
    obtain ⟨rfl, -⟩ : c = d ∧ run ++ ' ' :: '%' :: '}' :: tail = late ++ after := by
      simpa using behind
    have lasts : head ++ ['{'] = (before ++ early) ++ [e] := by simpa using front
    obtain ⟨-, rfl⟩ := List.append_singleton_inj.mp lasts
    have parts : [] ++ '{' :: '%' :: (body ++ ['%', '}']) = early ++ '{' :: c :: late := by
      simpa [callText] using cut
    obtain ⟨-, same⟩ := cut_at_only (by simp) (by simp [noOpen]) parts
    exact absurd (List.cons.inj same).1.symm other
  | closePercent head run c tail plain other =>
    obtain ⟨rfl, -⟩ : '}' = d ∧ tail = late ++ after := by simpa using behind
    have lasts : (head ++ '{' :: '%' :: run) ++ [c] = (before ++ early) ++ [e] := by
      simpa using front
    obtain ⟨-, rfl⟩ := List.append_singleton_inj.mp lasts
    have parts : '{' :: '%' :: body ++ ['%'] ++ '}' :: [] = early ++ [c] ++ '}' :: late := by
      simpa [callText] using cut
    obtain ⟨same, -⟩ := cut_at_only (by simp [noClose]) (by simp) parts
    exact absurd (List.append_singleton_inj.mp same).2.symm other
  | closeBrace head run c tail plain other =>
    obtain ⟨rfl, -⟩ : c = d ∧ tail = late ++ after := by simpa using behind
    have lasts : (head ++ '{' :: '%' :: run) ++ ['%'] = (before ++ early) ++ [e] := by
      simpa using front
    obtain ⟨parts, rfl⟩ := List.append_singleton_inj.mp lasts
    rcases callText_eq_append_percent bare (by simpa using cut) with ⟨rfl, -⟩ | ⟨-, closes⟩
    · refine .inl ⟨rfl, head, ?_⟩
      rcases run.eq_nil_or_concat with rfl | ⟨run, d, rfl⟩
      · have lasts : (head ++ ['{']) ++ ['%'] = before ++ ['{'] := by simpa using parts
        exact absurd (List.append_singleton_inj.mp lasts).2 (by decide)
      · have lasts : (head ++ '{' :: '%' :: run) ++ [d] = before ++ ['{'] := by simpa using parts
        refine ⟨run, (List.append_singleton_inj.mp lasts).1.symm, ?_⟩
        exact fun isIn => plain (by simp [isIn])
    · exact absurd (List.cons.inj closes).1 other
  | closeBraceAtEnd head run plain => simp at behind

theorem Lacks.left_eq_nil (lacks : delimiter.Lacks head left right tail)
    (other : delimiter ≠ .closePercent) : left = [] := by
  cases lacks with
  | closePercent => exact absurd rfl other
  | _ => rfl

theorem Lacks.openPercent_covers {run rest : Text}
    (lacks : Delimiter.openPercent.Lacks head left right tail) (noPercent : '%' ∉ run)
    (behind : left ++ right ++ tail = run ++ '%' :: '}' :: rest) :
    left = [] ∧ right = run ++ ['%', '}'] ∧ tail = rest := by
  cases lacks with
  | openPercent head c run' tail other plain =>
    have parts : c :: (run' ++ [' ']) ++ '%' :: '}' :: tail = run ++ '%' :: '}' :: rest := by
      simpa using behind
    obtain ⟨rfl, same⟩ := cut_at_first (by simp [plain, Ne.symm other]) noPercent parts
    exact ⟨rfl, by simp, (List.cons.inj same).2⟩

theorem Lacks.openBrace_covers {run rest : Text}
    (lacks : Delimiter.openBrace.Lacks head left right tail) (noPercent : '%' ∉ run)
    (behind : left ++ right ++ tail = '%' :: (run ++ '%' :: '}' :: rest)) :
    left = [] ∧ right = '%' :: (run ++ ['%', '}']) ∧ tail = rest := by
  cases lacks with
  | openBrace head run' tail unopened plain =>
    have parts : run' ++ '%' :: '}' :: tail = run ++ '%' :: '}' :: rest := by simpa using behind
    obtain ⟨rfl, same⟩ := cut_at_first plain noPercent parts
    exact ⟨rfl, rfl, (List.cons.inj same).2⟩

theorem Lacks.not_inside_unopened (lacks : delimiter.Lacks head left right tail) (bare : Bare body)
    (atEnd : delimiter = .closeBrace ∨ delimiter = .closePercent)
    (cut : body ++ ['%', '}'] = early ++ late) (front : head = before ++ '{' :: early)
    (behind : left ++ right ++ tail = late ++ after) (reaches : late = [] → after = []) :
    False := by
  obtain ⟨noOpen, noPercent, -⟩ := bare_iff.mp bare
  have closed {head run : Text}
      (front : head ++ '{' :: '%' :: (run ++ ['%']) = before ++ '{' :: early) : late = ['}'] := by
    rcases early.eq_nil_or_concat with rfl | ⟨early, d, rfl⟩
    · have lasts : (head ++ '{' :: '%' :: run) ++ ['%'] = before ++ ['{'] := by simpa using front
      exact absurd (List.append_singleton_inj.mp lasts).2 (by decide)
    · have lasts : (head ++ '{' :: '%' :: run) ++ ['%'] = (before ++ '{' :: early) ++ [d] := by
        simpa using front
      obtain ⟨-, rfl⟩ := List.append_singleton_inj.mp lasts
      have parts : body ++ '%' :: ['}'] = early ++ '%' :: late := by simpa using cut
      exact (cut_at_only noPercent (by simp) parts).2.symm
  cases lacks with
  | openBrace | openPercent => simp at atEnd
  | closePercent head run c tail plain other =>
    cases late with
    | nil => simp [reaches] at behind
    | cons d late =>
      obtain ⟨rfl, -⟩ : '{' = d ∧ _ := List.cons.inj behind
      have inside : '{' ∈ body ++ ['%', '}'] := by simp [cut]
      simp [noOpen] at inside
  | closeBrace head run c tail plain other =>
    rw [closed front] at behind
    exact other (List.cons.inj behind).1
  | closeBraceAtEnd head run plain => simp [closed front] at behind

end InsideCall

end Delimiter

namespace Segment

def NearlySound : Segment → Prop
  | .plain text => Bare text
  | .output _ => False
  | .call body => Bare body
  | .damaged _ body => Bare body

instance : (segment : Segment) → Decidable segment.NearlySound
  | .plain text => inferInstanceAs (Decidable (Bare text))
  | .output _ => inferInstanceAs (Decidable False)
  | .call body => inferInstanceAs (Decidable (Bare body))
  | .damaged _ body => inferInstanceAs (Decidable (Bare body))

def Mendable (segment : Segment) : Prop :=
  ∃ body, segment = .damaged .openPercent body ∧ 2 ≤ body.length ∧ body.getLast? = some ' '

theorem length_eq_of_width_eq {before after before' after' : List Segment}
    {segment segment' : Segment} {early late early' late' : Text}
    (same : before ++ segment :: after = before' ++ segment' :: after')
    (cut : segment.text = early ++ late) (cut' : segment'.text = early' ++ late')
    (unfinished : late ≠ []) (unfinished' : late' ≠ [])
    (place : width (before.flatMap text ++ early) = width (before'.flatMap text ++ early')) :
    before.length = before'.length := by
  have wide : 0 < width late := Nat.pos_of_ne_zero (mt (width_eq_zero_iff late).mp unfinished)
  have wide' : 0 < width late' := Nat.pos_of_ne_zero (mt (width_eq_zero_iff late').mp unfinished')
  rcases List.append_eq_append_iff.mp same with ⟨between, rfl, rest⟩ | ⟨between, rfl, rest⟩
  all_goals
    cases between with
    | nil => simp
    | cons first between =>
      obtain ⟨rfl, -⟩ := List.cons.inj rest
      simp only [List.flatMap_append, List.flatMap_cons, width_append, cut, cut'] at place
      omega

theorem exists_host (segments : List Segment) (delimiter : Delimiter) (line : Text) :
    ∃ index, ∀ finding ∈ delimiter.scan [line], ∀ before segment after early late,
      segments = before ++ segment :: after → segment.text = early ++ late → late ≠ [] →
      finding.span.start = width (before.flatMap text ++ early) → before.length = index := by
  obtain ⟨found, scan⟩ := delimiter.scan_singleton line
  rw [scan]
  by_cases hosted : ∃ finding ∈ found, ∃ before segment after early late,
      segments = before ++ segment :: after ∧ segment.text = early ++ late ∧ late ≠ [] ∧
      finding.span.start = width (before.flatMap text ++ early)
  · obtain ⟨finding, isFound, before, segment, after, early, late, rfl, cut, unfinished, place⟩ :=
      hosted
    refine ⟨before.length, fun finding' member before' segment' after' early' late' split cut'
      unfinished' place' => ?_⟩
    obtain rfl : finding' = finding :=
      Option.some.inj ((Option.mem_toList.mp member).symm.trans isFound)
    exact length_eq_of_width_eq split.symm cut' cut unfinished' unfinished (place'.symm.trans place)
  · refine ⟨0, fun finding member before segment after early late split cut unfinished place => ?_⟩
    exact absurd ⟨finding, Option.mem_toList.mp member, before, segment, after, early, late, split,
      cut, unfinished, place⟩ hosted

variable {segments : List Segment} (nearly : ∀ segment ∈ segments, segment.NearlySound)
include nearly

theorem exists_mendable {head run tail : Text} {c : Char}
    (whole : segments.flatMap text = head ++ '{' :: c :: (run ++ ' ' :: '%' :: '}' :: tail))
    (other : c ≠ '%') (plain : '%' ∉ run) :
    ∃ before segment after, segments = before ++ segment :: after ∧ segment.Mendable ∧
      head = before.flatMap text := by
  obtain ⟨before, segment, after, early, late, rfl, isText, rfl, begins⟩ := exists_segment whole
  have bare := nearly segment (by simp)
  -- The brace is the only one of its segment, so it begins the segment.
  have single {rest : Text} (opens : segment.text = '{' :: rest) (noOpen : '{' ∉ rest) :
      early = [] ∧ rest = late := by
    have parts : [] ++ '{' :: rest = early ++ '{' :: late := opens.symm.trans isText
    obtain ⟨isEmpty, same⟩ := cut_at_only (by simp) noOpen parts
    exact ⟨isEmpty.symm, same⟩
  have notPercent {rest : Text} (same : '%' :: rest = late) : False := by
    rw [← same] at begins
    exact other (List.cons.inj begins).1
  cases segment with
  | plain text => exact absurd (by simp [show text = _ from isText]) (bare_iff.mp bare).1
  | output body => exact bare.elim
  | call body => exact (notPercent (single rfl (by simp [(bare_iff.mp bare).1])).2).elim
  | damaged lost body =>
    obtain ⟨noOpen, noPercent, -⟩ := bare_iff.mp bare
    cases lost with
    | openBrace =>
      have inside : '{' ∈ (Segment.damaged .openBrace body).text := by simp [isText]
      simp [text, noOpen] at inside
    | openPercent =>
      obtain ⟨rfl, rfl⟩ := single (damagedText_openPercent body) (by simp [noOpen])
      have parts : c :: (run ++ [' ']) ++ '%' :: '}' :: tail =
          body ++ '%' :: '}' :: after.flatMap text := by simpa using begins
      obtain ⟨rfl, -⟩ := cut_at_first (by simp [plain, Ne.symm other]) noPercent parts
      exact ⟨before, _, after, rfl, ⟨_, rfl, by simp, by simp [List.getLast?_cons]⟩, by simp⟩
    | closePercent =>
      exact (notPercent (single (damagedText_closePercent body) (by simp [noOpen])).2).elim
    | closeBrace =>
      exact (notPercent (single (damagedText_closeBrace body) (by simp [noOpen])).2).elim

theorem start_of_mem_scan_openPercent {before rest : List Segment} {body : Text}
    (isFirst : segments = before ++ .damaged .openPercent body :: rest)
    (mendable : (Segment.damaged .openPercent body).Mendable)
    (unmended : ∀ segment ∈ before, ¬ segment.Mendable) :
    ∃ finding, Delimiter.openPercent.scan [segments.flatMap text] = [finding] ∧
      finding.span.start = width (before.flatMap text ++ ['{']) := by
  obtain ⟨body, same, long, spaced⟩ := mendable
  obtain ⟨-, rfl⟩ := Segment.damaged.inj same
  have bare := nearly (.damaged .openPercent body) (by simp [isFirst])
  have lacks : Delimiter.openPercent.Lacks (before.flatMap text ++ ['{']) []
      (body ++ ['%', '}']) (rest.flatMap text) := by
    obtain ⟨run, rfl⟩ := List.getLast?_eq_some_iff.mp spaced
    obtain ⟨c, run, rfl⟩ : ∃ c more, run = c :: more :=
      List.exists_cons_of_ne_nil (by rintro rfl; simp at long)
    obtain ⟨-, noPercent, -⟩ := bare_iff.mp bare
    simp only [List.cons_append, List.mem_cons, List.mem_append, not_or] at noPercent
    simpa using Delimiter.Lacks.openPercent (before.flatMap text) c run (rest.flatMap text)
      (Ne.symm noPercent.1) noPercent.2.1
  have whole : segments.flatMap text = before.flatMap text ++ ['{'] ++
      ([] ++ (body ++ ['%', '}'])) ++ rest.flatMap text := by
    simp [isFirst, text]
  obtain ⟨finding, alone⟩ := Delimiter.exists_scan_eq lacks
  have leftmost := Delimiter.start_le_of_mem_scan_openPercent lacks
    (alone ▸ List.mem_singleton_self finding)
  rw [← whole] at alone
  refine ⟨finding, alone, Nat.le_antisymm leftmost ?_⟩
  obtain ⟨head, left, right, tail, parts, lacks', span, -⟩ :=
    Delimiter.makes_of_mem_scan (alone ▸ List.mem_singleton_self finding)
  cases lacks' with
  | openPercent head c run tail other plain =>
    obtain ⟨before', segment, after, split, isMendable, rfl⟩ :=
      exists_mendable nearly (by simpa using parts) other plain
    rw [span]
    rcases List.append_eq_append_iff.mp (isFirst.symm.trans split) with
      ⟨between, rfl, -⟩ | ⟨between, rfl, onward⟩
    · simp
    · cases between with
      | nil => simp
      | cons first between =>
        obtain ⟨rfl, -⟩ := List.cons.inj onward
        exact absurd isMendable (unmended segment (by simp))

end Segment

end CourseLint
