import CourseLint.Text.Basic

set_option autoImplicit false

namespace CourseLint

inductive Ending where
  | absent
  | lineFeed
  | carriageReturnLineFeed
deriving DecidableEq, Repr

def Ending.text : Ending → Text
  | .absent => []
  | .lineFeed => ['\n']
  | .carriageReturnLineFeed => ['\r', '\n']

structure Line where
  text : Text
  ending : Ending
deriving DecidableEq, Repr

namespace Line

def source (line : Line) : Text := line.text ++ line.ending.text

def extend (c : Char) : List Line → List Line
  | [] => [⟨[c], .absent⟩]
  | line :: lines => ⟨c :: line.text, line.ending⟩ :: lines

theorem flatMap_source_extend (c : Char) (lines : List Line) :
    (extend c lines).flatMap source = c :: lines.flatMap source := by
  cases lines <;> simp [extend, source, Ending.text]

end Line

namespace Text

def linesOf : Text → List Line
  | [] => []
  | '\n' :: rest => ⟨[], .lineFeed⟩ :: linesOf rest
  | '\r' :: '\n' :: rest => ⟨[], .carriageReturnLineFeed⟩ :: linesOf rest
  | c :: rest => Line.extend c (linesOf rest)

theorem flatMap_source_linesOf (text : Text) : (linesOf text).flatMap Line.source = text := by
  fun_induction linesOf text with
  | case1 => rfl
  | case2 rest ih => simp [Line.source, Ending.text, ih]
  | case3 rest ih => simp [Line.source, Ending.text, ih]
  | case4 c rest _ _ ih => rw [Line.flatMap_source_extend, ih]

def splitLines (text : Text) : List Text := (linesOf text).map Line.text

def startsAfterFeeds (offset : Nat) : Text → List Nat
  | [] => []
  | c :: rest =>
    let next := offset + c.utf8Size
    if c = '\n' then next :: startsAfterFeeds next rest else startsAfterFeeds next rest

def lineStarts (text : Text) : List Nat := 0 :: startsAfterFeeds 0 text

end Text

end CourseLint
