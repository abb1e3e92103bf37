import CourseLint.Text.Basic

set_option autoImplicit false

namespace CourseLint

structure Capture where
  index : Nat
  start : Nat
  stop : Nat
deriving DecidableEq, Repr

namespace Pattern

structure Place where
  offset : Nat
  rest : Text
  captures : List Capture
deriving DecidableEq, Repr

def Place.step (place : Place) (c : Char) (rest : Text) : Place :=
  { place with offset := place.offset + c.utf8Size, rest := rest }

def Place.passing (captures : List Capture) : Nat → Nat → Text → Place
  | 0, offset, rest => ⟨offset, rest, captures⟩
  | _ + 1, offset, [] => ⟨offset, [], captures⟩
  | count + 1, offset, c :: rest => passing captures count (offset + c.utf8Size) rest

def runLength (accepts : Char → Bool) (count : Nat) : Text → Nat
  | [] => count
  | c :: rest => if accepts c then runLength accepts (count + 1) rest else count

def Place.nearRunEnd (accepts : Char → Bool) (spare : Nat) (place : Place) : Place :=
  passing place.captures (runLength accepts 0 place.rest - spare) place.offset place.rest

end Pattern

inductive Pattern where
  | nothing
  | lineStart
  | lineEnd
  | char (accepts : Char → Bool)
  | longest (accepts : Char → Bool)
  | most (spare : Nat) (accepts : Char → Bool)
  | shortest (accepts : Char → Bool)
  | seq (first second : Pattern)
  | either (first second : Pattern)
  | group (index : Nat) (body : Pattern)

namespace Pattern

instance : Append Pattern := ⟨Pattern.seq⟩

variable {α : Type}

def runLongest (accepts : Char → Bool) (next : Place → Option α) : Text → Place → Option α
  | [], place => next place
  | c :: rest, place =>
    if accepts c then
      runLongest accepts next rest (place.step c rest) <|> next place
    else next place

def runShortest (accepts : Char → Bool) (next : Place → Option α) : Text → Place → Option α
  | [], place => next place
  | c :: rest, place =>
    next place <|> if accepts c then runShortest accepts next rest (place.step c rest) else none

def run : Pattern → (Place → Option α) → Place → Option α
  | .nothing, next, place => next place
  | .lineStart, next, place => if place.offset = 0 then next place else none
  | .lineEnd, next, place => if place.rest.isEmpty then next place else none
  | .char accepts, next, place =>
    match place.rest with
    | [] => none
    | c :: rest => if accepts c then next (place.step c rest) else none
  | .longest accepts, next, place => runLongest accepts next place.rest place
  | .most spare accepts, next, place =>
    let near := place.nearRunEnd accepts spare
    runLongest accepts next near.rest near
  | .shortest accepts, next, place => runShortest accepts next place.rest place
  | .seq first second, next, place => first.run (second.run next) place
  | .either first second, next, place => first.run next place <|> second.run next place
  | .group index body, next, place =>
    body.run (fun after =>
      next { after with captures := ⟨index, place.offset, after.offset⟩ :: after.captures }) place

def endsLongest (accepts : Char → Bool) : Text → Place → List Place
  | [], place => [place]
  | c :: rest, place =>
    if accepts c then endsLongest accepts rest (place.step c rest) ++ [place] else [place]

def endsShortest (accepts : Char → Bool) : Text → Place → List Place
  | [], place => [place]
  | c :: rest, place =>
    place :: if accepts c then endsShortest accepts rest (place.step c rest) else []

def ends : Pattern → Place → List Place
  | .nothing, place => [place]
  | .lineStart, place => if place.offset = 0 then [place] else []
  | .lineEnd, place => if place.rest.isEmpty then [place] else []
  | .char accepts, place =>
    match place.rest with
    | [] => []
    | c :: rest => if accepts c then [place.step c rest] else []
  | .longest accepts, place => endsLongest accepts place.rest place
  | .most spare accepts, place =>
    let near := place.nearRunEnd accepts spare
    endsLongest accepts near.rest near
  | .shortest accepts, place => endsShortest accepts place.rest place
  | .seq first second, place => (first.ends place).flatMap second.ends
  | .either first second, place => first.ends place ++ second.ends place
  | .group index body, place =>
    (body.ends place).map fun after =>
      { after with captures := ⟨index, place.offset, after.offset⟩ :: after.captures }

theorem runLongest_eq_findSome?_endsLongest (accepts : Char → Bool) (next : Place → Option α)
    (text : Text) (place : Place) :
    runLongest accepts next text place = (endsLongest accepts text place).findSome? next := by
  induction text generalizing place with
  | nil => simp [runLongest, endsLongest]
  | cons c rest ih =>
    simp only [runLongest, endsLongest]
    split <;> simp [ih, List.findSome?_append]

theorem runShortest_eq_findSome?_endsShortest (accepts : Char → Bool) (next : Place → Option α)
    (text : Text) (place : Place) :
    runShortest accepts next text place = (endsShortest accepts text place).findSome? next := by
  induction text generalizing place with
  | nil => simp [runShortest, endsShortest]
  | cons c rest ih =>
    simp only [runShortest, endsShortest, List.findSome?_cons]
    cases next place <;> split <;> simp [ih]

private theorem findSome?_flatMap {β γ : Type} (places : List β) (f : β → List γ)
    (next : γ → Option α) :
    (places.flatMap f).findSome? next = places.findSome? fun place => (f place).findSome? next := by
  induction places with
  | nil => rfl
  | cons place places ih =>
    simp only [List.flatMap_cons, List.findSome?_append, List.findSome?_cons, ih]
    cases (f place).findSome? next <;> rfl

theorem run_eq_findSome?_ends (pattern : Pattern) (next : Place → Option α) (place : Place) :
    pattern.run next place = (pattern.ends place).findSome? next := by
  induction pattern generalizing next place with
  | nothing => simp [run, ends]
  | lineStart => simp only [run, ends]; split <;> simp
  | lineEnd => simp only [run, ends]; split <;> simp
  | char accepts =>
    simp only [run, ends]
    split
    · simp
    · split <;> simp
  | longest accepts => exact runLongest_eq_findSome?_endsLongest accepts next _ place
  | most spare accepts => exact runLongest_eq_findSome?_endsLongest accepts next _ _
  | shortest accepts => exact runShortest_eq_findSome?_endsShortest accepts next _ place
  | seq first second ihFirst ihSecond =>
    rw [run, ihFirst, ends, findSome?_flatMap]
    exact congrArg (fun f => (first.ends place).findSome? f) (funext (ihSecond next))
  | either first second ihFirst ihSecond =>
    simp [run, ends, ihFirst, ihSecond, List.findSome?_append]
  | group index body ih =>
    simp [run, ends, ih, List.findSome?_map, Function.comp_def]

def literal : Text → Pattern
  | [] => .nothing
  | [c] => .char (· == c)
  | c :: rest => .char (· == c) ++ literal rest

def optional (pattern : Pattern) : Pattern := .either pattern .nothing

def atMost (pattern : Pattern) : Nat → Pattern
  | 0 => .nothing
  | limit + 1 => optional (pattern ++ atMost pattern limit)

def whole (accepts : Char → Bool) : Pattern := .most 0 accepts

def wholeOne (accepts : Char → Bool) : Pattern := .char accepts ++ whole accepts

def groupCount : Pattern → Nat
  | .seq first second => max first.groupCount second.groupCount
  | .either first second => max first.groupCount second.groupCount
  | .group index body => max index body.groupCount
  | _ => 0

end Pattern

end CourseLint
