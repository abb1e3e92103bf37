import CourseLint.Proofs.JoinedPaths

set_option autoImplicit false

namespace CourseLint

namespace Text

variable {separator : Char}

theorem splitOn_eq (text : Text) : splitOn separator text = List.splitOn separator text := by
  induction text with
  | nil => rfl
  | cons c rest ih =>
    obtain ⟨part, parts, split⟩ := List.exists_cons_of_ne_nil (@splitOn_ne_nil separator rest)
    have onward : List.splitOn separator (c :: rest) =
        if (c == separator) = true then [] :: List.splitOn separator rest
        else List.modifyHead (List.cons c) (List.splitOn separator rest) :=
      List.splitOnP_cons_eq_if_modifyHead c rest
    rw [onward, ← ih, splitOn, split]
    simp

theorem joinWith_splitOn (text : Text) : joinWith [separator] (splitOn separator text) = text := by
  rw [joinWith, splitOn_eq]
  exact List.intercalate_splitOn separator

theorem splitOn_joinWith {parts : List Text} (absent : ∀ part ∈ parts, separator ∉ part)
    (nonempty : parts ≠ []) : splitOn separator (joinWith [separator] parts) = parts := by
  rw [joinWith, splitOn_eq]
  exact List.splitOn_intercalate separator absent nonempty

theorem joinWith_cons {part : Text} {parts : List Text} (nonempty : parts ≠ []) :
    joinWith [separator] (part :: parts) = part ++ separator :: joinWith [separator] parts := by
  obtain ⟨next, more, rfl⟩ := List.exists_cons_of_ne_nil nonempty
  simp [joinWith, List.intercalate_cons_cons]

theorem isPrefix_joinWith (kept passed : List Text) :
    joinWith [separator] kept <+: joinWith [separator] (kept ++ passed) := by
  induction kept with
  | nil => simp [joinWith]
  | cons part kept ih =>
    by_cases last : kept = []
    · subst last
      by_cases none : passed = []
      · simp [none]
      · rw [List.singleton_append, joinWith_cons none]
        simp [joinWith]
    · have more : kept ++ passed ≠ [] := by simp [last]
      rw [List.cons_append, joinWith_cons last, joinWith_cons more]
      exact (List.prefix_append_right_inj part).mpr (List.cons_prefix_cons.mpr ⟨rfl, ih⟩)

theorem absent_of_mem_splitOn {text part : Text} (member : part ∈ splitOn separator text) :
    separator ∉ part := by
  induction text generalizing part with
  | nil => simp_all [splitOn]
  | cons c rest ih =>
    rw [splitOn] at member
    split at member
    · cases List.mem_cons.mp member with
      | inl isFirst => simp [isFirst]
      | inr later => exact ih later
    · next different =>
      obtain ⟨first, more, parts⟩ :=
        List.exists_cons_of_ne_nil (@splitOn_ne_nil separator rest)
      rw [parts] at member ih
      cases List.mem_cons.mp member with
      | inl isFirst =>
        have absent := ih (List.mem_cons_self (a := first))
        simp [isFirst, Ne.symm different, absent]
      | inr later => exact ih (List.mem_cons_of_mem first later)

end Text

namespace Path

theorem components_eq_first (path : Path) :
    components path = (if isAbsolute path then [.root] else []) ++
      componentsAfter true (Text.splitOn '/' path) := by
  rw [components_eq]
  cases path with
  | nil => rfl
  | cons c rest =>
    by_cases slash : c = '/'
    · subst slash
      obtain ⟨part, parts, split⟩ := List.exists_cons_of_ne_nil (@Text.splitOn_ne_nil '/' rest)
      simp [isAbsolute, Text.splitOn, componentsAfter, component?_nil]
    · have relative : isAbsolute (c :: rest) = false := by simpa [isAbsolute] using slash
      rw [relative, Bool.not_false]

theorem componentsAfter_snoc (before : List Text) (part : Text) :
    componentsAfter true (before.reverse ++ [part]) =
      componentsAfter true before.reverse ++ (component? before.isEmpty part).toList := by
  cases before with
  | nil => simp [componentsAfter]
  | cons last before =>
    rw [componentsAfter_append (by simp)]
    simp [componentsAfter]

theorem componentsAfter_dropUncounted (reversed : List Text) :
    componentsAfter true (dropUncounted reversed).reverse =
      componentsAfter true reversed.reverse := by
  induction reversed with
  | nil => rfl
  | cons part before ih =>
    rw [dropUncounted]
    split
    · rfl
    · next uncounted =>
      rw [ih, List.reverse_cons, componentsAfter_snoc, Option.not_isSome_iff_eq_none.mp uncounted]
      simp

theorem exists_counted {reversed : List Text} (counted : dropUncounted reversed ≠ []) :
    ∃ part before component, dropUncounted reversed = part :: before ∧
      component? before.isEmpty part = some component := by
  induction reversed with
  | nil => exact absurd rfl counted
  | cons part before ih =>
    rw [dropUncounted] at counted ⊢
    split at counted
    · next isCounted =>
      obtain ⟨component, found⟩ := Option.isSome_iff_exists.mp isCounted
      exact ⟨part, before, component, if_pos isCounted, found⟩
    · next uncounted =>
      rw [if_neg uncounted]
      exact ih counted

theorem componentsAfter_tail (reversed : List Text) :
    componentsAfter true (dropUncounted reversed).tail.reverse =
      (componentsAfter true reversed.reverse).dropLast := by
  rw [← componentsAfter_dropUncounted reversed]
  by_cases none : dropUncounted reversed = []
  · simp [none, componentsAfter]
  · obtain ⟨part, before, component, kept, found⟩ := exists_counted none
    rw [kept, List.reverse_cons, componentsAfter_snoc, found]
    simp

theorem dropUncounted_suffix (reversed : List Text) : dropUncounted reversed <:+ reversed := by
  induction reversed with
  | nil => exact List.suffix_rfl
  | cons part before ih =>
    rw [dropUncounted]
    split
    · exact List.suffix_rfl
    · exact ih.trans (List.suffix_cons part before)

def keptParts (path : Path) : List Text :=
  (dropUncounted (dropUncounted (Text.splitOn '/' path).reverse).tail).reverse

theorem parent?_eq_none_iff (path : Path) :
    parent? path = none ↔ components path = [] ∨ (components path).getLast? = some .root := by
  rw [parent?, ← List.getLast?_eq_none_iff]
  split
  · next nothing => simp [nothing]
  · next root => simp [root]
  · next notRoot last =>
    rw [last, ← apply_ite some]
    simpa using notRoot

theorem eq_of_parent? {path parent : Path} (isParent : parent? path = some parent) :
    parent = if isAbsolute path && (keptParts path).isEmpty then ['/']
      else Text.joinWith ['/'] (keptParts path) := by
  rw [parent?] at isParent
  split at isParent
  · cases isParent
  · cases isParent
  · rw [← apply_ite some] at isParent
    exact (Option.some.inj isParent).symm

theorem componentsAfter_keptParts (path : Path) :
    componentsAfter true (keptParts path) =
      (componentsAfter true (Text.splitOn '/' path)).dropLast := by
  rw [keptParts, componentsAfter_dropUncounted, componentsAfter_tail, List.reverse_reverse]

theorem isPrefix_keptParts (path : Path) : keptParts path <+: Text.splitOn '/' path := by
  have fewer := (dropUncounted_suffix (dropUncounted (Text.splitOn '/' path).reverse).tail).trans
    ((List.tail_suffix _).trans (dropUncounted_suffix (Text.splitOn '/' path).reverse))
  rw [keptParts, ← List.reverse_suffix, List.reverse_reverse]
  exact fewer

theorem splitOn_joinWith_keptParts {path : Path} (more : keptParts path ≠ []) :
    Text.splitOn '/' (Text.joinWith ['/'] (keptParts path)) = keptParts path := by
  apply Text.splitOn_joinWith _ more
  intro part member
  exact Text.absent_of_mem_splitOn ((isPrefix_keptParts path).subset member)

theorem joinWith_keptParts_ne_nil {path : Path} (more : keptParts path ≠ []) :
    Text.joinWith ['/'] (keptParts path) ≠ [] := by
  intro nothing
  have only : keptParts path = [[]] := by
    rw [← splitOn_joinWith_keptParts more, nothing]
    rfl
  have counted : dropUncounted (dropUncounted (Text.splitOn '/' path).reverse).tail ≠ [] := by
    simpa [keptParts] using more
  obtain ⟨part, before, component, kept, found⟩ := exists_counted counted
  rw [keptParts, kept] at only
  obtain ⟨rfl, rfl⟩ : part = [] ∧ before = [] := by simpa using congrArg List.reverse only
  rw [component?_nil] at found
  cases found

theorem isAbsolute_joinWith_keptParts {path : Path} (more : keptParts path ≠ []) :
    isAbsolute (Text.joinWith ['/'] (keptParts path)) = isAbsolute path := by
  obtain ⟨passed, parts⟩ := isPrefix_keptParts path
  obtain ⟨rest, whole⟩ := @Text.isPrefix_joinWith '/' (keptParts path) passed
  rw [parts, Text.joinWith_splitOn] at whole
  rw [← isAbsolute_append (joinWith_keptParts_ne_nil more) rest, whole]

theorem components_of_parent? {path parent : Path} (isParent : parent? path = some parent) :
    components parent = (components path).dropLast := by
  have notTop : ¬ (components path = [] ∨ (components path).getLast? = some .root) := by
    rw [← parent?_eq_none_iff, isParent]
    simp
  rw [components_eq_first path] at notTop ⊢
  have behind : componentsAfter true (Text.splitOn '/' path) ≠ [] := by
    intro nothing
    rw [nothing] at notTop
    cases absolute : isAbsolute path <;> simp [absolute] at notTop
  rw [List.dropLast_append_of_ne_nil behind, ← componentsAfter_keptParts, eq_of_parent? isParent]
  by_cases none : keptParts path = []
  · cases absolute : isAbsolute path <;> simp [none, Text.joinWith, componentsAfter] <;> rfl
  · have kept : (keptParts path).isEmpty = false := by simpa using none
    rw [kept, Bool.and_false, if_neg Bool.false_ne_true, components_eq_first,
      isAbsolute_joinWith_keptParts none, splitOn_joinWith_keptParts none]

theorem isAbsolute_of_parent? {path parent : Path} (isParent : parent? path = some parent) :
    isAbsolute parent = isAbsolute path := by
  rw [eq_of_parent? isParent]
  by_cases none : keptParts path = []
  · cases absolute : isAbsolute path <;> simp [none, Text.joinWith, isAbsolute]
  · have kept : (keptParts path).isEmpty = false := by simpa using none
    rw [kept, Bool.and_false, if_neg Bool.false_ne_true, isAbsolute_joinWith_keptParts none]

theorem isPrefix_of_parent? {path parent : Path} (isParent : parent? path = some parent) :
    parent <+: path := by
  obtain ⟨passed, parts⟩ := isPrefix_keptParts path
  have front := @Text.isPrefix_joinWith '/' (keptParts path) passed
  rw [parts, Text.joinWith_splitOn] at front
  rw [eq_of_parent? isParent]
  split
  · next atRoot =>
    obtain ⟨absolute, -⟩ := Bool.and_eq_true_iff.mp atRoot
    obtain ⟨rest, rfl⟩ := List.head?_eq_some_iff.mp (eq_of_beq absolute)
    exact List.prefix_append ['/'] rest
  · exact front

theorem length_componentsAfter_le (isFirst : Bool) (parts : List Text) :
    (componentsAfter isFirst parts).length ≤ parts.flatten.length := by
  induction parts generalizing isFirst with
  | nil => simp [componentsAfter]
  | cons part parts ih =>
    have onward := ih false
    have here : (component? isFirst part).toList.length ≤ part.length := by
      cases part with
      | nil => simp [component?_nil]
      | cons c rest => cases component? isFirst (c :: rest) <;> simp
    simp only [componentsAfter, List.length_append, List.flatten_cons]
    omega

theorem length_flatten_splitOn (path : Path) :
    (Text.splitOn '/' path).flatten.length + path.count '/' = path.length := by
  induction path with
  | nil => rfl
  | cons c rest ih =>
    obtain ⟨part, parts, split⟩ := List.exists_cons_of_ne_nil (@Text.splitOn_ne_nil '/' rest)
    rw [split, List.flatten_cons, List.length_append] at ih
    by_cases slash : c = '/'
    · simp [Text.splitOn, slash, split, -List.length_flatten]
      omega
    · simp [Text.splitOn, slash, split, -List.length_flatten]
      omega

theorem length_components_le (path : Path) : (components path).length ≤ path.length := by
  have parts := length_componentsAfter_le true (Text.splitOn '/' path)
  have whole := length_flatten_splitOn path
  rw [components_eq_first, List.length_append]
  cases absolute : isAbsolute path with
  | false =>
    simp
    omega
  | true =>
    have slash : 0 < path.count '/' :=
      List.count_pos_iff.mpr (List.mem_of_head? (eq_of_beq absolute))
    simp
    omega

theorem root_notMem_componentsAfter (isFirst : Bool) (parts : List Text) :
    .root ∉ componentsAfter isFirst parts := by
  induction parts generalizing isFirst with
  | nil => simp [componentsAfter]
  | cons part parts ih =>
    have here : component? isFirst part ≠ some .root := by
      rw [component?]
      split_ifs <;> simp
    simpa [componentsAfter, ih] using here

theorem component?_first_ne_none {part : Text} (nonempty : part ≠ []) :
    component? true part ≠ none := by
  simp only [component?, if_neg nonempty, if_true]
  split_ifs <;> simp

theorem top_of_parent? {path : Path} (isTop : parent? path = none) :
    if isAbsolute path then components path = [.root] else path = [] := by
  have ends := (parent?_eq_none_iff path).mp isTop
  rw [components_eq_first] at ends ⊢
  have noRoot := root_notMem_componentsAfter true (Text.splitOn '/' path)
  have behind : componentsAfter true (Text.splitOn '/' path) = [] := by
    cases ends with
    | inl nothing => exact (List.append_eq_nil_iff.mp nothing).2
    | inr root =>
      by_contra some
      rw [List.getLast?_append_of_ne_nil _ some] at root
      exact noRoot (List.mem_of_getLast? root)
  rw [behind]
  cases absolute : isAbsolute path with
  | true => rfl
  | false =>
    cases path with
    | nil => rfl
    | cons c rest =>
      have notSlash : c ≠ '/' := by simpa [isAbsolute] using absolute
      obtain ⟨part, parts, split⟩ := List.exists_cons_of_ne_nil (@Text.splitOn_ne_nil '/' rest)
      simp [Text.splitOn, notSlash, split, componentsAfter, component?_first_ne_none] at behind

inductive Ascent : Path → List Path → Prop where
  | top (path : Path) (isTop : parent? path = none) : Ascent path [path]
  | up (path parent : Path) (above : List Path) (isParent : parent? path = some parent)
      (onward : Ascent parent above) : Ascent path (path :: above)

theorem Ascent.unique {path : Path} {paths paths' : List Path} (ascent : Ascent path paths)
    (ascent' : Ascent path paths') : paths' = paths := by
  induction ascent generalizing paths' with
  | top path isTop =>
    cases ascent' with
    | top => rfl
    | up _ parent _ isParent => simp [isTop] at isParent
  | up path parent above isParent onward ih =>
    cases ascent' with
    | top _ isTop => simp [isTop] at isParent
    | up _ parent' above' isParent' onward' =>
      obtain rfl := Option.some.inj (isParent.symm.trans isParent')
      rw [ih onward']

theorem Ascent.exists_top {path : Path} {paths : List Path} (ascent : Ascent path paths) :
    ∃ top, paths.getLast? = some top ∧
      if isAbsolute path then components top = [.root] else top = [] := by
  induction ascent with
  | top path isTop =>
    exact ⟨path, rfl, top_of_parent? isTop⟩
  | up path parent above isParent onward ih =>
    obtain ⟨top, isLast, ends⟩ := ih
    refine ⟨top, ?_, isAbsolute_of_parent? isParent ▸ ends⟩
    rw [List.getLast?_cons, isLast]
    rfl

theorem Ascent.reached {path : Path} {paths : List Path} (ascent : Ascent path paths)
    {steps : Nat} {reached : Path} (isReached : paths[steps]? = some reached) :
    reached <+: path ∧
      components reached = (components path).take ((components path).length - steps) := by
  induction ascent generalizing steps with
  | top path isTop =>
    cases steps with
    | zero => simp_all
    | succ steps => simp at isReached
  | up path parent above isParent onward ih =>
    cases steps with
    | zero => simp_all
    | succ steps =>
      obtain ⟨front, fewer⟩ := ih isReached
      refine ⟨front.trans (isPrefix_of_parent? isParent), ?_⟩
      rw [fewer, components_of_parent? isParent, List.dropLast_eq_take, List.take_take,
        List.length_take]
      congr 1
      omega

end Path

end CourseLint
