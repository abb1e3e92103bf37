import Mathlib.Data.List.Basic
import CourseLint.Files.Path

set_option autoImplicit false

namespace CourseLint

namespace Text

variable {separator : Char}

theorem splitOn_ne_nil (text : Text) : splitOn separator text ≠ [] := by
  cases text with
  | nil => simp [splitOn]
  | cons c rest =>
    rw [splitOn]
    split
    · simp
    · split <;> simp

theorem splitOn_of_absent {text : Text} (absent : separator ∉ text) :
    splitOn separator text = [text] := by
  induction text with
  | nil => rfl
  | cons c rest ih =>
    simp only [List.mem_cons, not_or] at absent
    rw [splitOn, if_neg (Ne.symm absent.1), ih absent.2]

theorem splitOn_append_separator (front back : Text) :
    splitOn separator (front ++ separator :: back) =
      splitOn separator front ++ splitOn separator back := by
  induction front with
  | nil => simp [splitOn]
  | cons c front ih =>
    by_cases same : c = separator
    · simp only [List.cons_append, splitOn, if_pos same, ih]
    · obtain ⟨part, parts, split⟩ :=
        List.exists_cons_of_ne_nil (@splitOn_ne_nil separator front)
      simp only [List.cons_append, splitOn, if_neg same, ih, split]

end Text

namespace Path

def IsName (name : Text) : Prop := '/' ∉ name ∧ name ≠ [] ∧ name ≠ ['.'] ∧ name ≠ ['.', '.']

instance (name : Text) : Decidable (IsName name) :=
  inferInstanceAs (Decidable (_ ∧ _ ∧ _ ∧ _))

variable {name : Text}

theorem component?_of_isName (isName : IsName name) (isFirst : Bool) :
    component? isFirst name = some (.name name) := by
  obtain ⟨-, nonempty, notCurrent, notParent⟩ := isName
  rw [component?, if_neg nonempty, if_neg notCurrent, if_neg notParent]

theorem component?_nil (isFirst : Bool) : component? isFirst [] = none := rfl

theorem componentsAfter_append {parts : List Text} (nonempty : parts ≠ []) (isFirst : Bool)
    (more : List Text) :
    componentsAfter isFirst (parts ++ more) =
      componentsAfter isFirst parts ++ componentsAfter false more := by
  induction parts generalizing isFirst with
  | nil => exact absurd rfl nonempty
  | cons part parts ih =>
    cases parts with
    | nil => simp [componentsAfter]
    | cons next parts =>
      change (component? isFirst part).toList ++ componentsAfter false (next :: parts ++ more) =
        (component? isFirst part).toList ++ componentsAfter false (next :: parts) ++ _
      rw [ih (by simp), List.append_assoc]

theorem components_eq (path : Path) :
    components path = (if isAbsolute path then [.root] else []) ++
      componentsAfter (!isAbsolute path) (Text.splitOn '/' path) := by
  cases absolute : isAbsolute path <;> simp [components, absolute]

theorem isAbsolute_append {base : Path} (nonempty : base ≠ []) (more : Text) :
    isAbsolute (base ++ more) = isAbsolute base := by
  rw [isAbsolute, isAbsolute, List.head?_append_of_ne_nil _ nonempty]

theorem isAbsolute_of_isName (isName : IsName name) : isAbsolute name = false := by
  cases name with
  | nil => rfl
  | cons c rest => simpa [isAbsolute] using fun slash => isName.1 (by simp [slash])

theorem components_join (isName : IsName name) (base : Path) :
    components (join base name) = components base ++ [.name name] := by
  have relative := isAbsolute_of_isName isName
  have component := component?_of_isName isName
  by_cases empty : base = []
  · subst empty
    have joined : join [] name = name := by simp [join]
    have nothing : components [] = [] := rfl
    rw [joined, components_eq, nothing, relative, Text.splitOn_of_absent isName.1]
    simp [componentsAfter, component]
  · by_cases slash : base.getLast? = some '/'
    · obtain ⟨front, rfl⟩ := List.getLast?_eq_some_iff.mp slash
      have joined : join (front ++ ['/']) name = front ++ ['/'] ++ name := by
        simp [join, relative]
      rw [joined, components_eq, components_eq, isAbsolute_append empty, List.append_assoc front]
      simp [Text.splitOn_append_separator, Text.splitOn_of_absent isName.1, Text.splitOn,
        componentsAfter_append (Text.splitOn_ne_nil front), componentsAfter, component, component?_nil]
    · have joined : join base name = base ++ '/' :: name := by
        simp [join, relative, empty, slash]
      rw [joined, components_eq, components_eq, isAbsolute_append empty]
      simp [Text.splitOn_append_separator, Text.splitOn_of_absent isName.1,
        componentsAfter_append (Text.splitOn_ne_nil base), componentsAfter, component]

theorem components_foldl_join {names : List Text} (areNames : ∀ name ∈ names, IsName name)
    (base : Path) :
    components (names.foldl join base) = components base ++ names.map .name := by
  induction names generalizing base with
  | nil => simp
  | cons name names ih =>
    rw [List.foldl_cons, ih (fun other member => areNames other (by simp [member])),
      components_join (areNames name (by simp))]
    simp

theorem eq_of_foldl_join_eq {names names' : List Text} (areNames : ∀ name ∈ names, IsName name)
    (areNames' : ∀ name ∈ names', IsName name) {base : Path}
    (same : names.foldl join base = names'.foldl join base) : names = names' := by
  have components := congrArg components same
  rw [components_foldl_join areNames, components_foldl_join areNames'] at components
  exact List.map_injective_iff.mpr (fun _ _ => Component.name.inj) (List.append_cancel_left components)

end Path

end CourseLint
