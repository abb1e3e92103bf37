import CourseLint.Proofs.Disabling

set_option autoImplicit false

namespace CourseLint.Registry

open Text

def knows (registry : Registry) (name : Text) : Bool := registry.rules.any (·.answersTo name)

theorem size_without_eq_iff (registry : Registry) (name : Text) :
    (registry.without name).size = registry.size ↔ registry.knows name = false := by
  simp [size, without, knows, List.length_filter_eq_length_iff]

theorem unknown_cons (registry : Registry) (name : Text) (names : List Text) :
    (registry.disable (name :: names)).2 =
      (if registry.knows name then [] else [name]) ++ ((registry.without name).disable names).2 := by
  change (if (registry.without name).size = registry.size then _ else _) = _
  simp only [size_without_eq_iff]
  cases registry.knows name <;> rfl

theorem disable_append (registry : Registry) (before after : List Text) :
    registry.disable (before ++ after) =
      (((registry.disable before).1.disable after).1,
        (registry.disable before).2 ++ ((registry.disable before).1.disable after).2) := by
  induction before generalizing registry with
  | nil => rfl
  | cons name before ih =>
    apply Prod.ext
    · change ((registry.without name).disable (before ++ after)).1 = _
      rw [ih]
      rfl
    · rw [List.cons_append, unknown_cons, ih, unknown_cons, List.append_assoc]
      rfl

theorem knows_disable_iff (registry : Registry) (before : List Text) (name : Text) :
    (registry.disable before).1.knows name = true ↔
      ∃ rule ∈ registry.rules, rule.answersTo name = true ∧ ¬ rule.NamedBy before := by
  rw [knows, List.any_eq_true, rules_disable]
  simp only [List.mem_filter, decide_eq_true_iff, and_assoc, and_comm]

theorem knows_of_knows_disable {registry : Registry} {before : List Text} {name : Text}
    (known : (registry.disable before).1.knows name = true) : registry.knows name = true := by
  obtain ⟨rule, member, answers, -⟩ := (knows_disable_iff registry before name).mp known
  exact List.any_eq_true.mpr ⟨rule, member, answers⟩

theorem unknown_after_cons (registry : Registry) (earlier : List Text) (name : Text)
    (names : List Text) :
    ((registry.disable earlier).1.disable (name :: names)).2 =
      (if (registry.disable earlier).1.knows name then [] else [name]) ++
        ((registry.disable (earlier ++ [name])).1.disable names).2 := by
  rw [unknown_cons, disable_append]
  rfl

theorem unknown_sublist (registry : Registry) (earlier names : List Text) :
    (names.filter (!registry.knows ·)).Sublist
      ((registry.disable earlier).1.disable names).2 := by
  induction names generalizing earlier with
  | nil => exact List.Sublist.refl _
  | cons name names ih =>
    rw [unknown_after_cons, List.filter_cons]
    cases known : registry.knows name with
    | true => exact (ih (earlier ++ [name])).trans (List.sublist_append_right _ _)
    | false =>
      have gone : (registry.disable earlier).1.knows name = false :=
        Bool.eq_false_iff.mpr fun left => by simp [knows_of_knows_disable left] at known
      simpa [gone] using ih (earlier ++ [name])

theorem unknown_eq_filter_iff (registry : Registry) (earlier names : List Text) :
    ((registry.disable earlier).1.disable names).2 = names.filter (!registry.knows ·) ↔
      ∀ before name after, names = before ++ name :: after → registry.knows name = true →
        (registry.disable (earlier ++ before)).1.knows name = true := by
  induction names generalizing earlier with
  | nil => simp [disable]
  | cons name names ih =>
    have places : (∀ before other after, name :: names = before ++ other :: after →
        registry.knows other = true →
          (registry.disable (earlier ++ before)).1.knows other = true) ↔
        (registry.knows name = true → (registry.disable earlier).1.knows name = true) ∧
          ∀ before other after, names = before ++ other :: after → registry.knows other = true →
            (registry.disable (earlier ++ [name] ++ before)).1.knows other = true := by
      constructor
      · intro everywhere
        constructor
        · simpa using everywhere [] name names rfl
        · intro before other after parts
          simpa using everywhere (name :: before) other after (by simp [parts])
      · intro split before other after parts
        cases before with
        | nil =>
          obtain ⟨rfl, rfl⟩ := List.cons.inj parts
          simpa using split.1
        | cons first before =>
          obtain ⟨rfl, rest⟩ := List.cons.inj parts
          simpa using split.2 before other after rest
    rw [places, ← ih, unknown_after_cons, List.filter_cons]
    cases known : registry.knows name with
    | false =>
      have gone : (registry.disable earlier).1.knows name = false :=
        Bool.eq_false_iff.mpr fun left => by simp [knows_of_knows_disable left] at known
      simp [gone]
    | true =>
      cases left : (registry.disable earlier).1.knows name with
      | true => simp
      | false =>
        -- The name is reported on top of all that have to be, so there is one too many.
        have shorter := (registry.unknown_sublist (earlier ++ [name]) names).length_le
        simp only [Bool.not_true, Bool.false_eq_true, if_false, imp_false, not_true, false_and,
          iff_false, List.singleton_append]
        intro same
        have lengths := congrArg List.length same
        simp only [List.length_cons] at lengths
        omega

theorem unknown_of_disable (registry : Registry) (names : List Text) :
    (∀ before name after, names = before ++ name :: after →
      (registry.disable names).2 = (registry.disable before).2 ++
        (if ∃ rule ∈ registry.rules, rule.answersTo name = true ∧ ¬ rule.NamedBy before
          then [] else [name]) ++ ((registry.disable (before ++ [name])).1.disable after).2) ∧
    (names.filter (!registry.knows ·)).Sublist (registry.disable names).2 ∧
    ((registry.disable names).2 = names.filter (!registry.knows ·) ↔
      ∀ before name after, names = before ++ name :: after → registry.knows name = true →
        ∃ rule ∈ registry.rules, rule.answersTo name = true ∧ ¬ rule.NamedBy before) := by
  constructor
  · intro before name after parts
    rw [parts, disable_append, unknown_after_cons, ← List.append_assoc]
    simp only [knows_disable_iff]
  · simp only [← knows_disable_iff]
    exact ⟨registry.unknown_sublist [] names, registry.unknown_eq_filter_iff [] names⟩

theorem unknown_of_repeated_name :
    builtins.knows "no-toc" = true ∧ builtins.knows "gtn:001" = true ∧
      (builtins.disable ["no-toc".toList, "no-toc".toList]).2 = ["no-toc".toList] ∧
      (builtins.disable ["no-toc".toList, "gtn:001".toList]).2 = ["gtn:001".toList] := by
  decide +kernel

end CourseLint.Registry
