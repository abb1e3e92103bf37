import CourseLint.Proofs.Disabling
import Mathlib.Data.List.Induction
import Mathlib.Data.List.Nodup

set_option autoImplicit false

namespace CourseLint.Registry

open Text

inductive Call where
  | register (rule : Rule)
  | registerBuiltins
  | disable (names : List Text)

def call [Pattern.Engine] (registry : Registry) : Call → Registry
  | .register rule => registry.register rule
  | .registerBuiltins => builtinRules.foldl register registry
  | .disable names => (registry.disable names).1

def afterCalls [Pattern.Engine] (calls : List Call) : Registry := calls.foldl call empty

inductive Event where
  | registered (rule : Rule)
  | disabled (names : List Text)

def Call.events [Pattern.Engine] : Call → List Event
  | .register rule => [.registered rule]
  | .registerBuiltins => builtinRules.map .registered
  | .disable names => [.disabled names]

def happen (registry : Registry) : Event → Registry
  | .registered rule => registry.register rule
  | .disabled names => (registry.disable names).1

theorem call_eq [Pattern.Engine] (registry : Registry) (request : Call) :
    registry.call request = request.events.foldl happen registry := by
  cases request with
  | register rule => rfl
  | registerBuiltins => exact (List.foldl_map ..).symm
  | disable names => rfl

theorem afterCalls_eq [Pattern.Engine] (calls : List Call) :
    afterCalls calls = (calls.flatMap Call.events).foldl happen empty := by
  have from_any (registry : Registry) :
      calls.foldl call registry = (calls.flatMap Call.events).foldl happen registry := by
    induction calls generalizing registry with
    | nil => rfl
    | cons request calls ih =>
      rw [List.foldl_cons, call_eq, ih, List.flatMap_cons, List.foldl_append]
  exact from_any empty

def Event.Spares (rule : Rule) : Event → Prop
  | .registered other => other.id ≠ rule.id
  | .disabled names => rule.id ∉ names ∧
      ∀ name ∈ names, sameIgnoringAsciiCase rule.code.value name = false

def InForce (history : List Event) (rule : Rule) : Prop :=
  ∃ before since, history = before ++ .registered rule :: since ∧ ∀ event ∈ since, event.Spares rule

def Taken (history : List Event) (id : Text) : Prop := ∃ rule, rule.id = id ∧ InForce history rule

structure CameInAt (history : List Event) (id : Text) (index : Nat) : Prop where
  within : index < history.length
  free_before : ¬ Taken (history.take index) id
  taken_since : ∀ length, index < length → length ≤ history.length →
    Taken (history.take length) id

def CameInBefore (history : List Event) (first second : Text) : Prop :=
  ∃ i j, CameInAt history first i ∧ CameInAt history second j ∧ i < j

structure Recorded (history : List Event) (rules : List Rule) : Prop where
  ids_nodup : (rules.map Rule.id).Nodup
  mem_iff : ∀ rule, rule ∈ rules ↔ InForce history rule
  ids_ordered : (rules.map Rule.id).Pairwise (CameInBefore history)

section History

variable {history : List Event} {event : Event} {rule : Rule} {id first second : Text}

theorem not_inForce_nil : ¬ InForce [] rule := by
  intro inForce
  obtain ⟨before, since, parts, -⟩ := inForce
  simp at parts

theorem inForce_snoc_iff :
    InForce (history ++ [event]) rule ↔
      event = .registered rule ∨ InForce history rule ∧ event.Spares rule := by
  constructor
  · intro inForce
    obtain ⟨before, since, parts, spared⟩ := inForce
    cases since using List.reverseRecOn with
    | nil =>
      have ends := List.append_inj' parts rfl
      exact .inl (List.singleton_inj.mp ends.2)
    | append_singleton since last =>
      rw [← List.cons_append, ← List.append_assoc] at parts
      have ends := List.append_inj' parts rfl
      obtain rfl := List.singleton_inj.mp ends.2
      apply Or.inr
      constructor
      · exact ⟨before, since, ends.1, fun other member => spared other (by simp [member])⟩
      · exact spared event (by simp)
  · intro either
    cases either with
    | inl isRegistered => exact ⟨history, [], by rw [isRegistered], by simp⟩
    | inr kept =>
      obtain ⟨⟨before, since, parts, spared⟩, spares⟩ := kept
      refine ⟨before, since ++ [event], by simp [parts], ?_⟩
      intro other member
      simp only [List.mem_append, List.mem_singleton] at member
      cases member with
      | inl earlier => exact spared other earlier
      | inr isLast => exact isLast ▸ spares

theorem taken_snoc_registered_iff :
    Taken (history ++ [.registered rule]) id ↔ id = rule.id ∨ Taken history id := by
  constructor
  · intro taken
    obtain ⟨other, rfl, inForce⟩ := taken
    cases inForce_snoc_iff.mp inForce with
    | inl same => exact .inl (congrArg Rule.id (Event.registered.inj same).symm)
    | inr kept => exact .inr ⟨other, rfl, kept.1⟩
  · intro either
    by_cases same : id = rule.id
    · exact ⟨rule, same.symm, inForce_snoc_iff.mpr (.inl rfl)⟩
    · obtain ⟨other, rfl, inForce⟩ := either.resolve_left same
      exact ⟨other, rfl, inForce_snoc_iff.mpr (.inr ⟨inForce, Ne.symm same⟩)⟩

namespace CameInAt

theorem unique {i j : Nat} (atFirst : CameInAt history id i) (atSecond : CameInAt history id j) :
    i = j := by
  apply Nat.le_antisymm
  · by_contra later
    have since := atSecond.taken_since i (by omega) (Nat.le_of_lt atFirst.within)
    exact atFirst.free_before since
  · by_contra later
    have since := atFirst.taken_since j (by omega) (Nat.le_of_lt atSecond.within)
    exact atSecond.free_before since

theorem snoc {index : Nat} (cameIn : CameInAt history id index)
    (taken : Taken (history ++ [event]) id) : CameInAt (history ++ [event]) id index := by
  have within := cameIn.within
  constructor
  case within => simp; omega
  case free_before =>
    rw [List.take_append_of_le_length (by omega)]
    exact cameIn.free_before
  case taken_since =>
    intro length later bound
    by_cases whole : length = history.length + 1
    · rw [List.take_of_length_le (by simp [whole])]
      exact taken
    · have shorter : length ≤ history.length := by
        simp only [List.length_append, List.length_singleton] at bound
        omega
      rw [List.take_append_of_le_length shorter]
      exact cameIn.taken_since length later shorter

theorem at_end (free : ¬ Taken history id) (taken : Taken (history ++ [event]) id) :
    CameInAt (history ++ [event]) id history.length := by
  constructor
  case within => simp
  case free_before => simpa using free
  case taken_since =>
    intro length later bound
    rw [List.take_of_length_le (by simp; omega)]
    exact taken

end CameInAt

theorem exists_cameInAt (taken : Taken history id) : ∃ index, CameInAt history id index := by
  induction history using List.reverseRecOn with
  | nil =>
    obtain ⟨rule, -, inForce⟩ := taken
    exact absurd inForce not_inForce_nil
  | append_singleton history event ih =>
    by_cases before : Taken history id
    · obtain ⟨index, cameIn⟩ := ih before
      exact ⟨index, cameIn.snoc taken⟩
    · exact ⟨history.length, .at_end before taken⟩

theorem CameInBefore.snoc (cameIn : CameInBefore history first second)
    (isFirst : Taken (history ++ [event]) first) (isSecond : Taken (history ++ [event]) second) :
    CameInBefore (history ++ [event]) first second := by
  obtain ⟨i, j, firstIn, secondIn, earlier⟩ := cameIn
  exact ⟨i, j, firstIn.snoc isFirst, secondIn.snoc isSecond, earlier⟩

theorem CameInBefore.asymm (cameIn : CameInBefore history first second) :
    ¬ CameInBefore history second first := by
  intro reversed
  obtain ⟨i, j, firstIn, secondIn, earlier⟩ := cameIn
  obtain ⟨j', i', secondIn', firstIn', earlier'⟩ := reversed
  have same := firstIn.unique firstIn'
  have same' := secondIn.unique secondIn'
  omega

end History

theorem ids_put (rule : Rule) (rules : List Rule) :
    (put rule rules).map Rule.id =
      if rule.id ∈ rules.map Rule.id then rules.map Rule.id
      else rules.map Rule.id ++ [rule.id] := by
  induction rules with
  | nil => rfl
  | cons other others ih =>
    by_cases same : other.id = rule.id
    · simp [put, same]
    · simp only [put, same, if_false, List.map_cons, ih, List.mem_cons, Ne.symm same, false_or]
      split <;> rfl

theorem mem_put_iff {rule other : Rule} {rules : List Rule} (nodup : (rules.map Rule.id).Nodup) :
    other ∈ put rule rules ↔ other = rule ∨ other ∈ rules ∧ rule.id ≠ other.id := by
  induction rules with
  | nil => simp [put]
  | cons first rules ih =>
    rw [List.map_cons, List.nodup_cons] at nodup
    by_cases same : first.id = rule.id
    · -- No later rule has the id, so none is lost but the first.
      have others (member : other ∈ rules) : rule.id ≠ other.id := by
        intro sameId
        apply nodup.1
        rw [same, sameId]
        exact List.mem_map_of_mem member
      simp only [put, same, if_true, List.mem_cons]
      constructor
      · intro member
        exact member.imp_right fun later => ⟨.inr later, others later⟩
      · intro member
        refine member.imp_right fun kept => kept.1.resolve_left ?_
        intro isFirst
        exact kept.2 (isFirst ▸ same.symm)
    · simp only [put, same, if_false, List.mem_cons, ih nodup.2]
      constructor
      · intro member
        rcases member with isFirst | isRule | later
        · exact .inr ⟨.inl isFirst, isFirst ▸ Ne.symm same⟩
        · exact .inl isRule
        · exact .inr ⟨.inr later.1, later.2⟩
      · intro member
        rcases member with isRule | ⟨isFirst | later, differs⟩
        · exact .inr (.inl isRule)
        · exact .inl isFirst
        · exact .inr (.inr ⟨later, differs⟩)

theorem not_namedBy_iff {names : List Text} {rule : Rule} :
    ¬ rule.NamedBy names ↔
      rule.id ∉ names ∧ ∀ name ∈ names, sameIgnoringAsciiCase rule.code.value name = false := by
  simp only [Rule.NamedBy, not_exists, not_and, not_or, Bool.not_eq_true]
  constructor
  · intro unnamed
    exact ⟨fun member => (unnamed _ member).1 rfl, fun name member => (unnamed name member).2⟩
  · intro unnamed name member
    exact ⟨fun same => unnamed.1 (same ▸ member), unnamed.2 name member⟩

theorem mem_rules_disable_iff {registry : Registry} {names : List Text} {rule : Rule} :
    rule ∈ (registry.disable names).1.rules ↔
      rule ∈ registry.rules ∧ rule.id ∉ names ∧
        ∀ name ∈ names, sameIgnoringAsciiCase rule.code.value name = false := by
  rw [rules_disable, List.mem_filter, decide_eq_true_iff, not_namedBy_iff]

namespace Recorded

variable {history : List Event} {rules : List Rule} {registry : Registry}

theorem taken_iff (recorded : Recorded history rules) (id : Text) :
    Taken history id ↔ id ∈ rules.map Rule.id := by
  simp only [Taken, List.mem_map, recorded.mem_iff, and_comm]

theorem nil : Recorded [] [] := by
  constructor
  case ids_nodup => exact List.nodup_nil
  case mem_iff =>
    intro rule
    simpa using not_inForce_nil
  case ids_ordered => exact .nil

theorem ordered_snoc {event : Event} {ids : List Text} (recorded : Recorded history rules)
    (kept : ids.Sublist (rules.map Rule.id)) (taken : ∀ id ∈ ids, Taken (history ++ [event]) id) :
    ids.Pairwise (CameInBefore (history ++ [event])) := by
  apply (recorded.ids_ordered.sublist kept).imp_of_mem
  intro first second isFirst isSecond before
  exact before.snoc (taken first isFirst) (taken second isSecond)

theorem register (recorded : Recorded history registry.rules) (rule : Rule) :
    Recorded (history ++ [.registered rule]) (registry.register rule).rules := by
  have staysTaken : ∀ id ∈ registry.rules.map Rule.id, Taken (history ++ [.registered rule]) id := by
    intro id member
    exact taken_snoc_registered_iff.mpr (.inr ((recorded.taken_iff id).mpr member))
  have ordered := recorded.ordered_snoc (List.Sublist.refl _) staysTaken
  have ids := ids_put rule registry.rules
  constructor
  case mem_iff =>
    intro other
    rw [inForce_snoc_iff, ← recorded.mem_iff, Event.registered.injEq, eq_comm]
    exact mem_put_iff recorded.ids_nodup
  case ids_nodup =>
    rw [Registry.register, ids]
    split
    · exact recorded.ids_nodup
    · next absent =>
      rw [← List.concat_eq_append]
      exact recorded.ids_nodup.concat absent
  case ids_ordered =>
    rw [Registry.register, ids]
    split
    · exact ordered
    · next absent =>
      apply List.pairwise_append.mpr
      refine ⟨ordered, List.pairwise_singleton _ _, ?_⟩
      intro id member other isLast
      obtain rfl := List.mem_singleton.mp isLast
      obtain ⟨index, cameIn⟩ := exists_cameInAt ((recorded.taken_iff id).mpr member)
      have free : ¬ Taken history rule.id := mt (recorded.taken_iff _).mp absent
      have taken : Taken (history ++ [.registered rule]) rule.id :=
        taken_snoc_registered_iff.mpr (.inl rfl)
      exact ⟨index, history.length, cameIn.snoc (staysTaken id member), .at_end free taken,
        cameIn.within⟩

theorem disable (recorded : Recorded history registry.rules) (names : List Text) :
    Recorded (history ++ [.disabled names]) (registry.disable names).1.rules := by
  have left : (registry.disable names).1.rules.Sublist registry.rules := by
    rw [rules_disable]
    exact List.filter_sublist
  have members (rule : Rule) :
      rule ∈ (registry.disable names).1.rules ↔ InForce (history ++ [.disabled names]) rule := by
    rw [mem_rules_disable_iff, inForce_snoc_iff, recorded.mem_iff]
    simp [Event.Spares]
  constructor
  case ids_nodup => exact recorded.ids_nodup.sublist (left.map Rule.id)
  case mem_iff => exact members
  case ids_ordered =>
    apply recorded.ordered_snoc (left.map Rule.id)
    intro id member
    obtain ⟨rule, isLeft, rfl⟩ := List.mem_map.mp member
    exact ⟨rule, rfl, (members rule).mp isLeft⟩

theorem run (recorded : Recorded history registry.rules) (events : List Event) :
    Recorded (history ++ events) (events.foldl happen registry).rules := by
  induction events generalizing history registry with
  | nil => simpa using recorded
  | cons event events ih =>
    have step : Recorded (history ++ [event]) (registry.happen event).rules := by
      cases event with
      | registered rule => exact recorded.register rule
      | disabled names => exact recorded.disable names
    simpa using ih step

theorem unique {others : List Rule} (recorded : Recorded history rules)
    (alsoRecorded : Recorded history others) : rules = others := by
  have nodup := List.Nodup.of_map Rule.id recorded.ids_nodup
  have othersNodup := List.Nodup.of_map Rule.id alsoRecorded.ids_nodup
  have same (rule : Rule) : rule ∈ rules ↔ rule ∈ others :=
    (recorded.mem_iff rule).trans (alsoRecorded.mem_iff rule).symm
  have ordered := List.pairwise_map.mp recorded.ids_ordered
  have othersOrdered := List.pairwise_map.mp alsoRecorded.ids_ordered
  apply List.Perm.eq_of_pairwise _ ordered othersOrdered
  · exact (List.perm_ext_iff_of_nodup nodup othersNodup).mpr same
  · intro first second _ _ before after
    exact absurd after before.asymm

theorem get?_eq_some_iff (recorded : Recorded history registry.rules) (id : Text) (rule : Rule) :
    registry.get? id = some rule ↔ rule.id = id ∧ InForce history rule := by
  rw [← recorded.mem_iff]
  constructor
  · intro found
    exact ⟨by simpa using List.find?_some found, List.mem_of_find?_eq_some found⟩
  · intro held
    obtain ⟨rfl, member⟩ := held
    cases found : registry.get? rule.id with
    | none => simpa using List.find?_eq_none.mp found rule member
    | some other =>
      have same : other.id = rule.id := by simpa using List.find?_some found
      have isMember := List.mem_of_find?_eq_some found
      rw [List.inj_on_of_nodup_map recorded.ids_nodup isMember member same]

end Recorded

theorem after_calls_eq_ordered_map [Pattern.Engine] (calls : List Call) :
    (∀ rules, Recorded (calls.flatMap Call.events) rules ↔ rules = (afterCalls calls).rules) ∧
    (afterCalls calls).ids.Nodup ∧
    (∀ id rule, (afterCalls calls).get? id = some rule ↔
      rule.id = id ∧ InForce (calls.flatMap Call.events) rule) ∧
    (∀ id, (afterCalls calls).get? id = none ↔ ¬ Taken (calls.flatMap Call.events) id) ∧
    (∀ id ∈ (afterCalls calls).ids, ∃ index, CameInAt (calls.flatMap Call.events) id index) ∧
    (afterCalls calls).ids.Pairwise (CameInBefore (calls.flatMap Call.events)) ∧
    ∀ names,
      ((afterCalls calls).disable names).1.rules = (afterCalls calls).rules.filter (fun rule =>
        rule.id ∉ names ∧ ∀ name ∈ names, sameIgnoringAsciiCase rule.code.value name = false) ∧
      ∀ others, (∀ name, name ∈ others ↔ name ∈ names) →
        ((afterCalls calls).disable others).1 = ((afterCalls calls).disable names).1 := by
  have recorded : Recorded (calls.flatMap Call.events) (afterCalls calls).rules := by
    rw [afterCalls_eq]
    exact Recorded.nil.run _
  have found := recorded.get?_eq_some_iff
  refine ⟨?_, recorded.ids_nodup, found, ?_, ?_, recorded.ids_ordered, ?_⟩
  · intro rules
    constructor
    · intro alsoRecorded
      exact alsoRecorded.unique recorded
    · intro same
      exact same ▸ recorded
  · intro id
    rw [Option.eq_none_iff_forall_ne_some]
    simp only [ne_eq, found, Taken, not_exists]
  · intro id member
    exact exists_cameInAt ((recorded.taken_iff id).mpr member)
  · intro names
    constructor
    · rw [rules_disable]
      simp only [not_namedBy_iff]
    · intro others sameMembers
      have sameNamed (rule : Rule) : rule.NamedBy others ↔ rule.NamedBy names := by
        simp only [Rule.NamedBy, sameMembers]
      have sameRules :
          ((afterCalls calls).disable others).1.rules =
            ((afterCalls calls).disable names).1.rules := by
        simp only [rules_disable, sameNamed]
      exact congrArg Registry.mk sameRules

end CourseLint.Registry
