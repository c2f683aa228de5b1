import RestDispatch.Handler.Signature
import RestDispatch.Proofs.Value.Entries

set_option autoImplicit false

/-!
When keyword arguments bind to a signature. Main statement: exactly if it accepts every name they have,
and every parameter that takes one value has a default or is given one by its name.
-/
namespace RestDispatch

-- A parameter that an argument of its name goes to.
def Parameter.ByName (p : Parameter) : Prop := p.kind = .normal ∨ p.kind = .keyword

-- A parameter that has to have a value when the handler is called.
def Parameter.Single (p : Parameter) : Prop := p.kind ≠ .rest ∧ p.kind ≠ .keywords

theorem Parameter.single_iff (p : Parameter) : p.Single ↔ p.kind = .positional ∨ p.ByName := by
  cases kind : p.kind <;> simp [Single, ByName, kind]

theorem Parameter.by_name_iff (p : Parameter) : p.ByName ↔ (p.kind = .normal || p.kind = .keyword) = true := by
  simp [ByName]

namespace Signature

-- An argument has a place to go to.
def Takes (signature : Signature) (name : String) : Prop :=
  (∃ p ∈ signature.parameters, p.name = name ∧ p.ByName) ∨ signature.takesKeywords = true

-- An argument may be given. The object itself has been given already, and cannot be given again by its name.
structure Accepts (signature : Signature) (name : String) : Prop where
  taken : signature.Takes name
  own : name = selfName → signature.selfByPosition = true

theorem mem_argument_names (signature : Signature) (name : String) :
    name ∈ signature.argumentNames ↔ name ≠ requestName ∧ ∃ p ∈ signature.parameters, p.name = name ∧ p.ByName := by
  simp only [argumentNames, List.mem_map, List.mem_filter, Bool.and_eq_true, ← Parameter.by_name_iff, decide_eq_true_eq]
  constructor
  · rintro ⟨p, ⟨member, byName, other⟩, rfl⟩
    exact ⟨other, p, member, rfl, byName⟩
  · rintro ⟨other, p, member, rfl, byName⟩
    exact ⟨p, ⟨member, byName, other⟩, rfl⟩

theorem mem_keyword_names (signature : Signature) (name : String) :
    name ∈ signature.keywordNames ↔
      (name = selfName ∧ signature.selfByPosition = false) ∨ ∃ p ∈ signature.parameters, p.name = name ∧ p.ByName := by
  rw [keywordNames, List.mem_append]
  refine or_congr ?_ ?_
  · cases signature.selfByPosition <;> simp
  · simp only [List.mem_map, List.mem_filter, ← Parameter.by_name_iff, and_right_comm, and_assoc]

theorem accepts_iff (signature : Signature) (name : String) :
    signature.Accepts name ↔
      (name ∈ signature.keywordNames ∨ signature.takesKeywords = true) ∧ (name = selfName → signature.selfByPosition = true) := by
  rw [mem_keyword_names]
  constructor
  · exact fun accepted => ⟨accepted.taken.imp Or.inr id, accepted.own⟩
  · rintro ⟨(⟨rfl, named⟩ | parameter) | keywords, own⟩
    · rw [own rfl] at named
      cases named
    · exact ⟨Or.inl parameter, own⟩
    · exact ⟨Or.inr keywords, own⟩

theorem check_keywords_ok_iff (signature : Signature) (all names : List String) :
    signature.checkKeywords all names = .ok () ↔ ∀ name ∈ names, signature.Accepts name := by
  induction names with
  | nil => simp [checkKeywords]
  | cons name rest ih =>
    rw [checkKeywords, List.forall_mem_cons, accepts_iff, ← ih]
    by_cases keyword : name ∈ signature.keywordNames
    · rw [if_pos keyword]
      by_cases own : name = selfName → signature.selfByPosition = true
      · have passes : (decide (name = selfName) && !signature.selfByPosition) = false := by
          by_cases self : name = selfName
          · simp [own self]
          · simp [self]
        rw [passes]
        exact ⟨fun passed => ⟨⟨Or.inl keyword, own⟩, passed⟩, And.right⟩
      · have stopped : (decide (name = selfName) && !signature.selfByPosition) = true := by simpa using own
        rw [stopped]
        exact ⟨(nomatch ·), fun accepted => absurd accepted.1.2 own⟩
    · have own : name = selfName → signature.selfByPosition = true := by
        rintro rfl
        rw [mem_keyword_names, not_or] at keyword
        simpa using keyword.1
      rw [if_neg keyword]
      cases keywords : signature.takesKeywords with
      | true => exact ⟨fun passed => ⟨⟨Or.inr rfl, own⟩, passed⟩, And.right⟩
      | false => cases signature.positionalNames.filter (· ∈ all) <;> simp [keyword]

theorem supplied_is_some_iff (arguments : List (String × Content)) (p : Parameter) :
    (supplied? arguments p).isSome = true ↔
      p.default.isSome = true ∨ (p.kind ≠ .positional ∧ p.name ∈ arguments.map Prod.fst) := by
  rw [← lookup_is_some_iff, supplied?]
  by_cases positional : p.kind = .positional
  · simp [positional]
  · cases given : arguments.lookup p.name <;> simp [positional]

theorem none_absent_iff (parameters : List Parameter) (arguments : List (String × Content)) (kind : Parameter → Bool) :
    (parameters.filter fun p => (supplied? arguments p).isNone).filter kind = [] ↔
      ∀ p ∈ parameters, kind p = true → (supplied? arguments p).isSome = true := by
  rw [List.filter_filter, List.filter_eq_nil_iff]
  refine forall₂_congr fun p _ => ?_
  cases supplied? arguments p <;> simp

theorem bind_ok_iff (signature : Signature) (arguments : List (String × Content)) :
    (∃ bound, signature.bind arguments = .ok bound) ↔
      (∀ name ∈ arguments.map Prod.fst, signature.Accepts name) ∧
      ∀ p ∈ signature.parameters, p.Single → (supplied? arguments p).isSome = true := by
  have kinds : ∀ p : Parameter,
      p.Single ↔ (p.kind = .positional || p.kind = .normal) = true ∨ decide (p.kind = .keyword) = true := by
    intro p
    simp [p.single_iff, Parameter.ByName, or_assoc]
  rw [← check_keywords_ok_iff signature (arguments.map Prod.fst), bind]
  cases checked : signature.checkKeywords (arguments.map Prod.fst) (arguments.map Prod.fst) with
  | error stopped => simp [Bind.bind, Except.bind]
  | ok done =>
    simp only [Bind.bind, Except.bind, true_and, kinds, or_imp, forall_and, ← none_absent_iff]
    generalize List.filter _ (List.filter _ signature.parameters) = positional
    generalize List.filter _ (List.filter _ signature.parameters) = keyword
    cases positional with
    | cons first others => simp
    | nil => cases keyword <;> simp

theorem check_keywords_append (signature : Signature) (all first second : List String) :
    signature.checkKeywords all (first ++ second) = (do signature.checkKeywords all first; signature.checkKeywords all second) := by
  induction first with
  | nil => rfl
  | cons name rest ih =>
    rw [List.cons_append, checkKeywords, checkKeywords, ih]
    split
    · split <;> rfl
    · split
      · rfl
      · split <;> rfl

-- Among names that have a place to go to only that of the object itself is refused.
theorem check_keywords_taken (signature : Signature) (all names : List String)
    (taken : ∀ name ∈ names, name ∈ signature.keywordNames ∨ signature.takesKeywords = true) :
    signature.checkKeywords all names =
      if selfName ∈ names ∧ signature.selfByPosition = false then .error (.multipleValues selfName) else .ok () := by
  induction names with
  | nil => simp [checkKeywords]
  | cons name rest ih =>
    obtain ⟨here, later⟩ := List.forall_mem_cons.mp taken
    have after := ih later
    rw [checkKeywords, after]
    by_cases own : name = selfName ∧ signature.selfByPosition = false
    · obtain ⟨rfl, byName⟩ := own
      have keyword : selfName ∈ signature.keywordNames := (mem_keyword_names signature selfName).mpr (Or.inl ⟨rfl, byName⟩)
      simp [keyword, byName]
    · have passes : (decide (name = selfName) && !signature.selfByPosition) = false := by simpa using own
      have same : selfName ∈ name :: rest ∧ signature.selfByPosition = false ↔ selfName ∈ rest ∧ signature.selfByPosition = false := by
        rw [List.mem_cons, or_and_right, or_iff_right (fun met => own ⟨met.1.symm, met.2⟩)]
      simp only [same, passes, Bool.false_eq_true, if_false]
      split
      · rfl
      · rename_i unnamed
        rw [if_pos (here.resolve_left unnamed)]

theorem check_keywords_members (signature : Signature) (all others names : List String) (same : ∀ name, name ∈ all ↔ name ∈ others) :
    signature.checkKeywords all names = signature.checkKeywords others names := by
  induction names with
  | nil => rfl
  | cons name rest ih =>
    simp only [checkKeywords, ih, same]

-- Arguments that a signature does not tell apart, whatever order they are in.
structure Agree (signature : Signature) (left right : List (String × Content)) : Prop where
  found : ∀ name, left.lookup name = right.lookup name
  checked : signature.checkKeywords (left.map Prod.fst) (left.map Prod.fst) =
    signature.checkKeywords (right.map Prod.fst) (right.map Prod.fst)
  rest : (left.filter fun entry => entry.1 ∉ signature.keywordNames) = right.filter fun entry => entry.1 ∉ signature.keywordNames

theorem bind_agree (signature : Signature) (left right : List (String × Content)) (agree : signature.Agree left right) :
    signature.bind left = signature.bind right := by
  have given : supplied? left = supplied? right := by
    funext p
    rw [supplied?, supplied?, agree.found]
  simp only [bind, agree.checked, agree.rest, given]

end Signature
end RestDispatch
