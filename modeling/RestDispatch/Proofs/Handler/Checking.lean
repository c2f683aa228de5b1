import RestDispatch.Handler.Strict

set_option autoImplicit false

/-!
Which signatures pass the strict check. Main statement: a signature passes if its annotations can be
resolved, its result has one, and every checked parameter has one and is supplied or a model; so a signature
that passed once passes later unless something that supplied a parameter does not supply it any more.
-/
namespace RestDispatch.Signature

-- A parameter that the strict check lets pass: it is typed, and it is known or a model.
def Typed (hints : List (String × Hint)) (known : List String) (p : Parameter) : Prop :=
  ∃ hint, hints.lookup p.name = some hint ∧ (p.name ∈ known ∨ hint.model?.isSome = true)

theorem check_parameter_ok_iff (hints : List (String × Hint)) (known : List String) (p : Parameter) :
    checkParameter hints known p = .ok () ↔ Typed hints known p := by
  rw [checkParameter, Typed]
  cases typed : hints.lookup p.name with
  | none => simp
  | some hint =>
    by_cases supplied : p.name ∈ known ∨ hint.model?.isSome = true
    · have passes : (decide (p.name ∈ known) || hint.model?.isSome) = true := by simpa using supplied
      simp [supplied, passes]
    · have stopped : (decide (p.name ∈ known) || hint.model?.isSome) = false := by simpa using supplied
      simp only [stopped, Bool.false_eq_true, if_false, Option.some.injEq, exists_eq_left']
      refine ⟨fun passed => ?_, fun passed => absurd passed supplied⟩
      cases label : hint.label <;> simp [label] at passed

theorem check_parameters_ok_iff (hints : List (String × Hint)) (known : List String) (parameters : List Parameter) :
    parameters.forM (checkParameter hints known) = .ok () ↔ ∀ p ∈ parameters, Typed hints known p := by
  induction parameters with
  | nil => simp [pure, Except.pure]
  | cons p rest ih =>
    change (do checkParameter hints known p; rest.forM (checkParameter hints known)) = .ok () ↔ _
    cases checked : checkParameter hints known p with
    | error problem =>
      have refused : ¬ Typed hints known p := by
        rw [← check_parameter_ok_iff, checked]
        simp
      simp [Bind.bind, Except.bind, refused]
    | ok done =>
      have passed : Typed hints known p := (check_parameter_ok_iff hints known p).mp checked
      simpa [Bind.bind, Except.bind, passed] using ih

theorem check_ok_iff (signature : Signature) (rule : Rule) (parser : Option Parser) :
    signature.check rule parser = .ok () ↔
      ∃ hints, signature.hints = .ok hints ∧ signature.returns.isSome = true ∧
        ∀ p ∈ signature.parameters, isChecked p = true → Typed hints (supplied rule parser) p := by
  rw [check]
  cases resolved : signature.hints with
  | error fault => simp
  | ok hints =>
    cases returns : signature.returns with
    | none => simp
    | some annotation =>
      simp only [Option.isNone_some, Bool.false_eq_true, if_false, check_parameters_ok_iff, List.mem_filter, Except.ok.injEq,
        exists_eq_left', Option.isSome_some, true_and]
      exact ⟨fun passed p member checked => passed p ⟨member, checked⟩, fun passed p both => passed p both.1 both.2⟩

-- Passing once leaves only the parameters in question that the parser supplied.
theorem check_again_iff (signature : Signature) (rule : Rule) (before after : Option Parser)
    (passed : signature.check rule before = .ok ()) :
    signature.check rule after = .ok () ↔
      ∀ hints, signature.hints = .ok hints → ∀ p ∈ signature.parameters, isChecked p = true →
        p.name ∈ rule.variableNames ∨ (∃ parser, after = some parser ∧ p.name ∈ parser.declarations.map Declaration.key) ∨
        (∃ hint, hints.lookup p.name = some hint ∧ hint.model?.isSome = true) := by
  have supplied_iff : ∀ name, name ∈ supplied rule after ↔
      name ∈ rule.variableNames ∨ ∃ parser, after = some parser ∧ name ∈ parser.declarations.map Declaration.key := by
    intro name
    cases after <;> simp [supplied]
  obtain ⟨hints, resolved, returns, typed⟩ := (check_ok_iff signature rule before).mp passed
  rw [check_ok_iff]
  constructor
  · rintro ⟨found, same, _, again⟩ other equal p member checked
    obtain rfl := Except.ok.inj (same.symm.trans equal)
    obtain ⟨hint, known, supply | model⟩ := again p member checked
    · rcases (supplied_iff p.name).mp supply with captured | delivered
      · exact Or.inl captured
      · exact Or.inr (Or.inl delivered)
    · exact Or.inr (Or.inr ⟨hint, known, model⟩)
  · intro supplies
    refine ⟨hints, resolved, returns, fun p member checked => ?_⟩
    obtain ⟨hint, known, _⟩ := typed p member checked
    rcases supplies hints resolved p member checked with captured | delivered | ⟨other, found, model⟩
    · exact ⟨hint, known, Or.inl ((supplied_iff p.name).mpr (Or.inl captured))⟩
    · exact ⟨hint, known, Or.inl ((supplied_iff p.name).mpr (Or.inr delivered))⟩
    · exact ⟨other, found, Or.inr model⟩

end RestDispatch.Signature
