import RestDispatch.Proofs.Annotation.Showing
import RestDispatch.Proofs.Handler.Checking
import RestDispatch.Proofs.Handler.ModelParameters
import RestDispatch.Proofs.Param.Independence

set_option autoImplicit false

/-!
What the strict check says about a signature. Every parameter that is examined is judged by itself, in the order of the
signature. Main statement: the check passes if there is a result annotation and every examined parameter fits; otherwise it
tells of the missing result, or else of the first parameter that does not fit, and what more there is to supply parameters
takes no acceptance back.
-/
namespace RestDispatch.Signature

-- What the annotation of a parameter stands for. The annotations that are resolved before it may have bound names.
def StandsFor (signature : Signature) (p : Parameter) (hint : Hint) : Prop :=
  ∃ written names next, p.annotation = some written ∧ signature.namesAt p.name = .ok names ∧ written.resolve names = .ok (hint, next)

-- The rule captures something under this name, or the parser delivers it.
def Feeds (rule : Rule) (parser : Option Parser) (name : String) : Prop :=
  name ∈ rule.variableNames ∨ ∃ found, parser = some found ∧ name ∈ found.keys

structure Examined (p : Parameter) : Prop where
  other : p.name ≠ requestName
  single : p.Single

structure Fits (signature : Signature) (rule : Rule) (parser : Option Parser) (p : Parameter) : Prop where
  annotated : p.annotation.isSome = true
  sourced : Feeds rule parser p.name ∨ ∃ m, signature.StandsFor p (.model m)

-- What is wrong with a parameter. A label that cannot be written hides what is wrong with it.
inductive Offends (signature : Signature) (rule : Rule) (parser : Option Parser) (p : Parameter) : SignatureProblem → Prop where
  | untyped (bare : p.annotation = none) : Offends signature rule parser p (.untyped p.name)
  | unsupplied (hint : Hint) (label : String) (stands : signature.StandsFor p hint) (unknown : ¬ Feeds rule parser p.name)
      (other : ∀ m, hint ≠ .model m) (shown : hint.label = .ok label) : Offends signature rule parser p (.unsupplied p.name label)
  | unshown (hint : Hint) (fault : Fault) (stands : signature.StandsFor p hint) (unknown : ¬ Feeds rule parser p.name)
      (other : ∀ m, hint ≠ .model m) (hidden : hint.label = .error fault) : Offends signature rule parser p (.unshown p.name fault)

theorem feeds_iff (rule : Rule) (parser : Option Parser) (name : String) : Feeds rule parser name ↔ name ∈ supplied rule parser := by
  cases parser <;> simp [Feeds, supplied, Parser.keys]

theorem examined_iff (p : Parameter) : Examined p ↔ isChecked p = true := by
  simp only [isChecked, Bool.and_eq_true, decide_eq_true_eq]
  exact ⟨fun ⟨other, notRest, notKeywords⟩ => ⟨⟨other, notKeywords⟩, notRest⟩,
    fun ⟨⟨other, notKeywords⟩, notRest⟩ => ⟨other, notRest, notKeywords⟩⟩

theorem model_absent_iff (hint : Hint) : hint.model?.isSome = false ↔ ∀ m, hint ≠ .model m := by
  cases hint <;> simp [Hint.model?]

theorem label_of_meaning (m : Meaning) : (Hint.ofMeaning m).label = m.label := by
  cases m <;> rfl

theorem stands_for_one (signature : Signature) (p : Parameter) (hint other : Hint) (stands : signature.StandsFor p hint)
    (also : signature.StandsFor p other) : hint = other := by
  obtain ⟨written, names, next, annotated, known, here⟩ := stands
  obtain ⟨_, _, _, again, same, there⟩ := also
  obtain rfl := Option.some.inj (annotated.symm.trans again)
  obtain rfl := Except.ok.inj (known.symm.trans same)
  exact (Prod.mk.inj (Except.ok.inj (here.symm.trans there))).1

-- What an annotation stands for is known by the label of some thing.
theorem stands_for_meaning (signature : Signature) (p : Parameter) (hint : Hint) (stands : signature.StandsFor p hint) :
    ∃ m, hint = .ofMeaning m := by
  obtain ⟨written, names, next, _, _, here⟩ := stands
  cases written with
  | direct m =>
    obtain ⟨⟨found, _⟩, _, made⟩ := (bind_eq_ok _ _ _).mp here
    exact ⟨found, (Prod.mk.inj (Except.ok.inj made)).1.symm⟩
  | quoted t =>
    obtain ⟨⟨found, _⟩, _, made⟩ := (bind_eq_ok _ _ _).mp here
    exact ⟨found, (Prod.mk.inj (Except.ok.inj made)).1.symm⟩

section
variable (signature : Signature) (distinct : (signature.parameters.map (·.name)).Nodup) (hints : List (String × Hint))
  (resolved : signature.hints = .ok hints) (p : Parameter) (member : p ∈ signature.parameters)
include distinct resolved member

theorem hint_absent_iff : hints.lookup p.name = none ↔ p.annotation = none := by
  obtain ⟨last, all⟩ := signature.hints_ok hints resolved
  have keys := resolve_all_keys signature.annotated {} last hints all
  rw [lookup_eq_none_iff, keys, ← lookup_eq_none_iff, signature.annotated_lookup distinct p member]

theorem hint_found_iff (hint : Hint) : hints.lookup p.name = some hint ↔ signature.StandsFor p hint := by
  constructor
  · intro found
    cases annotated : p.annotation with
    | none =>
      rw [(signature.hint_absent_iff distinct hints resolved p member).mpr annotated] at found
      cases found
    | some written =>
      obtain ⟨names, other, next, known, here, given⟩ := signature.resolved_hint distinct p member hints resolved written annotated
      rw [found] at given
      obtain rfl := Option.some.inj given
      exact ⟨written, names, next, annotated, known, here⟩
  · rintro ⟨written, names, next, annotated, known, here⟩
    obtain ⟨others, other, _, same, again, given⟩ := signature.resolved_hint distinct p member hints resolved written annotated
    obtain rfl := Except.ok.inj (known.symm.trans same)
    obtain ⟨rfl, _⟩ := Prod.mk.inj (Except.ok.inj (here.symm.trans again))
    exact given

variable (rule : Rule) (parser : Option Parser)

theorem judged_fit_iff : checkParameter hints (supplied rule parser) p = .ok () ↔ signature.Fits rule parser p := by
  rw [check_parameter_ok_iff, Typed]
  constructor
  · rintro ⟨hint, found, source⟩
    have stands := (signature.hint_found_iff distinct hints resolved p member hint).mp found
    obtain ⟨written, _, _, annotated, _⟩ := id stands
    refine ⟨by rw [annotated]; rfl, source.imp (feeds_iff rule parser p.name).mpr fun model => ?_⟩
    cases hint with
    | model m => exact ⟨m, stands⟩
    | other label => cases model
  · rintro ⟨annotated, source⟩
    cases found : hints.lookup p.name with
    | none =>
      rw [(signature.hint_absent_iff distinct hints resolved p member).mp found] at annotated
      cases annotated
    | some hint =>
      refine ⟨hint, rfl, source.imp (feeds_iff rule parser p.name).mp ?_⟩
      rintro ⟨m, stands⟩
      rw [(signature.hint_found_iff distinct hints resolved p member _).mpr stands] at found
      rw [← Option.some.inj found]
      rfl

theorem judged_offence_iff (problem : SignatureProblem) :
    checkParameter hints (supplied rule parser) p = .error problem ↔ signature.Offends rule parser p problem := by
  have stands_iff := signature.hint_found_iff distinct hints resolved p member
  have bare_iff := signature.hint_absent_iff distinct hints resolved p member
  constructor
  · intro refused
    rw [checkParameter] at refused
    cases found : hints.lookup p.name with
    | none =>
      rw [found] at refused
      obtain rfl := Except.error.inj refused
      exact .untyped (bare_iff.mp found)
    | some hint =>
      have stands := (stands_iff hint).mp found
      by_cases passes : (decide (p.name ∈ supplied rule parser) || hint.model?.isSome) = true
      · simp [found, passes] at refused
      · simp only [found, passes] at refused
        obtain ⟨unlisted, other⟩ := Bool.or_eq_false_iff.mp (Bool.not_eq_true _ ▸ passes)
        have unknown : ¬ Feeds rule parser p.name := (feeds_iff rule parser p.name).not.mpr (of_decide_eq_false unlisted)
        cases shown : hint.label with
        | ok label =>
          simp only [shown] at refused
          obtain rfl := Except.error.inj refused
          exact .unsupplied hint label stands unknown ((model_absent_iff hint).mp other) shown
        | error fault =>
          simp only [shown] at refused
          obtain rfl := Except.error.inj refused
          exact .unshown hint fault stands unknown ((model_absent_iff hint).mp other) shown
  · intro offends
    cases offends with
    | untyped bare => rw [checkParameter, bare_iff.mpr bare]
    | unsupplied hint label stands unknown other shown =>
      rw [feeds_iff] at unknown
      simp [checkParameter, (stands_iff hint).mpr stands, unknown, (model_absent_iff hint).mpr other, shown]
    | unshown hint fault stands unknown other hidden =>
      rw [feeds_iff] at unknown
      simp [checkParameter, (stands_iff hint).mpr stands, unknown, (model_absent_iff hint).mpr other, hidden]

end

-- The parameter that a check stops at: those before it that are examined fit.
structure StopsAt (signature : Signature) (rule : Rule) (parser : Option Parser) (p : Parameter) (problem : SignatureProblem) : Prop where
  result : signature.returns.isSome = true
  first : ∃ before after, signature.parameters = before ++ p :: after ∧ ∀ q ∈ before, Examined q → signature.Fits rule parser q
  examined : Examined p
  offends : signature.Offends rule parser p problem

section
variable (signature : Signature) (rule : Rule) (parser : Option Parser) (hints : List (String × Hint))
  (distinct : (signature.parameters.map (·.name)).Nodup) (resolved : signature.hints = .ok hints)
include distinct resolved

theorem check_fits_iff :
    signature.check rule parser = .ok () ↔
      signature.returns.isSome = true ∧ ∀ p ∈ signature.parameters, Examined p → signature.Fits rule parser p := by
  have judged := signature.judged_fit_iff distinct hints resolved
  rw [check_ok_iff]
  constructor
  · rintro ⟨found, same, result, typed⟩
    obtain rfl := Except.ok.inj (resolved.symm.trans same)
    refine ⟨result, fun p member examined => (judged p member rule parser).mp ?_⟩
    exact (check_parameter_ok_iff _ _ p).mpr (typed p member ((examined_iff p).mp examined))
  · rintro ⟨result, fits⟩
    refine ⟨hints, resolved, result, fun p member checked => (check_parameter_ok_iff _ _ p).mp ?_⟩
    exact (judged p member rule parser).mpr (fits p member ((examined_iff p).mpr checked))

theorem check_stops_iff (problem : SignatureProblem) :
    signature.check rule parser = .error problem ↔
      (signature.returns = none ∧ problem = .noResult) ∨ ∃ p, signature.StopsAt rule parser p problem := by
  cases returns : signature.returns with
  | none =>
    have unfit : ∀ p, ¬ signature.StopsAt rule parser p problem := fun p stops => by simpa [returns] using stops.result
    simp [check, resolved, returns, unfit, eq_comm]
  | some written =>
    have checked : signature.check rule parser =
        (signature.parameters.filter isChecked).forM (checkParameter hints (supplied rule parser)) := by
      simp [check, resolved, returns]
    rw [checked, for_each_eq_error]
    constructor
    · rintro ⟨before, p, after, parted, earlier, examined, refused⟩
      have within : ∀ q, q ∈ before ++ p :: after → q ∈ signature.parameters := fun q => parted ▸ id
      have member := within p (List.mem_append_right before List.mem_cons_self)
      refine Or.inr ⟨p, by rw [returns]; rfl, ⟨before, after, parted, fun q inside looked => ?_⟩, (examined_iff p).mpr examined,
        (signature.judged_offence_iff distinct hints resolved p member rule parser problem).mp refused⟩
      exact (signature.judged_fit_iff distinct hints resolved q (within q (List.mem_append_left _ inside)) rule parser).mp
        (earlier q inside ((examined_iff q).mp looked))
    · rintro (⟨missing, _⟩ | ⟨p, _, ⟨before, after, parted, earlier⟩, examined, offends⟩)
      · cases missing
      · have within : ∀ q, q ∈ before ++ p :: after → q ∈ signature.parameters := fun q => parted ▸ id
        have member := within p (List.mem_append_right before List.mem_cons_self)
        refine ⟨before, p, after, parted, fun q inside looked => ?_, (examined_iff p).mp examined,
          (signature.judged_offence_iff distinct hints resolved p member rule parser problem).mpr offends⟩
        exact (signature.judged_fit_iff distinct hints resolved q (within q (List.mem_append_left _ inside)) rule parser).mpr
          (earlier q inside ((examined_iff q).mpr looked))

end

-- More to supply parameters from leaves what was accepted accepted.
theorem check_grown (signature : Signature) (rule wider : Rule) (parser more : Option Parser)
    (grown : ∀ name, Feeds rule parser name → Feeds wider more name) (passed : signature.check rule parser = .ok ()) :
    signature.check wider more = .ok () := by
  obtain ⟨hints, resolved, result, typed⟩ := (check_ok_iff signature rule parser).mp passed
  refine (check_ok_iff signature wider more).mpr ⟨hints, resolved, result, fun p member checked => ?_⟩
  obtain ⟨hint, found, source⟩ := typed p member checked
  refine ⟨hint, found, source.imp_left fun known => ?_⟩
  exact (feeds_iff wider more p.name).mp (grown p.name ((feeds_iff rule parser p.name).mpr known))

-- How a signature is judged. A problem is told as it is unless its parameter is annotated with a thing that cannot be shown;
-- what is raised instead is one of two faults.
structure Judged (signature : Signature) (rule : Rule) (parser : Option Parser) : Prop where
  accepted : signature.check rule parser = .ok () ↔
    signature.returns.isSome = true ∧ ∀ p ∈ signature.parameters, Examined p → signature.Fits rule parser p
  refused : ∀ problem, signature.check rule parser = .error problem ↔
    (signature.returns = none ∧ problem = .noResult) ∨ ∃ p, signature.StopsAt rule parser p problem
  told : ∀ p problem, signature.StopsAt rule parser p problem →
    (problem.fault? = none ↔ ∀ m, signature.StandsFor p (.ofMeaning m) → ¬ m.Hidden) ∧
      ∀ fault, problem.fault? = some fault → fault = .overlongOutput ∨ fault = .deepOutput
  grown : ∀ wider more, rule.variableNames ⊆ wider.variableNames →
    (∀ found, parser = some found → ∃ longer, more = some longer ∧ found.keys ⊆ longer.keys) →
    signature.check rule parser = .ok () → signature.check wider more = .ok ()
  declared : ∀ found steps, parser = some found → (∀ step ∈ steps, ∀ name ∈ found.names, step.Spares name) →
    signature.check rule parser = .ok () → signature.check rule (some (found.run steps)) = .ok ()

theorem offence_told (signature : Signature) (rule : Rule) (parser : Option Parser) (p : Parameter) (problem : SignatureProblem)
    (offends : signature.Offends rule parser p problem) :
    (problem.fault? = none ↔ ∀ m, signature.StandsFor p (.ofMeaning m) → ¬ m.Hidden) ∧
      ∀ fault, problem.fault? = some fault → fault = .overlongOutput ∨ fault = .deepOutput := by
  cases offends with
  | untyped bare =>
    refine ⟨iff_of_true rfl fun m stands => ?_, fun fault raised => nomatch raised⟩
    obtain ⟨written, _, _, annotated, _⟩ := stands
    rw [bare] at annotated
    cases annotated
  | unsupplied hint label stands unknown other shown =>
    refine ⟨iff_of_true rfl fun m also hidden => ?_, fun fault raised => nomatch raised⟩
    obtain rfl := signature.stands_for_one p hint _ stands also
    obtain ⟨fault, failed⟩ := m.label_shows.hidden_iff.mp hidden
    rw [label_of_meaning, failed] at shown
    cases shown
  | unshown hint fault stands unknown other hidden =>
    obtain ⟨m, rfl⟩ := signature.stands_for_meaning p hint stands
    rw [label_of_meaning] at hidden
    refine ⟨iff_of_false (fun told => nomatch told) fun visible => visible m stands (m.label_shows.hidden_iff.mpr ⟨fault, hidden⟩), ?_⟩
    intro raised same
    exact Option.some.inj same ▸ m.label_shows.named fault hidden

theorem signature_judged (signature : Signature) (rule : Rule) (parser : Option Parser) (hints : List (String × Hint))
    (distinct : (signature.parameters.map (·.name)).Nodup) (resolved : signature.hints = .ok hints) : signature.Judged rule parser := by
  constructor
  case accepted => exact signature.check_fits_iff rule parser hints distinct resolved
  case refused => exact signature.check_stops_iff rule parser hints distinct resolved
  case told => exact fun p problem stops => signature.offence_told rule parser p problem stops.offends
  case grown =>
    intro wider more captures delivers
    refine signature.check_grown rule wider parser more fun name supplied => supplied.imp (fun known => captures known) ?_
    rintro ⟨found, given, key⟩
    obtain ⟨longer, same, keys⟩ := delivers found given
    exact ⟨longer, same, keys key⟩
  case declared =>
    rintro found steps rfl spared
    refine signature.check_grown rule rule (some found) _ fun name supplied => supplied.imp_right ?_
    rintro ⟨other, given, key⟩
    obtain rfl := Option.some.inj given
    exact ⟨_, rfl, found.spared_keys steps spared key⟩

-- A list of sizes that is annotated by the least integer that is too long to be shown.
def sizeList : Meaning := .container "list" [.int (10 ^ Decimal.digitLimit : Nat)]

def sizes : Parameter := { name := "sizes", annotation := some (.direct sizeList) }

def takesSizes : Signature := { parameters := [sizes], returns := some (.direct (.cls "dict")) }

theorem sizes_not_named :
    takesSizes.check ⟨"/sizes", [.literal "sizes"]⟩ none = .error (.unshown "sizes" .overlongOutput) ∧
      (SignatureProblem.unshown "sizes" .overlongOutput).fault? = some .overlongOutput := by
  have resolved : takesSizes.hints = .ok [("sizes", .ofMeaning sizeList)] := rfl
  have long : Value.intText? (10 ^ Decimal.digitLimit : Nat) = none :=
    (Value.int_text_eq_none_iff _).mpr (Nat.le_of_eq (Int.natAbs_natCast _).symm)
  have hidden : (Hint.ofMeaning sizeList).label = .error .overlongOutput := by
    simp only [sizeList, Hint.ofMeaning, Hint.label, Meaning.label, Meaning.printed, Value.nestLimit, Meaning.printedWithin,
      Meaning.containedAll, Meaning.containedAs, Meaning.argumentClass?, Option.elim, Meaning.shownInt, long]
    rfl
  have judged := signature_judged takesSizes ⟨"/sizes", [.literal "sizes"]⟩ none _ (List.nodup_singleton _) resolved
  have unknown : ¬ Feeds ⟨"/sizes", [.literal "sizes"]⟩ none "sizes" := by
    rw [feeds_iff]
    decide
  have stops : takesSizes.StopsAt ⟨"/sizes", [.literal "sizes"]⟩ none sizes (.unshown "sizes" .overlongOutput) :=
    { result := rfl
      first := ⟨[], [], rfl, List.forall_mem_nil _⟩
      examined := (examined_iff sizes).mpr (by decide)
      offends := .unshown _ _ ⟨.direct sizeList, {}, _, rfl, rfl, rfl⟩ unknown (fun _ => Hint.noConfusion) hidden }
  exact ⟨(judged.refused _).mpr (Or.inr ⟨sizes, stops⟩), rfl⟩

end RestDispatch.Signature
