import RestDispatch.Proofs.Param.Keys
import RestDispatch.Proofs.Text.Blanks
import RestDispatch.Proofs.Value.Comparing

set_option autoImplicit false

/-!
What a parameter delivers. Presence, type and choices are checked on the value as it was presented; what is delivered is
its tidied form. Main statement: what a parse delivers without a conversion is nothing or of the declared type, but it is
empty in spite of its check where blanks were trimmed away, and of choices it is a tidied one, which need not be a choice.
-/
namespace RestDispatch

namespace Options

def Allows (options : Options) (value : Value) : Prop :=
  match options.choices with
  | none => True
  | some (.among values) => value.isIn values = .ok true
  | some (.passing check) => ∃ result, check.run value = .ok result ∧ result.truthy = true

theorem allows_among (options : Options) (values : List Value) (offered : options.choices = some (.among values)) (value : Value) :
    options.Allows value ↔ value.isIn values = .ok true := by
  rw [Allows, offered]

-- The checks of a value, all of which come before it is tidied.
structure Accepts (options : Options) (value : Value) : Prop where
  filled : options.nullable = false → value ≠ .null ∧ value ≠ .text []
  typed : value = .null ∨ options.type.admits value = true
  allowed : options.Allows value

def Converts (options : Options) (value result : Value) : Prop :=
  match options.convert with
  | none => result = value
  | some f => f.run value = .ok result

theorem presented_ok_iff (options : Options) (key : String) (given : Option Value) (value : Value) :
    options.presented key given = .ok value ↔
      value = given.getD options.default ∧ (given = none → options.required = true → "default" ∈ options.given) := by
  cases given with
  | some other =>
    exact ⟨fun same => ⟨(Except.ok.inj same).symm, fun absent => absurd absent (Option.some_ne_none other)⟩, fun same =>
      congrArg _ same.1.symm⟩
  | none =>
    have refused : (options.required && decide ("default" ∉ options.given)) = true ↔
        ¬ (options.required = true → "default" ∈ options.given) := by simp
    rw [presented]
    split
    case isTrue unmet => exact iff_of_false (fun same => by cases same) fun same => refused.mp unmet (same.2 rfl)
    case isFalse met =>
      have set := Decidable.not_not.mp (mt refused.mpr met)
      exact ⟨fun same => ⟨(Except.ok.inj same).symm, fun _ => set⟩, fun same => congrArg _ same.1.symm⟩

theorem check_presence_ok_iff (options : Options) (key : String) (value : Value) (done : Unit) :
    options.checkPresence key value = .ok done ↔ (options.nullable = false → value ≠ .null ∧ value ≠ .text []) := by
  have empty : (value.sameScalar .null || value.sameScalar (.text [])) = true ↔ value = .null ∨ value = .text [] := by
    rw [Bool.or_eq_true, Value.same_scalar_null_iff, Value.same_scalar_text_iff]
  rw [checkPresence, ← not_or, ← empty]
  cases options.nullable <;> simp

theorem check_type_ok_iff (options : Options) (key : String) (value : Value) (done : Unit) :
    options.checkType key value = .ok done ↔ value = .null ∨ options.type.admits value = true := by
  cases value <;> simp [checkType]

theorem check_choices_ok_iff (options : Options) (key : String) (value : Value) (done : Unit) :
    options.checkChoices key value = .ok done ↔ options.Allows value := by
  rw [checkChoices, Allows]
  cases options.choices with
  | none => simp
  | some choices =>
    cases choices with
    | among values =>
      dsimp only
      cases value.isIn values <;> simp
    | passing check =>
      dsimp only
      cases check.run value <;> simp

-- How a value does not pass the choices: it is refused, or something is raised where it is compared or checked.
theorem check_choices_error_cases (options : Options) (key : String) (value : Value) (unread : Unread)
    (refused : options.checkChoices key value = .error unread) :
    (∃ values, options.choices = some (.among values) ∧ value.isIn values = .ok false ∧ unread = .rejected (.notAmong key value values)) ∨
      (∃ values fault, options.choices = some (.among values) ∧ value.isIn values = .error fault ∧ unread = .raised fault) ∨
      (∃ check result, options.choices = some (.passing check) ∧ check.run value = .ok result ∧ result.truthy = false ∧
        unread = .rejected (.checkFailed key value)) ∨
      ∃ check fault, options.choices = some (.passing check) ∧ check.run value = .error fault ∧
        unread = .caught fault (.checkRaised key value fault) := by
  rw [checkChoices] at refused
  split at refused
  case h_1 => cases refused
  case h_2 values offered =>
    split at refused
    case h_1 fault failed => exact Or.inr (Or.inl ⟨values, fault, offered, failed, (Except.error.inj refused).symm⟩)
    case h_2 listed compared =>
      cases listed with
      | true => cases refused
      | false => exact Or.inl ⟨values, offered, compared, (Except.error.inj refused).symm⟩
  case h_3 check offered =>
    split at refused
    case h_1 fault failed => exact Or.inr (Or.inr (Or.inr ⟨check, fault, offered, failed, (Except.error.inj refused).symm⟩))
    case h_2 result ran =>
      split at refused
      case isTrue => cases refused
      case isFalse denied =>
        exact Or.inr (Or.inr (Or.inl ⟨check, result, offered, ran, Bool.eq_false_iff.mpr denied, (Except.error.inj refused).symm⟩))

theorem converted_error_iff (options : Options) (key : String) (value : Value) (unread : Unread) :
    options.converted key value = .error unread ↔
      ∃ f fault, options.convert = some f ∧ f.run value = .error fault ∧ unread = .caught fault (.convertRaised key value fault) := by
  rw [converted]
  cases options.convert with
  | none => simp
  | some f =>
    dsimp only
    cases ran : f.run value <;> simp [ran, eq_comm]

theorem converted_ok_iff (options : Options) (key : String) (value result : Value) :
    options.converted key value = .ok result ↔ options.Converts value result := by
  rw [converted, Converts]
  cases options.convert with
  | none => simp [eq_comm]
  | some f =>
    dsimp only
    cases f.run value <;> simp

theorem deliver_ok_iff (options : Options) (key : String) (given : Option Value) (result : Value) :
    options.deliver key given = .ok result ↔
      ∃ value, options.presented key given = .ok value ∧ options.Accepts value ∧ options.Converts (options.tidy value) result := by
  simp only [deliver, bind_eq_ok, check_presence_ok_iff, check_type_ok_iff, check_choices_ok_iff, converted_ok_iff]
  constructor
  · rintro ⟨value, presented, _, filled, _, typed, _, allowed, converts⟩
    exact ⟨value, presented, ⟨filled, typed, allowed⟩, converts⟩
  · rintro ⟨value, presented, ⟨filled, typed, allowed⟩, converts⟩
    exact ⟨value, presented, (), filled, (), typed, (), allowed, converts⟩

theorem tidy_admits (options : Options) (type : ParamType) (value : Value) :
    type.admits (options.tidy value) = type.admits value := by
  cases value <;> cases type <;> rfl

theorem tidy_null_iff (options : Options) (value : Value) : options.tidy value = .null ↔ value = .null := by
  cases value <;> simp [tidy]

theorem tidy_empty_iff (options : Options) (value : Value) :
    options.tidy value = .text [] ↔
      ∃ t, value = .text t ∧ (t = [] ∨ options.trim = true ∧ t.all Text.isBlankLetter = true) := by
  cases value with
  | text t =>
    cases lowercase : options.lowercase <;> cases trim : options.trim <;>
      simp only [tidy, lowercase, trim, Bool.false_eq_true, if_true, if_false, Value.text.injEq, Text.lowered_nil_iff,
        Text.trim_by_nil_iff, Text.lowered_all_blank, false_and, true_and, or_false, exists_eq_left']
    all_goals
      constructor
      · exact Or.inr
      · rintro (rfl | blank)
        · rfl
        · exact blank
  | _ => simp [tidy]

-- Equal values stay equal when they are tidied: the only texts that are equal are the same.
theorem tidy_same (options : Options) (value other : Value) (same : value.same other = .ok true) :
    (options.tidy value).same (options.tidy other) = .ok true := by
  cases value with
  | text t =>
    rw [Value.text_same, Except.ok.injEq, Value.text_same_scalar_iff] at same
    obtain rfl := same
    rw [tidy, Value.text_same, (Value.text_same_scalar_iff _ _).mpr rfl]
  | _ =>
    cases other with
    | text t =>
      rw [Value.same_text, Except.ok.injEq, Value.same_scalar_text_iff] at same
      cases same
    | _ => exact same

theorem tidy_untouched (options : Options) (value : Value) (uncased : options.lowercase = false) (untrimmed : options.trim = false) :
    options.tidy value = value := by
  cases value <;> simp [tidy, uncased, untrimmed]

end Options

namespace Parser

theorem split_at_key {declarations : List Declaration} {declaration : Declaration} (member : declaration ∈ declarations)
    (distinct : (declarations.map Declaration.key).Nodup) :
    ∃ before after, declarations = before ++ declaration :: after ∧ declaration.key ∉ after.map Declaration.key := by
  obtain ⟨before, after, rfl⟩ := List.append_of_mem member
  rw [List.map_append, List.map_cons, List.nodup_append] at distinct
  exact ⟨before, after, rfl, (List.nodup_cons.mp distinct.2.1).1⟩

-- A declared parameter that is not converted delivers the tidied form of a value that has passed its checks. Tidying keeps
-- the type, but it may leave nothing of a text that was not empty, and it need not lead to one of the choices.
theorem delivered_tidied (parser : Parser) (data : Fields) (delivered : Entries) (declaration : Declaration)
    (distinct : parser.keys.Nodup) (parsed : parser.parse data = .ok delivered) (member : declaration ∈ parser.declarations)
    (unconverted : declaration.options.convert = none) :
    let options := declaration.options
    let checked := (data.named? declaration.name).getD options.default
    options.Accepts checked ∧
    ∃ value, delivered.lookup declaration.key = some value ∧ value = options.tidy checked ∧
      (value = .null ∨ options.type.admits value = true) ∧
      (options.nullable = false → value ≠ .null ∧
        (value = .text [] ↔ options.trim = true ∧ ∃ t, checked = .text t ∧ t.all Text.isBlankLetter = true)) ∧
      ∀ values, options.choices = some (.among values) →
        checked.isIn values = .ok true ∧ (∃ choice ∈ values, (options.tidy choice).same value = .ok true) ∧
          (options.lowercase = false → options.trim = false → value.isIn values = .ok true) := by
  intro options checked
  obtain ⟨before, after, split, last⟩ := split_at_key member distinct
  obtain ⟨value, read, found⟩ := delivered_last parser data delivered parsed before after declaration split last
  obtain ⟨presented, same, accepted, converts⟩ := (Options.deliver_ok_iff _ _ _ _).mp read
  obtain rfl : presented = checked := ((Options.presented_ok_iff _ _ _ _).mp same).1
  obtain rfl : value = options.tidy checked := by simpa [Options.Converts, unconverted] using converts
  refine ⟨accepted, _, found, rfl, ?_, ?_, ?_⟩
  · rw [options.tidy_null_iff, options.tidy_admits]
    exact accepted.typed
  · intro unnullable
    obtain ⟨some, filled⟩ := accepted.filled unnullable
    refine ⟨fun null => some ((options.tidy_null_iff checked).mp null), ?_⟩
    rw [options.tidy_empty_iff]
    constructor
    · rintro ⟨t, text, rfl | ⟨trims, blank⟩⟩
      · exact absurd text filled
      · exact ⟨trims, t, text, blank⟩
    · rintro ⟨trims, t, text, blank⟩
      exact ⟨t, text, Or.inr ⟨trims, blank⟩⟩
  · intro values offered
    have listed : checked.isIn values = .ok true := (options.allows_among values offered checked).mp accepted.allowed
    obtain ⟨before, choice, after, rfl, _, equal⟩ := (Value.is_in_iff checked values).mp listed
    refine ⟨listed, ⟨choice, by simp, options.tidy_same choice checked equal⟩, fun uncased untrimmed => ?_⟩
    rw [options.tidy_untouched checked uncased untrimmed]
    exact listed

-- A title that may not be empty and is trimmed, and one of two grades in small letters.
def gradeForm : Parser :=
  ({} : Parser).run
    [.declare "title" [("nullable", .data (.bool false)), ("trim", .data (.bool true))],
     .declare "grade" [("choices", .data (.list [.text (Text.lettersOf "A"), .text (Text.lettersOf "B")])), ("lowercase", .data (.bool true))]]

def gradeData : Fields :=
  [(Text.lettersOf "title", .text (Text.lettersOf "  ")), (Text.lettersOf "grade", .text (Text.lettersOf "A"))]

theorem tidied_values_fail_checks :
    Parser.new [] = .ok {} ∧ gradeForm.keys.Nodup ∧
      ∃ title grade delivered, gradeForm.declarations = [title, grade] ∧ gradeForm.parse gradeData = .ok delivered ∧
        (title.options.convert.isNone ∧ title.options.nullable = false ∧ delivered.lookup title.key = some (.text [])) ∧
        grade.options.convert.isNone ∧ ∃ values value, grade.options.choices = some (.among values) ∧
          delivered.lookup grade.key = some value ∧ value.isIn values = .ok false :=
  ⟨rfl, by decide, _, _, [("title", .text []), ("grade", .text (Text.lettersOf "a"))], rfl, rfl, ⟨rfl, rfl, rfl⟩, rfl, _, _, rfl, rfl, rfl⟩

theorem blank_title_delivered_empty :
    gradeForm.keys.Nodup ∧ ∃ title ∈ gradeForm.declarations, ∃ delivered, gradeForm.parse gradeData = .ok delivered ∧
      title.options.convert = none ∧ title.options.nullable = false ∧ delivered.lookup title.key = some (.text []) := by
  have distinct : gradeForm.keys.Nodup := by decide
  have parsed : gradeForm.parse gradeData = .ok [("title", .text []), ("grade", .text (Text.lettersOf "a"))] := rfl
  obtain ⟨_, value, found, _, _, filled, _⟩ := delivered_tidied gradeForm gradeData _ _ distinct parsed List.mem_cons_self rfl
  have blank : value = .text [] := (filled rfl).2.mpr ⟨rfl, Text.lettersOf "  ", rfl, by decide⟩
  exact ⟨distinct, _, List.mem_cons_self, _, parsed, rfl, rfl, blank ▸ found⟩

end Parser
end RestDispatch
