import RestDispatch.Proofs.Param.Delivering

set_option autoImplicit false

/-!
Optional parameters that the data does not give. Nothing is presented in their place, and it passes the checks of presence
and type; but it is looked at by the choices and by the conversion like any other value. Main statement: such a parameter
is refused exactly if it is no choice, or fails the check of the choices, or cannot be converted.
-/
namespace RestDispatch

namespace Options

theorem read_ok (settings : Settings) (options : Options) (success : read settings = .ok options) :
    options.given = settings.map Prod.fst ∧ options.default = readDefault settings := by
  rw [read] at success
  split at success
  case h_1 => exact Except.ok.inj success ▸ ⟨rfl, rfl⟩
  case h_2 => cases success

theorem default_of_ungiven (settings : Settings) (options : Options) (success : read settings = .ok options)
    (ungiven : "default" ∉ options.given) : options.default = .null := by
  obtain ⟨given, default⟩ := read_ok settings options success
  rw [given] at ungiven
  rw [default, readDefault, (lookup_eq_none_iff settings "default").mpr ungiven]

-- How a parameter is refused for which nothing is presented.
inductive RefusesNull (options : Options) (key : String) : Unread → Prop
  | unlisted (values : List Value) (offered : options.choices = some (.among values)) (missing : .null ∉ values) :
      RefusesNull options key (.rejected (.notAmong key .null values))
  | denied (check : Function) (result : Value) (offered : options.choices = some (.passing check))
      (ran : check.run .null = .ok result) (denied : result.truthy = false) :
      RefusesNull options key (.rejected (.checkFailed key .null))
  | unchecked (check : Function) (fault : Fault) (offered : options.choices = some (.passing check))
      (failed : check.run .null = .error fault) : RefusesNull options key (.caught fault (.checkRaised key .null fault))
  | unconverted (f : Function) (fault : Fault) (allowed : options.Allows .null) (conversion : options.convert = some f)
      (failed : f.run .null = .error fault) : RefusesNull options key (.caught fault (.convertRaised key .null fault))

-- What is said of an absent parameter is said in its own name, and never of what was presented or of its type. Only a
-- fault that asks the program to stop takes the place of it.
inductive Blames (key : String) : Unread → Prop
  | named (rejection : Rejection) (own : rejection.key = key) (late : rejection.code = 3 ∨ rejection.code = 4) :
      Blames key (.rejected rejection)
  | stopped (fault : Fault) (stops : fault.stops = true) : Blames key (.raised fault)

theorem blames_caught (key : String) (fault : Fault) (rejection : Rejection) (own : rejection.key = key)
    (late : rejection.code = 3 ∨ rejection.code = 4) : Blames key (.caught fault rejection) := by
  rw [Unread.caught]
  split
  case isTrue stops => exact .stopped fault stops
  case isFalse => exact .named rejection own late

theorem refuses_null_blames (options : Options) (key : String) (unread : Unread) (refused : options.RefusesNull key unread) :
    Blames key unread := by
  cases refused with
  | unlisted values offered missing => exact .named _ rfl (Or.inl rfl)
  | denied check result offered ran denied => exact .named _ rfl (Or.inl rfl)
  | unchecked check fault offered failed => exact blames_caught key fault _ rfl (Or.inl rfl)
  | unconverted f fault allowed conversion failed => exact blames_caught key fault _ rfl (Or.inr rfl)

theorem deliver_absent (options : Options) (key : String) (optional : options.required = false) (nullable : options.nullable = true)
    (empty : options.default = .null) :
    options.deliver key none = (options.checkChoices key .null).bind fun _ => options.converted key .null := by
  simp only [deliver, presented, optional, empty, checkPresence, nullable]
  rfl

theorem deliver_absent_ok_iff (options : Options) (key : String) (result : Value) (optional : options.required = false)
    (nullable : options.nullable = true) (empty : options.default = .null) :
    options.deliver key none = .ok result ↔ options.Allows .null ∧ options.Converts .null result := by
  rw [deliver_absent options key optional nullable empty]
  refine (bind_eq_ok _ _ _).trans ?_
  simp [check_choices_ok_iff, converted_ok_iff]

theorem refuses_null_of_check (options : Options) (key : String) (unread : Unread)
    (refused : options.checkChoices key .null = .error unread) : options.RefusesNull key unread := by
  rcases options.check_choices_error_cases key .null unread refused with
    ⟨values, offered, unlisted, rfl⟩ | ⟨values, fault, _, failed, _⟩ | ⟨check, result, offered, ran, denied, rfl⟩ |
    ⟨check, fault, offered, failed, rfl⟩
  · refine .unlisted values offered fun member => ?_
    rw [(Value.null_in_iff values).mpr member] at unlisted
    cases unlisted
  · rw [Value.null_in] at failed
    cases failed
  · exact .denied check result offered ran denied
  · exact .unchecked check fault offered failed

theorem refuses_null_of_conversion (options : Options) (key : String) (unread : Unread) (allowed : options.Allows .null)
    (refused : options.converted key .null = .error unread) : options.RefusesNull key unread := by
  obtain ⟨f, fault, conversion, failed, rfl⟩ := (options.converted_error_iff key .null unread).mp refused
  exact .unconverted f fault allowed conversion failed

theorem deliver_absent_error_iff (options : Options) (key : String) (unread : Unread) (optional : options.required = false)
    (nullable : options.nullable = true) (empty : options.default = .null) :
    options.deliver key none = .error unread ↔ options.RefusesNull key unread := by
  rw [deliver_absent options key optional nullable empty]
  refine (bind_eq_error _ _ _).trans ?_
  constructor
  · rintro (refused | ⟨done, passed, failed⟩)
    · exact refuses_null_of_check options key unread refused
    · have allowed := (options.check_choices_ok_iff key .null done).mp passed
      exact refuses_null_of_conversion options key unread allowed failed
  · intro refused
    cases refused with
    | unlisted values offered missing =>
      have absent : Value.null.isIn values = .ok false := by
        rw [Value.null_in, Except.ok.injEq, List.any_eq_false]
        intro item member same
        obtain rfl := (Value.same_scalar_null_iff item).mp same
        exact missing member
      exact Or.inl (by simp [checkChoices, offered, absent])
    | denied check result offered ran denied => exact Or.inl (by simp [checkChoices, offered, ran, denied])
    | unchecked check fault offered failed => exact Or.inl (by simp [checkChoices, offered, failed])
    | unconverted f fault allowed conversion failed =>
      exact Or.inr ⟨(), (options.check_choices_ok_iff key .null ()).mpr allowed, by simp [converted, conversion, failed]⟩

end Options

namespace Parser

-- The options of every declaration were read from the settings of the parser, overlaid by its own.
def Read (parser : Parser) : Prop :=
  ∀ declaration ∈ parser.declarations, ∃ settings, Options.read (putAll parser.base settings) = .ok declaration.options

theorem step_read (parser : Parser) (step : ParserStep) (read : parser.Read) : (parser.step step).Read := by
  cases step with
  | remove removed => exact fun declaration member => read declaration (List.mem_filter.mp member).1
  | declare name settings =>
    rw [Parser.step]
    cases declared : parser.declare name settings with
    | error clash => exact read
    | ok success =>
      obtain ⟨next, options⟩ := success
      obtain ⟨made, _, _, rfl⟩ := declare_ok parser next name settings options declared
      intro declaration member
      rcases List.mem_append.mp member with earlier | last
      · exact read declaration earlier
      · obtain rfl := List.mem_singleton.mp last
        exact ⟨settings, made⟩

theorem run_read (parser : Parser) (steps : List ParserStep) (read : parser.Read) : (parser.run steps).Read := by
  induction steps generalizing parser with
  | nil => exact read
  | cons step rest ih => exact ih (parser.step step) (step_read parser step read)

-- A parse stops at the first parameter whose reading fails.
theorem parse_from_refused (data : Fields) (before after : List Declaration) (declaration : Declaration) (delivered : Entries)
    (unread : Unread) (earlier : ∀ other ∈ before, ∃ value, other.reading data = .ok value)
    (refused : declaration.reading data = .error unread) :
    parseFrom data (before ++ declaration :: after) delivered = .error unread := by
  induction before generalizing delivered with
  | nil =>
    have failed : declaration.options.deliver declaration.name (data.named? declaration.name) = .error unread := refused
    rw [List.nil_append, parseFrom, failed]
  | cons first rest ih =>
    obtain ⟨value, success⟩ := earlier first List.mem_cons_self
    have read : first.options.deliver first.name (data.named? first.name) = .ok value := success
    rw [List.cons_append, parseFrom, read]
    exact ih _ fun other member => earlier other (List.mem_cons_of_mem _ member)

-- What becomes of an optional parameter without a default that the data does not give. It is delivered as nothing, or as
-- what nothing is converted to, unless it is refused.
theorem absent_delivered_unless_refused (base : Settings) (parser : Parser) (steps : List ParserStep) (data : Fields)
    (before after : List Declaration) (declaration : Declaration) (created : Parser.new base = .ok parser)
    (split : (parser.run steps).declarations = before ++ declaration :: after) (optional : declaration.options.required = false)
    (nullable : declaration.options.nullable = true) (ungiven : "default" ∉ declaration.options.given)
    (absent : data.named? declaration.name = none) :
    let options := declaration.options
    (∀ value, declaration.reading data = .ok value ↔ options.Allows .null ∧ options.Converts .null value) ∧
    (∀ unread, declaration.reading data = .error unread ↔ options.RefusesNull declaration.name unread) ∧
    (∀ unread, options.RefusesNull declaration.name unread →
      (∀ other ∈ before, ∃ value, other.reading data = .ok value) →
      (parser.run steps).parse data = .error unread.failure ∧ Options.Blames declaration.name unread) ∧
    ∀ delivered, (parser.run steps).parse data = .ok delivered → declaration.key ∉ after.map Declaration.key →
      ∃ value, options.Converts .null value ∧ delivered.lookup declaration.key = some value := by
  intro options
  have unused : parser.Read := by
    rw [new_ok base parser created]
    exact fun other member => nomatch member
  obtain ⟨settings, read⟩ := run_read parser steps unused declaration (by simp [split])
  have empty := Options.default_of_ungiven _ options read ungiven
  have reading : declaration.reading data = options.deliver declaration.name none := by rw [Declaration.reading, absent]
  have delivers : ∀ value, declaration.reading data = .ok value ↔ options.Allows .null ∧ options.Converts .null value := by
    intro value
    rw [reading]
    exact options.deliver_absent_ok_iff declaration.name value optional nullable empty
  have refuses : ∀ unread, declaration.reading data = .error unread ↔ options.RefusesNull declaration.name unread := by
    intro unread
    rw [reading]
    exact options.deliver_absent_error_iff declaration.name unread optional nullable empty
  refine ⟨delivers, refuses, ?_, ?_⟩
  · intro unread refused earlier
    have stopped := parse_from_refused data before after declaration [] unread earlier ((refuses unread).mpr refused)
    rw [← split] at stopped
    exact ⟨by rw [parse, stopped], options.refuses_null_blames declaration.name unread refused⟩
  · intro delivered parsed last
    obtain ⟨value, success, found⟩ := delivered_last _ data delivered parsed before after declaration split last
    exact ⟨value, ((delivers value).mp success).2, found⟩

def answers : List Value := [.text (Text.lettersOf "yes"), .text (Text.lettersOf "no")]

def answerForm : List ParserStep := [.declare "answer" [("choices", .data (.list answers))]]

def answer : Declaration := ⟨"answer", { choices := some (.among answers), given := ["choices"] }, true⟩

theorem absent_answer_refused :
    Parser.new [] = .ok {} ∧ (({} : Parser).run answerForm).declarations = [answer] ∧
      (({} : Parser).run answerForm).parse [] = .error (Rejection.failure (.notAmong "answer" .null answers)) := by
  have created : Parser.new [] = .ok {} := rfl
  have split : (({} : Parser).run answerForm).declarations = [] ++ answer :: [] := rfl
  have ungiven : "default" ∉ answer.options.given := by decide
  have refused : answer.options.RefusesNull "answer" (.rejected (.notAmong "answer" .null answers)) :=
    .unlisted answers rfl (by simp [answers])
  obtain ⟨_, _, stops, _⟩ := absent_delivered_unless_refused [] {} answerForm [] [] [] answer created split rfl rfl ungiven rfl
  exact ⟨created, split, (stops _ refused (List.forall_mem_nil _)).1⟩

end Parser
end RestDispatch
