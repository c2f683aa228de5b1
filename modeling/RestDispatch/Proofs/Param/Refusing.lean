import RestDispatch.Proofs.Param.Absent
import Mathlib.Order.WellFounded

set_option autoImplicit false

/-!
How a parse is refused. A parameter passes five stages, and a parse stops at the first stage that fails of the first
parameter that has one. Main statement: what it is refused with names this parameter, has the number of this stage, and has
a cause exactly if a function raised one there, unless the stage cannot be told of: the message would have to show a value
that is hidden or the text of a cause that has none, the choices cannot be compared, or the fault asks the program to stop.
Then something else leaves the parse, which names no parameter.
-/
namespace RestDispatch

namespace Rejection

-- The values that the message of a rejection shows.
def shown : Rejection → List Value
  | .missing _ => []
  | .empty _ => []
  | .wrongType _ _ value => [value]
  | .checkRaised _ value _ => [value]
  | .checkFailed _ value => [value]
  | .notAmong _ value choices => [value, .list choices]
  | .convertRaised _ value _ => [value]

-- A message is written unless it shows a value that is hidden or tells of a cause that has no text.
inductive Words (rejection : Rejection) : Except Fault String → Prop where
  | written (message : String) (visible : ∀ v ∈ rejection.shown, ¬ v.Hidden)
      (told : ∀ cause, rejection.cause? = some cause → cause.mute = none) : Words rejection (.ok message)
  | unshown (fault : Fault) (named : fault = .overlongOutput ∨ fault = .deepOutput) (v : Value) (member : v ∈ rejection.shown)
      (hidden : v.Hidden) : Words rejection (.error fault)
  | mute (cause : Fault) (kind text : String) (origin : rejection.cause? = some cause) (silent : cause.mute = some (kind, text)) :
      Words rejection (.error (.of kind text))

-- The messages that tell of no cause.
theorem words_of_shows (rejection : Rejection) (attempt : Except Fault String) (uncaused : rejection.cause? = none)
    (shows : Value.Shows (∃ v ∈ rejection.shown, v.Hidden) attempt) : rejection.Words attempt := by
  cases shows with
  | given message visible =>
    refine .written message (fun v member hidden => visible ⟨v, member, hidden⟩) fun cause origin => ?_
    rw [uncaused] at origin
    cases origin
  | failed fault named met =>
    obtain ⟨v, member, hidden⟩ := met
    exact .unshown fault named v member hidden

-- The messages that show one value and tell of a cause.
theorem words_of_cause (rejection : Rejection) (value : Value) (cause : Fault) (write : String → String → String)
    (one : rejection.shown = [value]) (caused : rejection.cause? = some cause) :
    rejection.Words (do
      let shown ← value.printed
      let told ← cause.told
      .ok (write shown told)) := by
  have shows := value.printed_shows
  generalize value.printed = attempt at shows ⊢
  cases shows with
  | failed fault named hidden => exact .unshown fault named value (one ▸ List.mem_singleton_self value) hidden
  | given shown visible =>
    rw [Fault.told]
    cases silent : cause.mute with
    | some said => exact .mute cause said.1 said.2 caused silent
    | none =>
      refine .written _ (fun v member => ?_) fun other origin => ?_
      · rw [one, List.mem_singleton] at member
        exact member ▸ visible
      · rw [caused, Option.some.injEq] at origin
        exact origin ▸ silent

theorem message_words (rejection : Rejection) : rejection.Words rejection.message := by
  have alone (v : Value) : v.Hidden ↔ ∃ shown ∈ [v], shown.Hidden := by simp
  cases rejection with
  | missing key => exact words_of_shows _ _ rfl (.given _ fun ⟨_, member, _⟩ => nomatch member)
  | empty key => exact words_of_shows _ _ rfl (.given _ fun ⟨_, member, _⟩ => nomatch member)
  | wrongType key type value => exact words_of_shows _ _ rfl ((value.printed_shows.map _).of_iff (alone value))
  | checkFailed key value => exact words_of_shows _ _ rfl ((value.printed_shows.map _).of_iff (alone value))
  | notAmong key value choices =>
    have either : value.Hidden ∨ (Value.list choices).Hidden ↔ ∃ shown ∈ [value, .list choices], shown.Hidden := by simp
    have shows := value.printed_shows.both (Value.list choices).printed_shows fun shown listed =>
      s!"The {Text.quoted key}: {shown} is not in {listed}."
    exact words_of_shows _ _ rfl (shows.of_iff either)
  | checkRaised key value cause => exact words_of_cause _ value cause _ rfl rfl
  | convertRaised key value cause => exact words_of_cause _ value cause _ rfl rfl

end Rejection

namespace Options

inductive Stage where
  | required
  | nullable
  | type
  | choices
  | convert

namespace Stage

def place : Stage → Nat
  | .required => 0
  | .nullable => 1
  | .type => 2
  | .choices => 3
  | .convert => 4

def code : Stage → Nat
  | .required => 1
  | .nullable => 1
  | .type => 2
  | .choices => 3
  | .convert => 4

end Stage

section
variable (options : Options) (given : Option Value)

-- The value that is looked at. An absent one without a default is looked at as nothing.
def looked : Value := given.getD options.default

def Fails : Stage → Prop
  | .required => given = none ∧ options.required = true ∧ "default" ∉ options.given
  | .nullable => options.nullable = false ∧ (options.looked given = .null ∨ options.looked given = .text [])
  | .type => options.looked given ≠ .null ∧ options.type.admits (options.looked given) = false
  | .choices => ¬ options.Allows (options.looked given)
  | .convert => ∃ f fault, options.convert = some f ∧ f.run (options.tidy (options.looked given)) = .error fault

-- Only the function that checks the choices and the one that converts raise anything.
def Raises (fault : Fault) : Stage → Prop
  | .choices => ∃ check, options.choices = some (.passing check) ∧ check.run (options.looked given) = .error fault
  | .convert => ∃ f, options.convert = some f ∧ f.run (options.tidy (options.looked given)) = .error fault
  | _ => False

-- The value cannot be compared with the choices.
def Uncompared (fault : Fault) : Stage → Prop
  | .choices => ∃ values, options.choices = some (.among values) ∧ (options.looked given).isIn values = .error fault
  | _ => False

-- The values that the message about a failing stage shows.
def shown : Stage → List Value
  | .type => [options.looked given]
  | .choices =>
    match options.choices with
    | some (.among values) => [options.looked given, .list values]
    | _ => [options.looked given]
  | .convert => [options.tidy (options.looked given)]
  | _ => []

structure FailsAt (stage : Stage) : Prop where
  fails : options.Fails given stage
  first : ∀ earlier, earlier.place < stage.place → ¬ options.Fails given earlier

theorem fails_first (stage : Stage) (fails : options.Fails given stage) : ∃ first, options.FailsAt given first := by
  obtain ⟨first, fails, least⟩ := (measure Stage.place).wf.has_min {stage | options.Fails given stage} ⟨stage, fails⟩
  exact ⟨first, fails, fun earlier before met => least earlier met before⟩

-- What each stage refuses a parameter with.
inductive Refuses (key : String) : Stage → Unread → Prop where
  | missing : Refuses key .required (.rejected (.missing key))
  | empty : Refuses key .nullable (.rejected (.empty key))
  | mistyped : Refuses key .type (.rejected (.wrongType key options.type (options.looked given)))
  | unlisted (values : List Value) (offered : options.choices = some (.among values))
      (compared : (options.looked given).isIn values = .ok false) :
      Refuses key .choices (.rejected (.notAmong key (options.looked given) values))
  | uncompared (fault : Fault) (failed : options.Uncompared given fault .choices) : Refuses key .choices (.raised fault)
  | denied (check : Function) (result : Value) (offered : options.choices = some (.passing check))
      (ran : check.run (options.looked given) = .ok result) :
      Refuses key .choices (.rejected (.checkFailed key (options.looked given)))
  | unchecked (check : Function) (fault : Fault) (offered : options.choices = some (.passing check))
      (failed : check.run (options.looked given) = .error fault) (caught : fault.stops = false) :
      Refuses key .choices (.rejected (.checkRaised key (options.looked given) fault))
  | unconverted (f : Function) (fault : Fault) (conversion : options.convert = some f)
      (failed : f.run (options.tidy (options.looked given)) = .error fault) (caught : fault.stops = false) :
      Refuses key .convert (.rejected (.convertRaised key (options.tidy (options.looked given)) fault))
  | stopped (stage : Stage) (fault : Fault) (raised : options.Raises given fault stage) (stops : fault.stops = true) :
      Refuses key stage (.raised fault)

-- A failing stage can be told of: the choices can be compared, what a function raises is caught and has a text, and no value
-- that the message shows is hidden.
structure Tellable (stage : Stage) : Prop where
  compared : ∀ fault, ¬ options.Uncompared given fault stage
  caught : ∀ fault, options.Raises given fault stage → fault.stops = false
  told : ∀ fault, options.Raises given fault stage → fault.mute = none
  visible : ∀ v ∈ options.shown given stage, ¬ v.Hidden

-- What leaves a parse in place of a refusal.
inductive Escapes (stage : Stage) : Fault → Prop where
  | uncompared (fault : Fault) (failed : options.Uncompared given fault stage) (named : fault = .deepComparison)
      (deep : (options.looked given).Reaches Value.nestLimit) : Escapes stage fault
  | stopped (fault : Fault) (raised : options.Raises given fault stage) (stops : fault.stops = true) : Escapes stage fault
  | unshown (fault : Fault) (named : fault = .overlongOutput ∨ fault = .deepOutput) (v : Value)
      (member : v ∈ options.shown given stage) (hidden : v.Hidden) : Escapes stage fault
  | mute (cause : Fault) (kind text : String) (raised : options.Raises given cause stage) (silent : cause.mute = some (kind, text)) :
      Escapes stage (.of kind text)

-- What a parse that stops at a stage reports.
inductive Reports (key : String) (stage : Stage) : ParseFailure → Prop where
  | told (rejection : Rejection) (message : String) (tellable : options.Tellable given stage) (own : rejection.key = key)
      (coded : rejection.code = stage.code) (caused : ∀ fault, rejection.cause? = some fault ↔ options.Raises given fault stage)
      (worded : rejection.message = .ok message) : Reports key stage (.rejected rejection message)
  | escaped (fault : Fault) (untellable : ¬ options.Tellable given stage) (escape : options.Escapes given stage fault) :
      Reports key stage (.raised fault)

section
variable (key : String) (stage : Stage) (rejection : Rejection) (refused : options.Refuses given key stage (.rejected rejection))
include refused

theorem refuses_named : rejection.key = key ∧ rejection.code = stage.code := by
  cases refused <;> exact ⟨rfl, rfl⟩

theorem refuses_caused (fault : Fault) : rejection.cause? = some fault ↔ options.Raises given fault stage := by
  cases refused with
  | missing => simp [Rejection.cause?, Raises]
  | empty => simp [Rejection.cause?, Raises]
  | mistyped => simp [Rejection.cause?, Raises]
  | unlisted values offered compared => simp [Rejection.cause?, Raises, offered]
  | denied check result offered ran => simp [Rejection.cause?, Raises, offered, ran]
  | unchecked check fault offered failed caught => simp [Rejection.cause?, Raises, offered, failed]
  | unconverted f fault conversion failed caught => simp [Rejection.cause?, Raises, conversion, failed]

theorem refuses_caught (fault : Fault) (cause : rejection.cause? = some fault) : fault.stops = false := by
  cases refused with
  | unchecked check other offered failed caught => exact Option.some.inj cause ▸ caught
  | unconverted f other conversion failed caught => exact Option.some.inj cause ▸ caught
  | _ => cases cause

theorem refuses_compared (fault : Fault) : ¬ options.Uncompared given fault stage := by
  cases refused with
  | unlisted values offered compared => simp [Uncompared, offered, compared]
  | denied check result offered ran => simp [Uncompared, offered]
  | unchecked check fault offered failed caught => simp [Uncompared, offered]
  | _ => exact id

theorem refuses_shown : rejection.shown = options.shown given stage := by
  cases refused with
  | unlisted values offered compared => simp only [Rejection.shown, shown, offered]
  | denied check result offered ran => simp only [Rejection.shown, shown, offered]
  | unchecked check fault offered failed caught => simp only [Rejection.shown, shown, offered]
  | _ => rfl

theorem rejected_reports : options.Reports given key stage rejection.failure := by
  obtain ⟨own, coded⟩ := options.refuses_named given key stage rejection refused
  have caused := options.refuses_caused given key stage rejection refused
  have same := options.refuses_shown given key stage rejection refused
  have caught : ∀ fault, options.Raises given fault stage → fault.stops = false := fun fault raised =>
    options.refuses_caught given key stage rejection refused fault ((caused fault).mpr raised)
  have words := rejection.message_words
  rw [Rejection.failure]
  cases worded : rejection.message with
  | ok message =>
    rw [worded] at words
    cases words with
    | written _ visible told =>
      refine .told rejection message ⟨?_, caught, fun fault raised => told fault ((caused fault).mpr raised), ?_⟩ own coded caused worded
      · exact options.refuses_compared given key stage rejection refused
      · rwa [← same]
  | error fault =>
    rw [worded] at words
    cases words with
    | unshown _ named v member hidden =>
      rw [same] at member
      exact .escaped fault (fun tellable => tellable.visible v member hidden) (.unshown fault named v member hidden)
    | mute cause kind text origin silent =>
      have raised := (caused cause).mp origin
      refine .escaped _ (fun tellable => ?_) (.mute cause kind text raised silent)
      have told := tellable.told cause raised
      rw [silent] at told
      cases told

end

theorem raised_reports (key : String) (stage : Stage) (fault : Fault) (refused : options.Refuses given key stage (.raised fault)) :
    options.Reports given key stage (.raised fault) := by
  cases refused with
  | uncompared _ failed =>
    obtain ⟨values, offered, compared⟩ := id failed
    have deep := Value.is_in_fails (options.looked given) values fault compared
    exact .escaped fault (fun tellable => tellable.compared fault failed) (.uncompared fault failed deep.named deep.right)
  | stopped _ _ raised stops =>
    refine .escaped fault (fun tellable => ?_) (.stopped fault raised stops)
    have caught := tellable.caught fault raised
    rw [stops] at caught
    cases caught

theorem refuses_reports (key : String) (stage : Stage) (unread : Unread) (refused : options.Refuses given key stage unread) :
    options.Reports given key stage unread.failure := by
  cases unread with
  | rejected rejection => exact options.rejected_reports given key stage rejection refused
  | raised fault => exact options.raised_reports given key stage fault refused

theorem presented_passed (key : String) (passed : ¬ options.Fails given .required) :
    options.presented key given = .ok (options.looked given) := by
  refine (options.presented_ok_iff key given _).mpr ⟨rfl, fun absent needed => ?_⟩
  exact Decidable.not_not.mp fun unset => passed ⟨absent, needed, unset⟩

theorem presence_passed_iff (key : String) (done : Unit) :
    options.checkPresence key (options.looked given) = .ok done ↔ ¬ options.Fails given .nullable := by
  rw [check_presence_ok_iff, Fails, not_and, not_or]

theorem type_passed_iff (key : String) (done : Unit) :
    options.checkType key (options.looked given) = .ok done ↔ ¬ options.Fails given .type := by
  rw [check_type_ok_iff, Fails, not_and, Bool.not_eq_false, or_iff_not_imp_left]

theorem choices_passed_iff (key : String) (done : Unit) :
    options.checkChoices key (options.looked given) = .ok done ↔ ¬ options.Fails given .choices := by
  rw [check_choices_ok_iff, Fails, not_not]

theorem refuses_caught_fault (key : String) (stage : Stage) (fault : Fault) (rejection : Rejection)
    (raised : options.Raises given fault stage)
    (explained : fault.stops = false → options.Refuses given key stage (.rejected rejection)) :
    options.Refuses given key stage (.caught fault rejection) := by
  rw [Unread.caught]
  split
  case isTrue stops => exact .stopped stage fault raised stops
  case isFalse lives => exact explained (Bool.eq_false_iff.mpr lives)

theorem choices_refused (key : String) (fails : options.Fails given .choices) :
    ∃ unread, options.Refuses given key .choices unread ∧ options.checkChoices key (options.looked given) = .error unread := by
  cases checked : options.checkChoices key (options.looked given) with
  | ok done => exact absurd fails ((options.choices_passed_iff given key done).mp checked)
  | error unread =>
    refine ⟨unread, ?_, rfl⟩
    rcases options.check_choices_error_cases key _ unread checked with
      ⟨values, offered, unlisted, rfl⟩ | ⟨values, fault, offered, failed, rfl⟩ | ⟨check, result, offered, ran, _, rfl⟩ |
      ⟨check, fault, offered, failed, rfl⟩
    · exact .unlisted values offered unlisted
    · exact .uncompared fault ⟨values, offered, failed⟩
    · exact .denied check result offered ran
    · exact options.refuses_caught_fault given key .choices fault _ ⟨check, offered, failed⟩ (.unchecked check fault offered failed)

theorem presence_refused (key : String) (fails : options.Fails given .nullable) :
    options.checkPresence key (options.looked given) = .error (.rejected (.empty key)) := by
  obtain ⟨unnullable, empty⟩ := fails
  have same : ((options.looked given).sameScalar .null || (options.looked given).sameScalar (.text [])) = true := by
    rw [Bool.or_eq_true, Value.same_scalar_null_iff, Value.same_scalar_text_iff]
    exact empty
  rw [checkPresence, unnullable, same]
  rfl

theorem type_refused (key : String) (fails : options.Fails given .type) :
    options.checkType key (options.looked given) = .error (.rejected (.wrongType key options.type (options.looked given))) := by
  obtain ⟨some, mistyped⟩ := fails
  cases value : options.looked given with
  | null => exact absurd value some
  | _ => simp only [checkType, ← value, mistyped, Bool.false_eq_true, if_false]

-- A parameter is refused by the first stage that fails.
theorem deliver_refused (key : String) (stage : Stage) (refused : options.FailsAt given stage) :
    ∃ unread, options.Refuses given key stage unread ∧ options.deliver key given = .error unread := by
  obtain ⟨fails, passed⟩ := refused
  cases stage with
  | required =>
    obtain ⟨rfl, needed, unset⟩ := fails
    refine ⟨_, .missing, ?_⟩
    simp [deliver, presented, needed, unset, Bind.bind, Except.bind]
  | nullable =>
    have present := options.presented_passed given key (passed .required (by decide))
    refine ⟨_, .empty, ?_⟩
    simp only [deliver, present, options.presence_refused given key fails, Bind.bind, Except.bind]
  | type =>
    have present := options.presented_passed given key (passed .required (by decide))
    have filled := (options.presence_passed_iff given key ()).mpr (passed .nullable (by decide))
    refine ⟨_, .mistyped, ?_⟩
    simp only [deliver, present, filled, options.type_refused given key fails, Bind.bind, Except.bind]
  | choices =>
    have present := options.presented_passed given key (passed .required (by decide))
    have filled := (options.presence_passed_iff given key ()).mpr (passed .nullable (by decide))
    have typed := (options.type_passed_iff given key ()).mpr (passed .type (by decide))
    obtain ⟨unread, explained, denied⟩ := options.choices_refused given key fails
    refine ⟨unread, explained, ?_⟩
    simp only [deliver, present, filled, typed, denied, Bind.bind, Except.bind]
  | convert =>
    have present := options.presented_passed given key (passed .required (by decide))
    have filled := (options.presence_passed_iff given key ()).mpr (passed .nullable (by decide))
    have typed := (options.type_passed_iff given key ()).mpr (passed .type (by decide))
    have allowed := (options.choices_passed_iff given key ()).mpr (passed .choices (by decide))
    obtain ⟨f, fault, conversion, failed⟩ := fails
    have explained := options.refuses_caught_fault given key .convert fault _ ⟨f, conversion, failed⟩ (.unconverted f fault conversion failed)
    refine ⟨_, explained, ?_⟩
    simp only [deliver, present, filled, typed, allowed, converted, conversion, failed, Bind.bind, Except.bind]

theorem delivers_iff (key : String) : (∃ value, options.deliver key given = .ok value) ↔ ∀ stage, ¬ options.Fails given stage := by
  constructor
  · rintro ⟨value, delivered⟩ stage fails
    obtain ⟨first, refused⟩ := options.fails_first given stage fails
    obtain ⟨unread, _, stopped⟩ := options.deliver_refused given key first refused
    rw [delivered] at stopped
    cases stopped
  · intro passed
    have converts : ∃ value, options.Converts (options.tidy (options.looked given)) value := by
      cases result : options.converted key (options.tidy (options.looked given)) with
      | ok value => exact ⟨value, (options.converted_ok_iff key _ value).mp result⟩
      | error unread =>
        obtain ⟨f, fault, conversion, failed, _⟩ := (options.converted_error_iff key _ unread).mp result
        exact absurd ⟨f, fault, conversion, failed⟩ (passed .convert)
    obtain ⟨value, converts⟩ := converts
    have filled := (options.presence_passed_iff given key ()).mpr (passed .nullable)
    have typed := (options.type_passed_iff given key ()).mpr (passed .type)
    have allowed := (options.choices_passed_iff given key ()).mpr (passed .choices)
    rw [check_presence_ok_iff] at filled
    rw [check_type_ok_iff] at typed
    rw [check_choices_ok_iff] at allowed
    have present := options.presented_passed given key (passed .required)
    exact ⟨value, (options.deliver_ok_iff key given value).mpr ⟨_, present, ⟨filled, typed, allowed⟩, converts⟩⟩

end

end Options

namespace Declaration

def Fails (declaration : Declaration) (data : Fields) (stage : Options.Stage) : Prop :=
  declaration.options.Fails (data.named? declaration.name) stage

def Reports (declaration : Declaration) (data : Fields) (stage : Options.Stage) (failure : ParseFailure) : Prop :=
  declaration.options.Reports (data.named? declaration.name) declaration.name stage failure

theorem reads_iff (declaration : Declaration) (data : Fields) :
    (∃ value, declaration.reading data = .ok value) ↔ ∀ stage, ¬ declaration.Fails data stage :=
  declaration.options.delivers_iff (data.named? declaration.name) declaration.name

end Declaration

namespace Parser

-- Where a parse stops: the parameters before have passed all their stages, and this stage is the first of its parameter
-- that fails.
structure StopsAt (parser : Parser) (data : Fields) (before : List Declaration) (declaration : Declaration)
    (after : List Declaration) (stage : Options.Stage) : Prop where
  split : parser.declarations = before ++ declaration :: after
  passed : ∀ other ∈ before, ∀ earlier, ¬ other.Fails data earlier
  refused : declaration.options.FailsAt (data.named? declaration.name) stage

theorem first_failing (data : Fields) (declarations : List Declaration) :
    (∀ declaration ∈ declarations, ∀ stage, ¬ declaration.Fails data stage) ∨
      ∃ before declaration after stage, declarations = before ++ declaration :: after ∧
        (∀ other ∈ before, ∀ earlier, ¬ other.Fails data earlier) ∧ declaration.Fails data stage := by
  induction declarations with
  | nil => exact Or.inl (List.forall_mem_nil _)
  | cons first rest ih =>
    by_cases fails : ∃ stage, first.Fails data stage
    · obtain ⟨stage, fails⟩ := fails
      exact Or.inr ⟨[], first, rest, stage, rfl, List.forall_mem_nil _, fails⟩
    · have here := not_exists.mp fails
      rcases ih with passed | ⟨before, declaration, after, stage, rfl, passed, fails⟩
      · exact Or.inl (List.forall_mem_cons.mpr ⟨here, passed⟩)
      · exact Or.inr ⟨first :: before, declaration, after, stage, rfl, List.forall_mem_cons.mpr ⟨here, passed⟩, fails⟩

theorem parses_iff (parser : Parser) (data : Fields) :
    (∃ delivered, parser.parse data = .ok delivered) ↔ ∀ declaration ∈ parser.declarations, ∀ stage, ¬ declaration.Fails data stage := by
  simp only [parse_ok_iff, ← Declaration.reads_iff]
  exact ⟨fun ⟨_, read, _⟩ => read, fun read => ⟨_, read, rfl⟩⟩

theorem stops_of_failure (parser : Parser) (data : Fields) (failure : ParseFailure) (failed : parser.parse data = .error failure) :
    ∃ before declaration after stage, parser.StopsAt data before declaration after stage := by
  rcases first_failing data parser.declarations with passed | ⟨before, declaration, after, stage, split, passed, fails⟩
  · obtain ⟨delivered, parsed⟩ := (parses_iff parser data).mpr passed
    rw [parsed] at failed
    cases failed
  · obtain ⟨first, refused⟩ := declaration.options.fails_first _ stage fails
    exact ⟨before, declaration, after, first, split, passed, refused⟩

theorem parse_stopped (parser : Parser) (data : Fields) (before : List Declaration) (declaration : Declaration)
    (after : List Declaration) (stage : Options.Stage) (stops : parser.StopsAt data before declaration after stage) :
    ∃ failure, parser.parse data = .error failure ∧ declaration.Reports data stage failure := by
  obtain ⟨unread, refuses, refused⟩ := declaration.options.deliver_refused _ declaration.name stage stops.refused
  have earlier : ∀ other ∈ before, ∃ value, other.reading data = .ok value := fun other member =>
    (other.reads_iff data).mpr (stops.passed other member)
  have stopped := parse_from_refused data before after declaration [] unread earlier refused
  rw [← stops.split] at stopped
  exact ⟨unread.failure, by rw [parse, stopped], declaration.options.refuses_reports _ declaration.name stage unread refuses⟩

-- What a parse that fails reports, for every parser that declarations and removals lead to. There is a stage where it stops
-- if and only if it does not deliver.
theorem refused_at_first_failure (base : Settings) (parser : Parser) (steps : List ParserStep) (data : Fields)
    (created : Parser.new base = .ok parser) :
    let reached := parser.run steps
    reached.names.Nodup ∧
    ((∃ delivered, reached.parse data = .ok delivered) ↔ ∀ declaration ∈ reached.declarations, ∀ stage, ¬ declaration.Fails data stage) ∧
    (∀ failure, reached.parse data = .error failure →
      ∃ before declaration after stage, reached.StopsAt data before declaration after stage) ∧
    ∀ before declaration after stage, reached.StopsAt data before declaration after stage →
      ∃ failure, reached.parse data = .error failure ∧ declaration.Reports data stage failure := by
  intro reached
  have distinct := (keys_distinct_unless_redirected base parser steps created).1
  exact ⟨distinct, parses_iff reached data, stops_of_failure reached data, parse_stopped reached data⟩

-- A size that has to be a text and is given as the least integer that is too long to be shown.
def sizeForm : List ParserStep := [.declare "size" [("type", .data (.text (Text.lettersOf "string")))]]

def size : Declaration := ⟨"size", { type := .string, given := ["type"] }, true⟩

def hugeSize : Fields := [(Text.lettersOf "size", .int (10 ^ Decimal.digitLimit : Nat))]

theorem huge_size_unnamed :
    Parser.new [] = .ok {} ∧ (({} : Parser).run sizeForm).StopsAt hugeSize [] size [] .type ∧
      ∃ fault, (fault = .overlongOutput ∨ fault = .deepOutput) ∧
        (({} : Parser).run sizeForm).parse hugeSize = .error (.raised fault) := by
  have created : Parser.new [] = .ok {} := rfl
  have stops : (({} : Parser).run sizeForm).StopsAt hugeSize [] size [] .type := by
    refine ⟨rfl, List.forall_mem_nil _, ⟨⟨?_, rfl⟩, fun earlier before => ?_⟩⟩
    · exact fun null => nomatch null
    · cases earlier with
      | required => exact fun fails => nomatch fails.1
      | nullable => exact fun fails => nomatch fails.1
      | type => exact absurd before (by decide)
      | choices => exact absurd before (by decide)
      | convert => exact absurd before (by decide)
  obtain ⟨_, _, _, explains⟩ := refused_at_first_failure [] {} sizeForm hugeSize created
  obtain ⟨failure, failed, reports⟩ := explains [] size [] .type stops
  have long : Value.Overlong (.int (10 ^ Decimal.digitLimit : Nat)) := ⟨_, rfl, by rw [Int.natAbs_natCast]⟩
  have hidden : Value.Hidden (.int (10 ^ Decimal.digitLimit : Nat)) := ⟨0, _, .itself _, Or.inr long⟩
  refine ⟨created, stops, ?_⟩
  cases reports with
  | told rejection message tellable => exact absurd hidden (tellable.visible _ (List.mem_singleton_self _))
  | escaped fault untellable escape =>
    refine ⟨fault, ?_, failed⟩
    cases escape with
    | uncompared _ none => exact none.elim
    | stopped _ none => exact none.elim
    | unshown _ named => exact named
    | mute _ _ _ none => exact none.elim

end Parser
end RestDispatch
