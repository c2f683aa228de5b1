import Mathlib.Data.List.Forall2
import RestDispatch.Proofs.Param.Keys
import RestDispatch.Proofs.Param.Settings

set_option autoImplicit false

/-!
The settings of a parser, which are in force for every parameter that does not override them. They are kept in the form in
which they were read, so each parameter that inherits them reads them again. Main statement: a parser with settings of its own
declares, refuses and parses like one without, to which they are given anew with every parameter, overlaid by its own.
-/
namespace RestDispatch

namespace Options

-- Options with the same values, of which the same were given. In which order they were given is left open.
structure Alike (left right : Options) : Prop where
  values : left = { right with given := left.given }
  given : ∀ name, name ∈ left.given ↔ name ∈ right.given

theorem deliver_alike (left right : Options) (key : String) (data : Option Value) (alike : left.Alike right) :
    left.deliver key data = right.deliver key data := by
  have presented : left.presented key data = right.presented key data := by
    have flags : left.required = right.required ∧ left.default = right.default := by
      rw [alike.values]
      exact ⟨rfl, rfl⟩
    simp only [Options.presented, flags, alike.given]
  rw [deliver, deliver, presented, alike.values]
  rfl

end Options

-- Parameters of one name with alike options. Whether the default is an object shared with others does not tell them apart.
structure Declaration.Alike (left right : Declaration) : Prop where
  name : left.name = right.name
  options : left.options.Alike right.options

theorem Declaration.key_alike (left right : Declaration) (alike : left.Alike right) : left.key = right.key := by
  have dest : left.options.dest = right.options.dest := by rw [alike.options.values]
  rw [key, key, dest, alike.name]

namespace Parser

def Alike (left right : Parser) : Prop := List.Forall₂ Declaration.Alike left.declarations right.declarations

-- What two declarations come to if nothing tells them apart but the order in which options were given: both add alike
-- parameters, or both are refused for the same reason.
inductive Agree : Except DeclareError (Parser × Options) → Except DeclareError (Parser × Options) → Prop
  | declared (left right : Parser) (leftOptions rightOptions : Options) (parsers : left.Alike right)
      (options : leftOptions.Alike rightOptions) : Agree (.ok (left, leftOptions)) (.ok (right, rightOptions))
  | refused (reason : DeclareError) : Agree (.error reason) (.error reason)

theorem names_alike (left right : Parser) (alike : left.Alike right) : left.names = right.names := by
  have related : List.Forall₂ Eq left.names right.names :=
    List.forall₂_map_left_iff.mpr (List.forall₂_map_right_iff.mpr (alike.imp fun _ _ same => same.name))
  exact List.forall₂_eq_eq_eq ▸ related

theorem parse_from_alike (data : Fields) (left right : List Declaration) (delivered : Entries)
    (alike : List.Forall₂ Declaration.Alike left right) : parseFrom data left delivered = parseFrom data right delivered := by
  induction alike generalizing delivered with
  | nil => rfl
  | @cons first other rest others same _ ih =>
    rw [parseFrom, parseFrom, same.name, Options.deliver_alike _ _ _ _ same.options, Declaration.key_alike first other same]
    cases other.options.deliver other.name (data.named? other.name) with
    | error rejection => rfl
    | ok value => exact ih _

theorem parse_alike (left right : Parser) (data : Fields) (alike : left.Alike right) : left.parse data = right.parse data := by
  rw [parse, parse, parse_from_alike data _ _ [] alike]

theorem remove_alike (left right : Parser) (removed : List String) (alike : left.Alike right) :
    (left.remove removed).Alike (right.remove removed) :=
  List.rel_filter (fun _ _ same => by simp only [same.name]) alike

theorem step_base (parser : Parser) (step : ParserStep) : (parser.step step).base = parser.base := by
  cases step with
  | remove removed => rfl
  | declare name settings =>
    rw [Parser.step]
    cases declared : parser.declare name settings with
    | error clash => rfl
    | ok success =>
      obtain ⟨next, options⟩ := success
      obtain ⟨_, _, _, rfl⟩ := declare_ok parser next name settings options declared
      rfl

theorem run_base (parser : Parser) (steps : List ParserStep) : (parser.run steps).base = parser.base := by
  induction steps generalizing parser with
  | nil => rfl
  | cons step rest ih => exact (ih (parser.step step)).trans (step_base parser step)

-- It is the first name among those of the arguments that is refused.
theorem check_names_eq (operation : String) (arguments : List String) (settings : Settings) :
    checkNames operation arguments settings =
      (((settings.filter fun setting => decide (setting.1 ∈ arguments)).head?).map Prod.fst).elim (.ok ())
        fun argument => .error (.givenTwice operation argument) := by
  rw [checkNames, List.head?_filter]
  cases settings.find? fun setting => decide (setting.1 ∈ arguments) <;> rfl

-- Settings under other names than those of the arguments do not matter, wherever they stand.
theorem check_names_overlaid (operation : String) (arguments : List String) (table settings : Settings)
    (unmet : ∀ name ∈ table.map Prod.fst, name ∉ arguments) :
    checkNames operation arguments (putAll table settings) = checkNames operation arguments settings := by
  have under : (table.filter fun setting => decide (setting.1 ∈ arguments)) = [] := by
    refine List.filter_eq_nil_iff.mpr fun setting member => ?_
    simpa using unmet setting.1 (List.mem_map_of_mem member)
  rw [check_names_eq, check_names_eq, filter_put_all_split table settings fun name => decide (name ∈ arguments), under]
  cases settings.filter fun setting => decide (setting.1 ∈ arguments) with
  | nil => rfl
  | cons first rest =>
    obtain ⟨name, setting⟩ := first
    rw [put_all_cons, put, head_key_put_all]
    rfl

-- A parser that keeps what its settings were read as, beside one that keeps none.
structure Beside (options : Options) (left right : Parser) : Prop where
  kept : left.base = options.settings
  plain : right.base = []
  alike : left.Alike right

-- Declared with settings that are kept, or with the same settings given anew.
theorem declare_agrees (defaults settings : Settings) (options : Options) (left right : Parser) (name : String)
    (distinct : (defaults.map Prod.fst).Nodup) (success : Options.read defaults = .ok options) (beside : Beside options left right) :
    Agree (left.declare name settings) (right.declare name (putAll defaults settings)) := by
  have known := (Options.read_as defaults options success).known
  have checked : checkNames "add_param" ["self", "name"] (putAll defaults settings) = checkNames "add_param" ["self", "name"] settings := by
    refine check_names_overlaid _ _ _ _ fun argument member taken => ?_
    have option := (Options.strangers_nil_iff defaults).mp known argument member
    have apart : ∀ argument ∈ ["self", "name"], argument ∉ Options.names := by decide
    exact apart argument taken option
  have anew : putAll [] (putAll defaults settings) = putAll defaults settings :=
    put_all_fresh [] _ (keys_put_all_nodup defaults settings distinct) fun _ _ member => nomatch member
  have overlaid := Options.overlaid_alike _ _ settings (Options.settings_alike defaults options success) known
  have same := Options.read_alike _ _ overlaid
  rw [declare, declare, checked, beside.kept, beside.plain, anew, same, names_alike left right beside.alike]
  cases checkNames "add_param" ["self", "name"] settings with
  | error clash => exact .refused clash
  | ok done =>
    by_cases taken : name ∈ right.names
    · simp only [if_pos taken]
      exact .refused _
    · simp only [if_neg taken]
      cases read : Options.read (putAll defaults settings) with
      | error found => exact .refused _
      | ok made =>
        have given := (Options.read_as _ made read).given
        have alikeOptions : Options.Alike { made with given := (putAll options.settings settings).map Prod.fst } made :=
          ⟨rfl, fun option => by rw [given, overlaid.given]⟩
        cases clash : made.dest.filter (· ∈ right.names) with
        | some dest =>
          simp only [Except.map, clash]
          exact .refused _
        | none =>
          simp only [Except.map, clash]
          exact .declared _ _ _ _ (List.rel_append beside.alike (.cons ⟨rfl, alikeOptions⟩ .nil)) alikeOptions

end Parser

-- The same step with some settings written out in front of a parameter's own.
def ParserStep.writtenOut (defaults : Settings) : ParserStep → ParserStep
  | .declare name settings => .declare name (putAll defaults settings)
  | .remove names => .remove names

namespace Parser

theorem step_beside (defaults : Settings) (options : Options) (left right : Parser) (step : ParserStep)
    (distinct : (defaults.map Prod.fst).Nodup) (success : Options.read defaults = .ok options) (beside : Beside options left right) :
    Beside options (left.step step) (right.step (step.writtenOut defaults)) := by
  refine ⟨(step_base left step).trans beside.kept, (step_base right _).trans beside.plain, ?_⟩
  cases step with
  | remove removed => exact remove_alike left right removed beside.alike
  | declare name settings =>
    have agree := declare_agrees defaults settings options left right name distinct success beside
    rw [ParserStep.writtenOut, Parser.step, Parser.step]
    generalize left.declare name settings = inherited, right.declare name (putAll defaults settings) = given at agree ⊢
    cases agree with
    | declared _ _ _ _ parsers _ => exact parsers
    | refused reason => exact beside.alike

theorem run_beside (defaults : Settings) (options : Options) (left right : Parser) (steps : List ParserStep)
    (distinct : (defaults.map Prod.fst).Nodup) (success : Options.read defaults = .ok options) (beside : Beside options left right) :
    Beside options (left.run steps) (right.run (steps.map (ParserStep.writtenOut defaults))) := by
  induction steps generalizing left right with
  | nil => exact beside
  | cons step rest ih => exact ih _ _ (step_beside defaults options left right step distinct success beside)

-- The settings of a parser, given once, do what they do when they are written out with every parameter: over a whole run, and
-- for one more parameter beside any that were declared before without such settings.
theorem defaults_as_written_out (defaults : Settings) (parser : Parser) (distinct : (defaults.map Prod.fst).Nodup)
    (created : Parser.new defaults = .ok parser) :
    (∀ steps, (parser.run steps).Alike (({} : Parser).run (steps.map (ParserStep.writtenOut defaults)))) ∧
      ∀ steps others, (parser.run steps).Alike (({} : Parser).run others) → ∀ name settings,
        let inheriting := parser.run steps
        let plain := ({} : Parser).run others
        let declaration := ParserStep.declare name settings
        Agree (inheriting.declare name settings) (plain.declare name (putAll defaults settings)) ∧
          ∀ data, (inheriting.step declaration).parse data = (plain.step (declaration.writtenOut defaults)).parse data := by
  obtain ⟨options, success, rfl⟩ := new_read defaults parser created
  have fresh : Beside options { base := options.settings } {} := ⟨rfl, rfl, .nil⟩
  refine ⟨fun steps => (run_beside defaults options _ _ steps distinct success fresh).alike, ?_⟩
  intro steps others alike name settings inheriting plain declaration
  have beside : Beside options inheriting plain := ⟨run_base _ steps, run_base _ others, alike⟩
  have next := step_beside defaults options inheriting plain declaration distinct success beside
  exact ⟨declare_agrees defaults settings options _ _ name distinct success beside, fun data => parse_alike _ _ data next.alike⟩

def firstPage : Settings := [("required", .data (.text (Text.lettersOf "yes"))), ("default", .data (.int 1))]

def pageNumber : ParserStep := .declare "page" [("type", .data (.text (Text.lettersOf "number")))]

-- A required parameter that is not given is delivered with the default that it inherits.
theorem first_page_inherited :
    let parser : Parser := { base := [("default", .data (.int 1)), ("required", .data (.bool true))] }
    (firstPage.map Prod.fst).Nodup ∧ Parser.new firstPage = .ok parser ∧
      (parser.step pageNumber).parse [] = .ok [("page", .int 1)] := by
  intro parser
  have distinct : (firstPage.map Prod.fst).Nodup := by decide
  have created : Parser.new firstPage = .ok parser := rfl
  obtain ⟨_, besides⟩ := defaults_as_written_out firstPage parser distinct created
  have inherited := (besides [] [] .nil "page" [("type", .data (.text (Text.lettersOf "number")))]).2 []
  exact ⟨distinct, created, inherited.trans rfl⟩

end Parser
end RestDispatch
