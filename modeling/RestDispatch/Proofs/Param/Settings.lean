import RestDispatch.Param.Options
import RestDispatch.Proofs.Value.Entries

set_option autoImplicit false

/-!
Settings and what is read from them. Every option is read from what stands under its own name, and what was read, given back
as settings, is read as the same options again. Main statement: settings that are read alike, overlaid by the same settings,
are read alike, or refused for the same problems.
-/
namespace RestDispatch

namespace Options

-- A reading that looks at what stands under one name.
def LooksAt {α : Type} (reader : Settings → α) (name : String) : Prop :=
  ∀ left right : Settings, left.lookup name = right.lookup name → reader left = reader right

theorem default_looks : LooksAt readDefault "default" := fun left right same => by rw [readDefault, readDefault, same]

theorem boolean_looks (option : String) (absent : Bool) : LooksAt (readBoolean · option absent) option :=
  fun left right same => by simp only [readBoolean, same]

theorem type_looks : LooksAt readType "type" := fun left right same => by rw [readType, readType, same]

theorem choices_looks : LooksAt readChoices "choices" := fun left right same => by rw [readChoices, readChoices, same]

theorem convert_looks : LooksAt readConvert "convert" := fun left right same => by rw [readConvert, readConvert, same]

theorem dest_looks : LooksAt readDest "dest" := fun left right same => by rw [readDest, readDest, same]

theorem looks_overlaid {α : Type} (reader : Settings → α) (name : String) (looks : LooksAt reader name) (left right settings : Settings)
    (same : reader left = reader right) : reader (putAll left settings) = reader (putAll right settings) := by
  cases found : settings.reverse.lookup name with
  | none =>
    have under : ∀ table : Settings, reader (putAll table settings) = reader table := fun table =>
      looks _ _ (by rw [lookup_put_all, found, Option.none_or])
    rw [under left, under right, same]
  | some setting => exact looks _ _ (by rw [lookup_put_all, lookup_put_all, found, Option.some_or, Option.some_or])

theorem strangers_nil_iff (settings : Settings) : strangers settings = [] ↔ ∀ name ∈ settings.map Prod.fst, name ∈ names := by
  simp [strangers]

theorem strangers_overlaid (table settings : Settings) (known : strangers table = []) :
    strangers (putAll table settings) = strangers (putAll [] settings) := by
  have under : (table.filter fun setting => setting.1 ∉ names) = [] := List.map_eq_nil_iff.mp known
  have split := fun table : Settings => filter_put_all_split table settings fun name => decide (name ∉ names)
  rw [strangers, strangers, split, split, under]
  rfl

-- Settings from which the same options are read, for every option by itself.
structure ReadAlike (left right : Settings) : Prop where
  default : readDefault left = readDefault right
  required : readBoolean left "required" false = readBoolean right "required" false
  nullable : readBoolean left "nullable" true = readBoolean right "nullable" true
  type : readType left = readType right
  choices : readChoices left = readChoices right
  lowercase : readBoolean left "lowercase" false = readBoolean right "lowercase" false
  trim : readBoolean left "trim" false = readBoolean right "trim" false
  convert : readConvert left = readConvert right
  dest : readDest left = readDest right
  strangers : strangers left = strangers right
  given : ∀ name, name ∈ left.map Prod.fst ↔ name ∈ right.map Prod.fst

theorem has_unreadable_name_iff (settings : Settings) :
    hasUnreadableName settings = true ↔ ∃ name ∈ settings.map Prod.fst, Text.holdsHalf name = true := by
  simp [hasUnreadableName]

theorem read_alike (left right : Settings) (alike : ReadAlike left right) :
    read left = (read right).map fun options => { options with given := left.map Prod.fst } := by
  have unreadable : hasUnreadableName left = hasUnreadableName right := by
    rw [Bool.eq_iff_iff, has_unreadable_name_iff, has_unreadable_name_iff]
    simp only [alike.given]
  simp only [read, alike.default, alike.required, alike.nullable, alike.type, alike.choices, alike.lowercase, alike.trim,
    alike.convert, alike.dest, alike.strangers, unreadable]
  split <;> rfl

theorem overlaid_alike (left right settings : Settings) (alike : ReadAlike left right) (known : strangers right = []) :
    ReadAlike (putAll left settings) (putAll right settings) where
  default := looks_overlaid _ _ default_looks left right settings alike.default
  required := looks_overlaid _ _ (boolean_looks _ _) left right settings alike.required
  nullable := looks_overlaid _ _ (boolean_looks _ _) left right settings alike.nullable
  type := looks_overlaid _ _ type_looks left right settings alike.type
  choices := looks_overlaid _ _ choices_looks left right settings alike.choices
  lowercase := looks_overlaid _ _ (boolean_looks _ _) left right settings alike.lowercase
  trim := looks_overlaid _ _ (boolean_looks _ _) left right settings alike.trim
  convert := looks_overlaid _ _ convert_looks left right settings alike.convert
  dest := looks_overlaid _ _ dest_looks left right settings alike.dest
  strangers := by
    rw [strangers_overlaid left settings (alike.strangers.trans known), strangers_overlaid right settings known]
  given name := by rw [mem_keys_put_all, mem_keys_put_all, alike.given]

-- What settings are read as, option by option, if they are read at all.
structure ReadAs (settings : Settings) (options : Options) : Prop where
  default : readDefault settings = options.default
  required : readBoolean settings "required" false = .ok options.required
  nullable : readBoolean settings "nullable" true = .ok options.nullable
  type : readType settings = .ok options.type
  choices : readChoices settings = .ok options.choices
  lowercase : readBoolean settings "lowercase" false = .ok options.lowercase
  trim : readBoolean settings "trim" false = .ok options.trim
  convert : readConvert settings = .ok options.convert
  dest : readDest settings = .ok options.dest
  known : strangers settings = []
  given : options.given = settings.map Prod.fst

theorem read_as (settings : Settings) (options : Options) (success : read settings = .ok options) : ReadAs settings options := by
  rw [read] at success
  split at success
  case h_2 => cases success
  case h_1 found required nullable type choices lowercase trim convert dest requiredOk nullableOk typeOk choicesOk lowercaseOk trimOk
      convertOk destOk none =>
    obtain rfl := Except.ok.inj success
    exact
      { default := rfl, required := requiredOk, nullable := nullableOk, type := typeOk, choices := choicesOk,
        lowercase := lowercaseOk, trim := trimOk, convert := convertOk, dest := destOk,
        known := (List.append_eq_nil_iff.mp none).2, given := rfl }

theorem lookup_settings (options : Options) (name : String) :
    options.settings.lookup name = if name ∈ options.given then options.formed.lookup name else none := by
  have chosen := lookup_filter_keys options.formed (fun name => decide (name ∈ options.given)) name
  simp only [decide_eq_true_eq] at chosen
  exact chosen

theorem mem_settings_keys (options : Options) (name : String) :
    name ∈ options.settings.map Prod.fst ↔ name ∈ options.given ∧ name ∈ names := by
  have formedKeys : options.formed.map Prod.fst = names := rfl
  rw [← lookup_is_some_iff, lookup_settings, ← formedKeys, ← lookup_is_some_iff]
  split <;> simp [*]

-- An option that was given is read again from its form, one that was not is absent again.
theorem settings_read_again {α : Type} (reader : Settings → α) (name : String) (looks : LooksAt reader name) (settings : Settings)
    (options : Options) (given : options.given = settings.map Prod.fst) (form : Setting)
    (listed : options.formed.lookup name = some form) (again : reader [(name, form)] = reader settings) :
    reader options.settings = reader settings := by
  by_cases met : name ∈ options.given
  · rw [← again]
    refine looks _ _ ?_
    rw [lookup_settings, if_pos met, listed, List.lookup_cons_self]
  · refine looks _ _ ?_
    rw [lookup_settings, if_neg met]
    rw [given] at met
    exact ((lookup_eq_none_iff settings name).mpr met).symm

theorem read_boolean_form (option : String) (absent b : Bool) : readBoolean [(option, .data (.bool b))] option absent = .ok b := by
  rw [readBoolean, List.lookup_cons_self]
  rfl

theorem read_type_form (type : ParamType) : readType [("type", .data (.text type.name))] = .ok type := by
  cases type <;> rfl

theorem read_choices_form (choices : Option Choices) : readChoices [("choices", choicesSetting choices)] = .ok choices := by
  rcases choices with _ | ⟨values⟩ | ⟨check⟩ <;> rfl

theorem read_convert_form (convert : Option Function) : readConvert [("convert", convertSetting convert)] = .ok convert := by
  cases convert <;> rfl

theorem read_dest_form (dest : Option String) : readDest [("dest", destSetting dest)] = .ok dest := by
  cases dest with
  | none => rfl
  | some dest => exact congrArg (fun text => Except.ok (some text)) (Text.held_letters_of dest)

theorem settings_alike (settings : Settings) (options : Options) (success : read settings = .ok options) :
    ReadAlike options.settings settings := by
  have was := read_as settings options success
  have known : ∀ name ∈ settings.map Prod.fst, name ∈ names := (strangers_nil_iff settings).mp was.known
  have given : ∀ name, name ∈ options.settings.map Prod.fst ↔ name ∈ settings.map Prod.fst := by
    intro name
    rw [mem_settings_keys, was.given]
    exact and_iff_left_of_imp (known name)
  have again {α : Type} (reader : Settings → α) (name : String) (looks : LooksAt reader name) :=
    settings_read_again reader name looks settings options was.given
  exact
    { default := again _ _ default_looks _ rfl was.default.symm
      required := again _ _ (boolean_looks _ _) _ rfl ((read_boolean_form _ _ _).trans was.required.symm)
      nullable := again _ _ (boolean_looks _ _) _ rfl ((read_boolean_form _ _ _).trans was.nullable.symm)
      type := again _ _ type_looks _ rfl ((read_type_form _).trans was.type.symm)
      choices := again _ _ choices_looks _ rfl ((read_choices_form _).trans was.choices.symm)
      lowercase := again _ _ (boolean_looks _ _) _ rfl ((read_boolean_form _ _ _).trans was.lowercase.symm)
      trim := again _ _ (boolean_looks _ _) _ rfl ((read_boolean_form _ _ _).trans was.trim.symm)
      convert := again _ _ convert_looks _ rfl ((read_convert_form _).trans was.convert.symm)
      dest := again _ _ dest_looks _ rfl ((read_dest_form _).trans was.dest.symm)
      strangers := by
        rw [was.known, strangers_nil_iff]
        exact fun name member => known name ((given name).mp member)
      given }

end Options
end RestDispatch
