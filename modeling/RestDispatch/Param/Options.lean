import RestDispatch.Param.Function
import RestDispatch.Text.Case

set_option autoImplicit false

/-!
The options of a request parameter, and how settings given by name are read into them. Settings are
read leniently: truth values may be given as words or as the numbers zero and one.
-/
namespace RestDispatch

inductive ParamType where
  | string
  | number
  | boolean
  | object
  | array
  | any
deriving DecidableEq, Repr

namespace ParamType

def name : ParamType → String
  | .string => "string"
  | .number => "number"
  | .boolean => "boolean"
  | .object => "object"
  | .array => "array"
  | .any => "any"

def all : List ParamType := [.string, .number, .boolean, .object, .array, .any]

def named? (text : String) : Option ParamType := all.find? (·.name = text)

-- Whether a value has the type. A truth value is no number.
def admits : ParamType → Value → Bool
  | .string, .text _ => true
  | .number, .int _ => true
  | .number, .float _ => true
  | .boolean, .bool _ => true
  | .object, .object _ => true
  | .array, .list _ => true
  | .any, _ => true
  | _, _ => false

end ParamType

inductive Choices where
  | among (values : List Value)
  | passing (check : Function)

structure Options where
  default : Value := .null
  required : Bool := false
  nullable : Bool := true
  type : ParamType := .any
  choices : Option Choices := none
  lowercase : Bool := false
  trim : Bool := false
  convert : Option Function := none
  dest : Option String := none
  given : List String := []

inductive Setting where
  | data (v : Value)
  | function (f : Function)

abbrev Settings := List (String × Setting)

inductive SettingProblem where
  | notBoolean (option : String)
  | unreadableBoolean (option : String)
  | notUnicode (option : String)
  | unknownType
  | choicesNotList
  | choicesNotFunction
  | convertNotFunction
  | destNotText
  | unknownOption (name : String)
  | unreadableName
deriving DecidableEq, Repr

def SettingProblem.location : SettingProblem → String
  | .notBoolean option => option
  | .unreadableBoolean option => option
  | .notUnicode option => option
  | .unknownType => "type"
  | .choicesNotList => "choices.list[any]"
  | .choicesNotFunction => "choices.callable"
  | .convertNotFunction => "convert"
  | .destNotText => "dest"
  | .unknownOption name => name
  | .unreadableName => ""

def SettingProblem.kind : SettingProblem → String
  | .notBoolean _ => "bool_type"
  | .unreadableBoolean _ => "bool_parsing"
  | .notUnicode _ => "string_unicode"
  | .unknownType => "literal_error"
  | .choicesNotList => "list_type"
  | .choicesNotFunction => "callable_type"
  | .convertNotFunction => "callable_type"
  | .destNotText => "string_type"
  | .unknownOption _ => "extra_forbidden"
  | .unreadableName => "string_unicode"

inductive Truth where
  | read (b : Bool)
  | unreadable
  | notUnicode
  | noTruth
deriving DecidableEq, Repr

def falseWords : List String := ["0", "off", "f", "false", "n", "no"]

def trueWords : List String := ["1", "on", "t", "true", "y", "yes"]

-- Zero and one have a truth value; another number only looks like one if it fits into a word.
def numberTruth (i : Int) : Truth :=
  if i = 0 then .read false else if i = 1 then .read true else if Decimal.fitsWord i then .unreadable else .noTruth

def Value.truth : Value → Truth
  | .bool b => .read b
  | .int i => numberTruth i
  | .float x => if Decimal.isWordFloat x then numberTruth (Decimal.truncate x) else .noTruth
  | .text t =>
    match Text.chars? t with
    | none => .notUnicode
    | some cs =>
      let word := String.ofList (cs.map Char.toLower)
      if word ∈ falseWords then .read false else if word ∈ trueWords then .read true else .unreadable
  | _ => .noTruth

namespace Options

def names : List String :=
  ["default", "required", "nullable", "type", "choices", "lowercase", "trim", "convert", "dest"]

abbrev Reading (α : Type) := Except (List SettingProblem) α

def readBoolean (settings : Settings) (option : String) (absent : Bool) : Reading Bool :=
  match settings.lookup option with
  | none => .ok absent
  | some (.function _) => .error [.notBoolean option]
  | some (.data v) =>
    match v.truth with
    | .read b => .ok b
    | .unreadable => .error [.unreadableBoolean option]
    | .notUnicode => .error [.notUnicode option]
    | .noTruth => .error [.notBoolean option]

def readType (settings : Settings) : Reading ParamType :=
  match settings.lookup "type" with
  | none => .ok .any
  | some (.data (.text t)) =>
    match Text.chars? t, ParamType.named? (Text.held t) with
    | none, _ => .error [.notUnicode "type"]
    | some _, some type => .ok type
    | some _, none => .error [.unknownType]
  | some _ => .error [.unknownType]

def readChoices (settings : Settings) : Reading (Option Choices) :=
  match settings.lookup "choices" with
  | none => .ok none
  | some (.data .null) => .ok none
  | some (.data (.list values)) => .ok (some (.among values))
  | some (.function check) => .ok (some (.passing check))
  | some (.data _) => .error [.choicesNotList, .choicesNotFunction]

def readConvert (settings : Settings) : Reading (Option Function) :=
  match settings.lookup "convert" with
  | none => .ok none
  | some (.data .null) => .ok none
  | some (.function f) => .ok (some f)
  | some (.data _) => .error [.convertNotFunction]

def readDest (settings : Settings) : Reading (Option String) :=
  match settings.lookup "dest" with
  | none => .ok none
  | some (.data .null) => .ok none
  | some (.data (.text t)) => .ok (some (Text.held t))
  | some _ => .error [.destNotText]

def readDefault (settings : Settings) : Value :=
  match settings.lookup "default" with
  | some (.data v) => v
  | some (.function f) => f.value
  | none => .null

def strangers (settings : Settings) : List SettingProblem :=
  (settings.filter fun setting => setting.1 ∉ names).map fun setting => .unknownOption setting.1

def hasUnreadableName (settings : Settings) : Bool := settings.any fun setting => Text.holdsHalf setting.1

def problems {α : Type} : Reading α → List SettingProblem
  | .ok _ => []
  | .error found => found

-- The options that settings give. All problems are reported, option by option, strangers last; a name that cannot
-- be read is the only problem then.
def read (settings : Settings) : Except (List SettingProblem) Options :=
  let required := readBoolean settings "required" false
  let nullable := readBoolean settings "nullable" true
  let type := readType settings
  let choices := readChoices settings
  let lowercase := readBoolean settings "lowercase" false
  let trim := readBoolean settings "trim" false
  let convert := readConvert settings
  let dest := readDest settings
  let found :=
    problems required ++ problems nullable ++ problems type ++ problems choices ++
      problems lowercase ++ problems trim ++ problems convert ++ problems dest ++ strangers settings
  match required, nullable, type, choices, lowercase, trim, convert, dest, found with
  | .ok required, .ok nullable, .ok type, .ok choices, .ok lowercase, .ok trim, .ok convert, .ok dest, [] =>
    .ok
      { default := readDefault settings, required, nullable, type, choices, lowercase, trim, convert,
        dest, given := settings.map (·.1) }
  | _, _, _, _, _, _, _, _, found => .error (if hasUnreadableName settings then [.unreadableName] else found)

def choicesSetting : Option Choices → Setting
  | none => .data .null
  | some (.among values) => .data (.list values)
  | some (.passing check) => .function check

def convertSetting : Option Function → Setting
  | none => .data .null
  | some f => .function f

def destSetting : Option String → Setting
  | none => .data .null
  | some dest => .data (.text dest)

-- Every option as a setting, in the form in which it was read.
def formed (options : Options) : Settings :=
  [("default", .data options.default), ("required", .data (.bool options.required)),
   ("nullable", .data (.bool options.nullable)), ("type", .data (.text options.type.name)),
   ("choices", choicesSetting options.choices), ("lowercase", .data (.bool options.lowercase)),
   ("trim", .data (.bool options.trim)), ("convert", convertSetting options.convert),
   ("dest", destSetting options.dest)]

-- The settings that were given, in the order of the options.
def settings (options : Options) : Settings := options.formed.filter fun setting => setting.1 ∈ options.given

end Options
end RestDispatch
