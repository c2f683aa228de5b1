import RestDispatch.Param.Options
import RestDispatch.Text.Blank

set_option autoImplicit false

/-!
Parsers of request parameters. A parser holds declarations in order. Its own settings are in force for
every parameter that does not override them. Parsing checks the parameters one after the other and
stops at the first that fails.
-/
namespace RestDispatch

-- A declared parameter. `inherits` says that its default is the one object of the parser's own settings, which all
-- parameters that inherit it share.
structure Declaration where
  name : String
  options : Options
  inherits : Bool

def Declaration.key (declaration : Declaration) : String :=
  match declaration.options.dest with
  | some dest => if dest = "" then declaration.name else dest
  | none => declaration.name

structure Parser where
  base : Settings := []
  declarations : List Declaration := []

inductive DeclareError where
  | givenTwice (operation argument : String)
  | nameTaken (name : String)
  | destTaken (name dest : String)
  | invalid (problems : List SettingProblem)
deriving DecidableEq, Repr

def DeclareError.message : DeclareError → String
  | .givenTwice operation argument =>
    s!"Parser.{operation}() got multiple values for argument '{argument}'"
  | .nameTaken name => s!"The parameter name: {Text.quoted name} already exists."
  | .destTaken name dest =>
    s!"The parameter name: {Text.quoted name}, dest: {Text.quoted dest} already exists."
  | .invalid _ => "ParamOptions"

inductive Rejection where
  | missing (key : String)
  | empty (key : String)
  | wrongType (key : String) (type : ParamType) (value : Value)
  | checkRaised (key : String) (value : Value) (fault : Fault)
  | checkFailed (key : String) (value : Value)
  | notAmong (key : String) (value : Value) (choices : List Value)
  | convertRaised (key : String) (value : Value) (fault : Fault)

namespace Rejection

def key : Rejection → String
  | .missing key => key
  | .empty key => key
  | .wrongType key _ _ => key
  | .checkRaised key _ _ => key
  | .checkFailed key _ => key
  | .notAmong key _ _ => key
  | .convertRaised key _ _ => key

def code : Rejection → Nat
  | .missing _ => 1
  | .empty _ => 1
  | .wrongType _ _ _ => 2
  | .checkRaised _ _ _ => 3
  | .checkFailed _ _ => 3
  | .notAmong _ _ _ => 3
  | .convertRaised _ _ _ => 4

def cause? : Rejection → Option Fault
  | .checkRaised _ _ fault => some fault
  | .convertRaised _ _ fault => some fault
  | _ => none

-- The message of a rejection. The value is shown first, then what stands after it in the message.
def message : Rejection → Except Fault String
  | .missing key => .ok s!"The {Text.quoted key} parameter is required."
  | .empty key => .ok s!"The {Text.quoted key} parameter may not be empty."
  | .wrongType key type value =>
    value.printed.map fun shown =>
      s!"The {Text.quoted key} parameter must be of type {type.name}, got {shown}."
  | .checkRaised key value fault => do
    let shown ← value.printed
    let told ← fault.told
    .ok s!"The choices check for {Text.quoted key}: {shown} raised an error: {told}."
  | .checkFailed key value =>
    value.printed.map fun shown => s!"The choices check for {Text.quoted key}: {shown} failed."
  | .notAmong key value choices => do
    let shown ← value.printed
    let listed ← (Value.list choices).printed
    .ok s!"The {Text.quoted key}: {shown} is not in {listed}."
  | .convertRaised key value fault => do
    let shown ← value.printed
    let told ← fault.told
    .ok s!"Converting {Text.quoted key}: {shown} raised an error: {told}."

end Rejection

-- Why a parameter cannot be read: it is rejected, or something else is raised where its value is looked at.
inductive Unread where
  | rejected (rejection : Rejection)
  | raised (fault : Fault)

-- A parse fails with a rejection and its message, or with something that was raised in its place.
inductive ParseFailure where
  | rejected (rejection : Rejection) (message : String)
  | raised (fault : Fault)

def Rejection.failure (rejection : Rejection) : ParseFailure :=
  match rejection.message with
  | .ok message => .rejected rejection message
  | .error fault => .raised fault

def Unread.failure : Unread → ParseFailure
  | .rejected rejection => rejection.failure
  | .raised fault => .raised fault

-- What a fault of a function comes to that a value is given to. One that asks the program to stop is not caught.
def Unread.caught (fault : Fault) (rejection : Rejection) : Unread :=
  if fault.stops then .raised fault else .rejected rejection

namespace Parser

-- Settings may not have the names of the arguments that an operation is given anyway.
def checkNames (operation : String) (arguments : List String) (settings : Settings) :
    Except DeclareError Unit :=
  match settings.find? fun setting => setting.1 ∈ arguments with
  | some (argument, _) => .error (.givenTwice operation argument)
  | none => .ok ()

-- Settings are read when they are given, and kept for the parameters in the form in which they were read.
def new (base : Settings) : Except DeclareError Parser := do
  checkNames "__init__" ["self"] base
  match Options.read base with
  | .error found => .error (.invalid found)
  | .ok options => .ok { base := options.settings, declarations := [] }

def names (parser : Parser) : List String := parser.declarations.map (·.name)

def declare (parser : Parser) (name : String) (settings : Settings) :
    Except DeclareError (Parser × Options) := do
  checkNames "add_param" ["self", "name"] settings
  if name ∈ parser.names then .error (.nameTaken name)
  else match Options.read (putAll parser.base settings) with
    | .error found => .error (.invalid found)
    | .ok options =>
      match options.dest.filter (· ∈ parser.names) with
      | some dest => .error (.destTaken name dest)
      | none =>
        let inherits := (settings.lookup "default").isNone
        .ok ({ parser with declarations := parser.declarations ++ [⟨name, options, inherits⟩] }, options)

-- Forgets parameters; names that are not declared are passed over.
def remove (parser : Parser) (names : List String) : Parser :=
  { parser with declarations := parser.declarations.filter (·.name ∉ names) }

end Parser

namespace Options

-- The value that is looked at: the one given, else the default. A parameter that is required has to be given unless
-- a default was set.
def presented (options : Options) (key : String) (given : Option Value) : Except Unread Value :=
  match given with
  | some value => .ok value
  | none =>
    if options.required && "default" ∉ options.given then .error (.rejected (.missing key)) else .ok options.default

-- Nothing and the empty text hold no other values, so no comparison with them goes deep.
def checkPresence (options : Options) (key : String) (value : Value) : Except Unread Unit :=
  if !options.nullable && (value.sameScalar .null || value.sameScalar (.text [])) then .error (.rejected (.empty key))
  else .ok ()

def checkType (options : Options) (key : String) (value : Value) : Except Unread Unit :=
  match value with
  | .null => .ok ()
  | value => if options.type.admits value then .ok () else .error (.rejected (.wrongType key options.type value))

def checkChoices (options : Options) (key : String) (value : Value) : Except Unread Unit :=
  match options.choices with
  | none => .ok ()
  | some (.among values) =>
    match value.isIn values with
    | .error fault => .error (.raised fault)
    | .ok listed => if listed then .ok () else .error (.rejected (.notAmong key value values))
  | some (.passing check) =>
    match check.run value with
    | .error fault => .error (.caught fault (.checkRaised key value fault))
    | .ok result => if result.truthy then .ok () else .error (.rejected (.checkFailed key value))

def tidy (options : Options) : Value → Value
  | .text t =>
    let t := if options.lowercase then Text.mapRuns Text.lower t else t
    .text (if options.trim then Text.trimBy Text.isBlankLetter t else t)
  | value => value

def converted (options : Options) (key : String) (value : Value) : Except Unread Value :=
  match options.convert with
  | none => .ok value
  | some f =>
    match f.run value with
    | .error fault => .error (.caught fault (.convertRaised key value fault))
    | .ok result => .ok result

-- The value that a parameter delivers: presence, type and choices are checked in this order, then the text is
-- tidied, then the value converted.
def deliver (options : Options) (key : String) (given : Option Value) : Except Unread Value := do
  let value ← options.presented key given
  options.checkPresence key value
  options.checkType key value
  options.checkChoices key value
  options.converted key (options.tidy value)

end Options

namespace Parser

def parseFrom (data : Fields) : List Declaration → Entries → Except Unread Entries
  | [], delivered => .ok delivered
  | declaration :: rest, delivered =>
    match declaration.options.deliver declaration.name (data.named? declaration.name) with
    | .error unread => .error unread
    | .ok value => parseFrom data rest (put declaration.key value delivered)

def parse (parser : Parser) (data : Fields) : Except ParseFailure Entries :=
  match parseFrom data parser.declarations [] with
  | .ok delivered => .ok delivered
  | .error unread => .error unread.failure

end Parser
end RestDispatch
