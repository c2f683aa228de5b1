import RestDispatch.Handler.Signature
import RestDispatch.Route.Rule
import RestDispatch.Param.Parser
import RestDispatch.Text.Case

set_option autoImplicit false

/-!
The strict check of a handler's signature: there is a result annotation, every parameter has one, and
every parameter that neither the rule nor the parser supplies is a model.
-/
namespace RestDispatch

inductive SignatureProblem where
  | unresolved (fault : Fault)
  | noResult
  | untyped (parameter : String)
  | unsupplied (parameter label : String)
  | unshown (parameter : String) (fault : Fault)
deriving DecidableEq, Repr

namespace SignatureProblem

-- The fault that a problem is instead of being one of the signature: an annotation that stands for nothing, or a label
-- that cannot be written.
def fault? : SignatureProblem → Option Fault
  | .unresolved fault => some fault
  | .unshown _ fault => some fault
  | _ => none

def message (handler method rule : String) : SignatureProblem → String
  | .unresolved fault => fault.text
  | .noResult =>
    s!"\n\nStrict-mode violation in handler '{handler}' [{method} {rule}]\n" ++
      "  Problem: Missing return type annotation.\n" ++
      "  Fix:     Add a return type, e.g. -> dict or -> YourModel.\n"
  | .untyped parameter =>
    s!"\n\nStrict-mode violation in handler '{handler}' [{method} {rule}]\n" ++
      s!"  Problem: Parameter '{parameter}' has no type annotation.\n" ++
      s!"  Fix:     Add a type annotation, e.g. {parameter}: str or {parameter}: YourModel.\n"
  | .unsupplied parameter label =>
    s!"\n\nStrict-mode violation in handler '{handler}' [{method} {rule}]\n" ++
      s!"  Current: {parameter}: {label}\n" ++
      s!"  Problem: Parameter '{parameter}' is neither a url variable, a parser parameter nor a BaseModel subclass.\n" ++
      "  Fix:     Declare it with a Parser, or wrap it in a Pydantic model, " ++
      s!"e.g. {parameter}: {Text.title parameter}Model.\n"
  | .unshown _ fault => fault.text

end SignatureProblem

namespace Signature

def supplied (rule : Rule) (parser : Option Parser) : List String :=
  rule.variableNames ++ (parser.map fun p => p.declarations.map Declaration.key).getD []

def isChecked (p : Parameter) : Bool := p.name ≠ requestName && p.kind ≠ .keywords && p.kind ≠ .rest

def checkParameter (hints : List (String × Hint)) (known : List String) (p : Parameter) :
    Except SignatureProblem Unit :=
  match hints.lookup p.name with
  | none => .error (.untyped p.name)
  | some hint =>
    if p.name ∈ known || hint.model?.isSome then .ok ()
    else
      match hint.label with
      | .ok label => .error (.unsupplied p.name label)
      | .error fault => .error (.unshown p.name fault)

def check (signature : Signature) (rule : Rule) (parser : Option Parser) : Except SignatureProblem Unit :=
  match signature.hints with
  | .error fault => .error (.unresolved fault)
  | .ok hints =>
    if signature.returns.isNone then .error .noResult
    else (signature.parameters.filter isChecked).forM (checkParameter hints (supplied rule parser))

end Signature
end RestDispatch
