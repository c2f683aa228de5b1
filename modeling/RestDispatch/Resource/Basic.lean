import RestDispatch.Handler.Basic

set_option autoImplicit false

/-!
Resources: what stands behind a route. Most are objects of a class, whose methods serve the verbs, which have an order;
every object is known by its class and by its number among the constructions of that class.
-/
namespace RestDispatch

inductive Verb where
  | get
  | post
  | put
  | delete
  | patch
  | head
  | options
deriving DecidableEq, Repr

namespace Verb

def name : Verb → String
  | .get => "GET"
  | .post => "POST"
  | .put => "PUT"
  | .delete => "DELETE"
  | .patch => "PATCH"
  | .head => "HEAD"
  | .options => "OPTIONS"

def methodName : Verb → String
  | .get => "get"
  | .post => "post"
  | .put => "put"
  | .delete => "delete"
  | .patch => "patch"
  | .head => "head"
  | .options => "options"

def all : List Verb := [.get, .post, .put, .delete, .patch, .head, .options]

def named? (text : String) : Option Verb := all.find? (·.name = text)

def carriesBody : Verb → Bool
  | .post => true
  | .put => true
  | .patch => true
  | _ => false

theorem mem_all (verb : Verb) : verb ∈ all := by
  cases verb <;> decide

theorem named_name (verb : Verb) : named? verb.name = some verb := by
  cases verb <;> decide

end Verb

structure ResourceClass where
  name : String
  refusal : Option Fault := none
  attributes : Entries := []
  methods : List (String × Handler) := []

-- An object, or a value that was registered as it is; values are told apart by a token.
inductive Resource where
  | object (cls : ResourceClass) (serial : Nat)
  | plain (token : Nat) (v : Value)

inductive Identity where
  | object (cls : String) (serial : Nat)
  | plain (token : Nat)
deriving DecidableEq, Repr

def lookupParameters : List Parameter :=
  [{ name := "key", kind := .positional }, { name := "default", kind := .positional, default := some .null }]

-- What a method of a built-in class says of arguments that do not bind: it takes none by name.
def Handler.lookupMisfit : BindError → String
  | .missingPositional _ => "get expected at least 1 argument, got 0"
  | _ => "dict.get() takes no keyword arguments"

-- The method that every plain object of keys and values has. It needs a key, and takes it by position only.
def Handler.keyLookup (fields : Fields) : Handler :=
  { label := "dict.get"
    signature := { parameters := lookupParameters }
    misfit := lookupMisfit
    run := fun situation =>
      let argument := fun name => (situation.arguments.named.lookup name).getD (.data .null)
      let found := match argument "key" with
        | .data (.text key) => (fields.lookup key).map Content.data
        | _ => none
      ⟨.ok (.content (found.getD (argument "default"))), situation.items⟩ }

def inspected (methods : List (Verb × Handler)) : Except Fault (List (Verb × Handler)) :=
  match methods.findSome? fun (_, handler) => handler.signature.refusal? with
  | some fault => .error fault
  | none => .ok methods

namespace ResourceClass

def handler? (cls : ResourceClass) (verb : Verb) : Option Handler := cls.methods.lookup verb.methodName

def methodTable (cls : ResourceClass) : List (Verb × Handler) :=
  Verb.all.filterMap fun verb => (cls.handler? verb).map fun handler => (verb, handler)

end ResourceClass

namespace Resource

def identity : Resource → Identity
  | .object cls serial => .object cls.name serial
  | .plain token _ => .plain token

def className : Resource → String
  | .object cls _ => cls.name
  | .plain _ v => v.kindName

-- Whether a resource is nothing: a route to it is never found.
def isNothing : Resource → Bool
  | .plain _ .null => true
  | _ => false

def handler? : Resource → Verb → Option Handler
  | .object cls _, verb => cls.handler? verb
  | .plain _ (.object fields), .get => some (.keyLookup fields)
  | .plain _ _, _ => none

def methodTable (resource : Resource) : List (Verb × Handler) :=
  Verb.all.filterMap fun verb => (resource.handler? verb).map fun handler => (verb, handler)

end Resource
end RestDispatch
