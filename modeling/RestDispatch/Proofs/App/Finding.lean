import RestDispatch.Proofs.App.Deciding
import RestDispatch.Proofs.App.Strict
import RestDispatch.Proofs.Resource.Construction
import RestDispatch.Proofs.Route.Spelling

set_option autoImplicit false

/-!
Which requests find a resource. Main statement: in whatever state an application without middleware is, a request is
answered as not found exactly if no rule matches its path or the first one that does leads to nothing. Any other request
goes to the resource of the first rule that matches, and its verbs decide.
-/
namespace RestDispatch

theorem Request.of_scope_named (scope : Scope) (channel : Channel) (captures : Entries) (path method : String)
    (routed : scope.path = some path) (named : scope.method = some method) :
    ∃ request, Request.ofScope scope channel captures = .ok request ∧ request.method = Text.upper method := by
  rw [ofScope, named, routed]
  exact ⟨_, rfl, rfl⟩

namespace Registry

theorem find_eq_some_iff (registry : Registry) (path : String) (captures : Captures) (resource : Resource) :
    registry.find? path = some (captures, resource) ↔
      ∃ route, registry.router.table.answering? path = some (captures, route) ∧ route.resource = resource ∧ resource.isNothing = false := by
  rw [find?, Option.filter_eq_some_iff, Router.resolve, Table.resolve_eq_answering, Option.map_eq_some_iff]
  constructor
  · rintro ⟨⟨⟨found, route⟩, answering, same⟩, something⟩
    obtain ⟨rfl, rfl⟩ := Prod.mk.inj same
    exact ⟨route, answering, rfl, by simpa using something⟩
  · rintro ⟨route, answering, rfl, something⟩
    exact ⟨⟨(captures, route), answering, rfl⟩, by simpa using something⟩

theorem find_eq_none_iff (registry : Registry) (path : String) :
    registry.find? path = none ↔
      ∀ captures route, registry.router.table.answering? path = some (captures, route) → route.resource.isNothing = true := by
  constructor
  · intro missing captures route answering
    cases something : route.resource.isNothing with
    | true => rfl
    | false =>
      have found := (registry.find_eq_some_iff path captures route.resource).mpr ⟨route, answering, rfl, something⟩
      rw [missing] at found
      cases found
  · intro nothing
    cases found : registry.find? path with
    | none => rfl
    | some hit =>
      obtain ⟨captures, resource⟩ := hit
      obtain ⟨route, answering, rfl, something⟩ := (registry.find_eq_some_iff path captures resource).mp found
      rw [nothing captures route answering] at something
      cases something

-- Once there is a handler, the request is not answered as not found any more, nor as one with an undefined method.
theorem perform_found (registry : Registry) (resource : Resource) (handler : Handler) (parser : Option Parser) (request : Request) :
    (registry.perform resource handler parser request).1 ≠ .ok .notFound ∧
      ∀ method, (registry.perform resource handler parser request).1 ≠ .ok (.undefinedMethod method) := by
  cases collected : handler.signature.collect handler.signature.models parser request with
  | mk result later =>
    cases result with
    | error refusal =>
      rw [registry.perform_refused _ _ _ _ refusal (by rw [collected])]
      cases refusal <;> simp [Refusal.answer]
    | ok arguments =>
      rw [registry.perform_called _ _ _ _ _ _ collected]
      cases (registry.outcome resource handler arguments later).result with
      | error silence =>
        cases silence with
        | endless => simp [Answer.ofResult]
        | raised fault => cases stops : fault.stops <;> simp [Answer.ofResult, stops]
      | ok reply =>
        cases reply with
        | response own => simp [Answer.ofResult]
        | content c => cases body : Answer.successBody c <;> simp [Answer.ofResult, body]

theorem allowed_iff (registry : Registry) (resource : Resource) (endpoint : Endpoint) (verb : Verb)
    (present : registry.endpoint? resource = some endpoint) (methods : endpoint.methods = resource.methodTable) :
    verb ∈ registry.allowed resource ↔ ∃ handler, resource.handler? verb = some handler := by
  rw [allowed, present, ← Option.isSome_iff_exists, ← resource.method_table_lookup, lookup_is_some_iff, ← methods]

theorem answer_missing_iff (registry : Registry) (scope : Scope) (channel : Channel) (path method : String) (routed : scope.path = some path)
    (named : scope.method = some method)
    (served : ∀ captures resource, registry.find? path = some (captures, resource) → ∃ endpoint, registry.endpoint? resource = some endpoint) :
    (registry.answer scope channel).1 = .ok .notFound ↔ registry.find? path = none := by
  rcases registry.answer_cases scope channel path method routed named served with
    ⟨missed, missing⟩ | ⟨captures, resource, found, _, refused⟩ | ⟨resource, handler, parser, request, reached, _⟩
  · simp [missed, missing]
  · simp [found, refused]
  · obtain ⟨_, captures, _, _, routed', found, _⟩ := id reached
    obtain rfl := Option.some.inj (routed.symm.trans routed')
    rw [registry.answer_reached scope channel resource handler parser request reached]
    simp [found, (registry.perform_found resource handler parser request).1]

end Registry

namespace Answer

theorem response_status (debug : Bool) (answer : Answer) (response : Response) (made : answer.response debug = .ok response) :
    response.status = answer.status := by
  cases answer with
  | notFound => exact (envelope_ok 404 _ response made).1
  | undefinedMethod method => exact (envelope_ok 400 _ response made).1
  | unsupportedBody => exact (envelope_ok 403 _ response made).1
  | badParameter code message => exact (envelope_ok 400 _ response made).1
  | badModel report => exact (envelope_ok 400 _ response made).1
  | failed fault => exact (envelope_ok 500 _ response made).1
  | success body => exact (Except.ok.inj made) ▸ rfl
  | custom own => exact (Except.ok.inj made) ▸ rfl

theorem send_ok (debug : Bool) (answer : Answer) :
    Dispatcher.send debug (.ok answer) = ((answer.response debug).bind Response.messages).mapError .raised := rfl

theorem send_response (debug : Bool) (answer : Answer) (status : Int) (headers : List (Bytes × Bytes)) (body : Bytes)
    (sent : Dispatcher.send debug (.ok answer) = .ok [.start status headers, .body body]) :
    ∃ response, answer.response debug = .ok response ∧ response.status = status ∧ response.body = body := by
  obtain ⟨response, made, written⟩ := (send_eq_ok debug answer _).mp sent
  obtain ⟨mediaType, _, framed⟩ := (bind_eq_ok _ _ _).mp written
  obtain ⟨own, _, same⟩ := (bind_eq_ok _ _ _).mp framed
  simp only [Except.ok.injEq, List.cons.injEq, Message.start.injEq, Message.body.injEq] at same
  exact ⟨response, made, same.1.1, same.2.1⟩

theorem send_status (debug : Bool) (answer : Answer) (status : Int) (headers : List (Bytes × Bytes)) (body : Bytes)
    (sent : Dispatcher.send debug (.ok answer) = .ok [.start status headers, .body body]) : status = answer.status := by
  obtain ⟨response, made, same, _⟩ := send_response debug answer status headers body sent
  exact same.symm.trans (response_status debug answer response made)

theorem send_complete (debug : Bool) (answer : Answer) (coded : ∀ code message, answer ≠ .badParameter code message)
    (writable : answer.writable debug = true) : Delivery.Complete (Dispatcher.send debug (.ok answer)) := by
  rcases send_cases debug answer (fun code message same => absurd same (coded code message)) with ⟨_, complete⟩ | ⟨unwritable, _⟩
  · exact complete
  · rw [writable] at unwritable
    cases unwritable

end Answer

-- What comes of a request for a path, and what is delivered.
structure Registry.Finds (registry : Registry) (debug : Bool) (scope : Scope) (channel : Channel) (path method : String)
    (delivery : Delivery) : Prop where
  sent : delivery = Dispatcher.send debug (registry.answer scope channel).1
  unmatched : registry.router.table.answering? path = none ↔
    ∀ route ∈ registry.router.table, route.rule.match? (splitPath path) = none
  matched : ∀ captures route, registry.router.table.answering? path = some (captures, route) ↔
    route ∈ registry.router.table ∧ route.rule.match? (splitPath path) = some captures ∧
      ∀ other ∈ registry.router.table, other.index < route.index → other.rule.match? (splitPath path) = none
  missing : (registry.answer scope channel).1 = .ok .notFound ↔
    ∀ captures route, registry.router.table.answering? path = some (captures, route) → route.resource.isNothing = true
  envelope : (registry.answer scope channel).1 = .ok .notFound →
    Delivery.Complete delivery ∧
      delivery = ((Answer.envelope 404 [("message", .text "This url does not have a corresponding resource")]).bind
        Response.messages).mapError .raised
  only : ∀ headers body, delivery = .ok [.start 404 headers, .body body] →
    (registry.answer scope channel).1 = .ok .notFound ∨ ∃ own, (registry.answer scope channel).1 = .ok (.custom own)
  unserved : ∀ captures route, registry.router.table.answering? path = some (captures, route) → route.resource.isNothing = false →
    (∀ verb, verb.name = Text.upper method → route.resource.handler? verb = none) →
    registry.answer scope channel = (.ok (.undefinedMethod (Text.upper method)), registry) ∧
      delivery = ((Answer.envelope 400 (Answer.errorEntries [("message",
        .text (Text.lower (Text.upper method) ++ " method is undefined."))])).bind Response.messages).mapError .raised ∧
      (Text.holdsHalf (Text.lower (Text.upper method)) = false → Delivery.Complete delivery)
  served : ∀ captures route verb handler, registry.router.table.answering? path = some (captures, route) →
    route.resource.isNothing = false → verb.name = Text.upper method → route.resource.handler? verb = some handler →
    ∃ request, registry.Reaches scope channel route.resource handler (registry.boundParser route.resource verb) request ∧
      registry.answer scope channel = registry.perform route.resource handler (registry.boundParser route.resource verb) request

namespace Registry

section
variable (made : List Resource) (registry : Registry) (scope : Scope) (channel : Channel) (path method : String)
  (sound : Sound made registry) (captures : Captures) (route : Route Resource)
  (answering : registry.router.table.answering? path = some (captures, route))
include sound answering

theorem answering_endpoint : ∃ endpoint, registry.endpoint? route.resource = some endpoint ∧ endpoint.methods = route.resource.methodTable :=
  sound.served route ((registry.router.table.answering_eq_some_iff path captures route sound.table).mp answering).1

variable (routed : scope.path = some path) (named : scope.method = some method) (something : route.resource.isNothing = false)
include routed named something

theorem answer_unserved (silent : ∀ verb, verb.name = Text.upper method → route.resource.handler? verb = none) :
    registry.answer scope channel = (.ok (.undefinedMethod (Text.upper method)), registry) := by
  obtain ⟨endpoint, present, methods⟩ := registry.answering_endpoint made path sound captures route answering
  have found := (registry.find_eq_some_iff path captures route.resource).mpr ⟨route, answering, rfl, something⟩
  obtain ⟨request, made, upper⟩ := Request.of_scope_named scope channel _ path method routed named
  have unserved : ∀ verb ∈ registry.allowed route.resource, verb.name ≠ request.method := by
    intro verb inside same
    obtain ⟨handler, serves⟩ := (registry.allowed_iff route.resource endpoint verb present methods).mp inside
    rw [silent verb (same.trans upper)] at serves
    cases serves
  rw [← upper, ← registry.serve_unserved captures route.resource scope channel endpoint request present made unserved]
  simp only [answer, routed, found]

theorem answer_served (verb : Verb) (handler : Handler) (upper : verb.name = Text.upper method)
    (serves : route.resource.handler? verb = some handler) :
    ∃ request, registry.Reaches scope channel route.resource handler (registry.boundParser route.resource verb) request ∧
      registry.answer scope channel = registry.perform route.resource handler (registry.boundParser route.resource verb) request := by
  obtain ⟨endpoint, present, methods⟩ := registry.answering_endpoint made path sound captures route answering
  have found := (registry.find_eq_some_iff path captures route.resource).mpr ⟨route, answering, rfl, something⟩
  have handled : endpoint.methods.lookup verb = some handler := by
    rw [methods, route.resource.method_table_lookup, serves]
  obtain ⟨request, made, spelled⟩ := Request.of_scope_named scope channel _ path method routed named
  have verbal : Verb.named? request.method = some verb := by
    rw [spelled, ← upper, Verb.named_name]
  have reached : registry.Reaches scope channel route.resource handler (registry.boundParser route.resource verb) request :=
    ⟨path, captures, endpoint, verb, routed, found, present, made, verbal, handled,
      registry.bound_parser_of_endpoint route.resource endpoint verb present⟩
  exact ⟨request, reached, registry.answer_reached scope channel route.resource handler _ request reached⟩

end

theorem sound_finds (made : List Resource) (registry : Registry) (debug : Bool) (scope : Scope) (channel : Channel)
    (path method : String) (routed : scope.path = some path) (named : scope.method = some method) (sound : Sound made registry) :
    registry.Finds debug scope channel path method (Dispatcher.send debug (registry.answer scope channel).1) := by
  constructor
  case sent => rfl
  case unmatched =>
    rw [Table.answering?, List.findSome?_eq_none_iff]
    simp only [Option.map_eq_none_iff]
  case matched => exact fun captures route => registry.router.table.answering_eq_some_iff path captures route sound.table
  case missing =>
    rw [registry.answer_missing_iff scope channel path method routed named (find_endpoint made registry sound path),
      registry.find_eq_none_iff]
  case envelope =>
    intro missing
    rw [missing]
    refine ⟨Answer.send_complete debug .notFound (fun _ _ => Answer.noConfusion) rfl, ?_⟩
    rw [Answer.send_ok, Answer.response]
  case only =>
    intro headers body sent
    cases answered : (registry.answer scope channel).1 with
    | error fault =>
      rw [answered] at sent
      cases sent
    | ok answer =>
      rw [answered] at sent
      have status := Answer.send_status debug answer 404 headers body sent
      cases answer with
      | notFound => exact Or.inl rfl
      | custom own => exact Or.inr ⟨own, rfl⟩
      | _ => exact absurd status (by simp [Answer.status])
  case unserved =>
    intro captures route answering something silent
    have answered := registry.answer_unserved made scope channel path method sound captures route answering routed named something silent
    rw [answered]
    refine ⟨rfl, ?_, fun whole => Answer.send_complete debug _ (fun _ _ => Answer.noConfusion) ?_⟩
    · rw [Answer.send_ok, Answer.response]
    · rw [Answer.writable, whole]
      rfl
  case served =>
    intro captures route verb handler answering something upper serves
    exact registry.answer_served made scope channel path method sound captures route answering routed named something verb handler upper
      serves

end Registry

namespace AppState

theorem request_finds (strict debug : Bool) (started : List (String × Nat)) (steps : List AppStep)
    (plain : ∀ step ∈ steps, step.Plain) (scope : Scope) (channel : Channel) (path method : String) (http : scope.kind = "http")
    (routed : scope.path = some path) (named : scope.method = some method) :
    let state := ((new strict debug started).run steps).2
    state.registry.Finds debug scope channel path method (state.app.call scope channel).2 := by
  intro state
  have bare : App.Bare debug state.app := run_bare debug _ steps plain ⟨rfl, rfl, Or.inl rfl⟩
  have sound : Sound state := run_sound _ steps (fun step member => step.guarded_of_plain (plain step member)) (new_sound strict debug started)
  rw [(App.call_bare debug state.app scope channel bare).2 http]
  exact state.registry.sound_finds state.made debug scope channel path method routed named sound.registry

-- A route to nothing, and a route to a number.
def nothingSteps : List AppStep :=
  [.setup (.hold .null), .setup (.hold (.int 5)), .setup (.add "/nothing" (.made 0) []), .setup (.add "/five" (.made 1) [])]

theorem nothing_is_missing :
    let state := ((new false false []).run nothingSteps).2
    let asked (path : String) : Scope := { method := some "GET", path := some path }
    (∃ route ∈ state.registry.router.table, route.rule.match? (splitPath "/nothing") = some []) ∧
      (state.registry.answer (asked "/nothing") {}).1 = .ok .notFound ∧
      (state.registry.answer (asked "/five") {}).1 = .ok (.undefinedMethod "GET") := by
  intro state asked
  have plain : ∀ step ∈ nothingSteps, step.Plain := by
    intro step member middleware
    simp only [nothingSteps, List.mem_cons, List.not_mem_nil, or_false] at member
    rcases member with rfl | rfl | rfl | rfl <;> exact AppStep.noConfusion
  have answering : state.registry.router.table.answering? "/nothing" =
      some ([], ⟨{ text := "/nothing", segments := [.literal "nothing"] }, .plain 0 .null, 0⟩) := rfl
  have missing : (state.registry.answer (asked "/nothing") {}).1 = .ok .notFound := by
    refine (request_finds false false [] nothingSteps plain (asked "/nothing") {} "/nothing" "GET" rfl rfl rfl).missing.mpr ?_
    intro captures route same
    obtain ⟨_, rfl⟩ := Prod.mk.inj (Option.some.inj (answering.symm.trans same))
    rfl
  have refused := (request_finds false false [] nothingSteps plain (asked "/five") {} "/five" "GET" rfl rfl rfl).unserved [] _ rfl rfl
    fun _ _ => rfl
  have matched : ∃ route ∈ state.registry.router.table, route.rule.match? (splitPath "/nothing") = some [] :=
    ⟨⟨{ text := "/nothing", segments := [.literal "nothing"] }, .plain 0 .null, 0⟩, List.mem_cons_self, rfl⟩
  exact ⟨matched, missing, congrArg Prod.fst refused.1⟩

end AppState
end RestDispatch
