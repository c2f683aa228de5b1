import RestDispatch.App.Registry
import RestDispatch.Proofs.Route.Registration
import RestDispatch.Proofs.Value.Entries

set_option autoImplicit false

/-!
What one registration does. Either it fails, and then at most one more construction has been started, or
it stores one route behind the others and the endpoint of its resource. Main statement: there is no third.
-/
namespace RestDispatch

namespace Endpoint

theorem attach_cons_ok (rule method : String) (endpoint next : Endpoint) (id : ParserId) (rest : List (String × ParserId))
    (attached : attach rule endpoint ((method, id) :: rest) = .ok next) :
    ∃ verb, endpoint.served? method = some verb ∧
      attach rule { endpoint with parsers := put verb id endpoint.parsers } rest = .ok next := by
  rw [attach] at attached
  cases served : endpoint.served? method with
  | none => simp [served] at attached
  | some verb => exact ⟨verb, rfl, by simpa [served] using attached⟩

theorem attach_methods (rule : String) (endpoint next : Endpoint) (attachments : List (String × ParserId))
    (attached : attach rule endpoint attachments = .ok next) : next.methods = endpoint.methods := by
  induction attachments generalizing endpoint with
  | nil =>
    obtain rfl := Except.ok.inj attached
    rfl
  | cons attachment rest ih =>
    obtain ⟨verb, _, later⟩ := attach_cons_ok rule attachment.1 endpoint next attachment.2 rest attached
    have same := ih _ later
    exact same

theorem served_methods (endpoint : Endpoint) (method : String) (verb : Verb) (served : endpoint.served? method = some verb) :
    Verb.named? (Text.upper method) = some verb ∧ (endpoint.methods.lookup verb).isSome = true := by
  rw [served?] at served
  exact Option.filter_eq_some_iff.mp served

-- Only verbs that are served get parsers, and only parsers that were given or there before.
theorem attach_parsers (rule : String) (endpoint next : Endpoint) (attachments : List (String × ParserId))
    (attached : attach rule endpoint attachments = .ok next) (entry : Verb × ParserId) (member : entry ∈ next.parsers) :
    entry ∈ endpoint.parsers ∨ ((endpoint.methods.lookup entry.1).isSome = true ∧ ∃ method, (method, entry.2) ∈ attachments) := by
  induction attachments generalizing endpoint with
  | nil =>
    obtain rfl := Except.ok.inj attached
    exact Or.inl member
  | cons attachment rest ih =>
    obtain ⟨method, id⟩ := attachment
    obtain ⟨verb, served, later⟩ := attach_cons_ok rule method endpoint next id rest attached
    rcases ih _ later with before | ⟨known, given, inside⟩
    · rcases mem_of_mem_put endpoint.parsers verb id entry before with rfl | old
      · exact Or.inr ⟨(served_methods endpoint method verb served).2, method, List.mem_cons_self⟩
      · exact Or.inl old
    · exact Or.inr ⟨known, given, List.mem_cons_of_mem _ inside⟩

end Endpoint

namespace Registry

theorem check_handlers_ok_iff (registry : Registry) (rule : Rule) (endpoint : Endpoint) (handlers : List (Verb × Handler)) :
    registry.checkHandlers rule endpoint handlers = .ok () ↔
      ∀ entry ∈ handlers, entry.2.signature.check rule (registry.parserFor endpoint entry.1) = .ok () := by
  induction handlers with
  | nil => simp [checkHandlers]
  | cons entry rest ih =>
    obtain ⟨verb, handler⟩ := entry
    rw [checkHandlers]
    cases checked : handler.signature.check rule (registry.parserFor endpoint verb) with
    | error problem => simp [checked]
    | ok done => simp [checked, ih]

-- What is known of a registration that succeeds: `endpoint` is the endpoint that is stored, `objects` what has been
-- constructed by then.
structure Registered (registry : Registry) (text : String) (target : Target) (attachments : List (String × ParserId))
    (route : Route Resource) (endpoint : Endpoint) (objects : Objects) : Prop where
  compiled : Rule.compile text = .ok route.rule
  fresh : registry.router.table.contains text = false
  placed : route.index = registry.router.table.length
  realized : registry.router.objects.realize target = (.ok route.resource, objects)
  prepared : registry.prepareEndpoint route attachments = .ok endpoint

def afterRoute (registry : Registry) (route : Route Resource) (endpoint : Endpoint) (objects : Objects) : Registry :=
  { registry with
    router := { table := registry.router.table ++ [route], objects }
    endpoints := put route.resource.identity endpoint registry.endpoints }

def withObjects (registry : Registry) (objects : Objects) : Registry :=
  { registry with router := { registry.router with objects } }

-- A registration whose rule is new and whose resource is there depends on the endpoint alone.
theorem register_realized (registry : Registry) (text : String) (target : Target) (attachments : List (String × ParserId))
    (rule : Rule) (resource : Resource) (objects : Objects) (compiled : Rule.compile text = .ok rule)
    (fresh : registry.router.table.contains text = false) (realized : registry.router.objects.realize target = (.ok resource, objects)) :
    registry.register text target attachments =
      match registry.prepareEndpoint ⟨rule, resource, registry.router.table.length⟩ attachments with
      | .error e => (.error e, registry.withObjects objects)
      | .ok endpoint =>
        (.ok ⟨rule, resource, registry.router.table.length⟩,
          registry.afterRoute ⟨rule, resource, registry.router.table.length⟩ endpoint objects) := by
  simp only [register, Router.prepare, compiled, fresh, realized, Bool.false_eq_true, if_false]
  cases registry.prepareEndpoint ⟨rule, resource, registry.router.table.length⟩ attachments with
  | error e => rfl
  | ok endpoint =>
    have textual := Rule.compile_text text rule compiled
    rcases Table.insert_cases registry.router.table ⟨rule, resource, registry.router.table.length⟩ with ⟨again, _⟩ | ⟨_, stored⟩
    · rw [textual, fresh] at again
      cases again
    · simp only [Router.insert, stored]
      rfl

theorem register_cases (registry : Registry) (text : String) (target : Target) (attachments : List (String × ParserId)) :
    (∃ e objects, registry.register text target attachments = (.error e, registry.withObjects objects) ∧
      (objects = registry.router.objects ∨ objects = (registry.router.objects.realize target).2)) ∨
    (∃ route endpoint objects, registry.register text target attachments = (.ok route, registry.afterRoute route endpoint objects) ∧
      registry.Registered text target attachments route endpoint objects) := by
  cases compiled : Rule.compile text with
  | error e => exact Or.inl ⟨.route e, registry.router.objects, by simp only [register, Router.prepare, compiled]; rfl, Or.inl rfl⟩
  | ok rule =>
    cases taken : registry.router.table.contains text with
    | true =>
      refine Or.inl ⟨.route (.duplicatePath text), registry.router.objects, ?_, Or.inl rfl⟩
      simp only [register, Router.prepare, compiled, taken, if_true]
      rfl
    | false =>
      cases realized : registry.router.objects.realize target with
      | mk result objects =>
        cases result with
        | error e =>
          refine Or.inl ⟨.route e, objects, ?_, Or.inr rfl⟩
          simp only [register, Router.prepare, compiled, taken, realized, Bool.false_eq_true, if_false]
          rfl
        | ok resource =>
          rw [register_realized registry text target attachments rule resource objects compiled taken realized]
          cases prepared : registry.prepareEndpoint ⟨rule, resource, registry.router.table.length⟩ attachments with
          | error e => exact Or.inl ⟨e, objects, rfl, Or.inr rfl⟩
          | ok endpoint => exact Or.inr ⟨_, endpoint, objects, rfl, ⟨compiled, taken, rfl, realized, prepared⟩⟩

theorem attach_checked_ok (registry : Registry) (rule : Rule) (before endpoint : Endpoint) (attachments : List (String × ParserId))
    (done : (do let endpoint ← before.attach rule.text attachments
                if registry.strict then registry.checkHandlers rule endpoint endpoint.methods
                .ok endpoint : Except RegisterError Endpoint) = .ok endpoint) :
    before.attach rule.text attachments = .ok endpoint ∧
      (registry.strict = true → registry.checkHandlers rule endpoint endpoint.methods = .ok ()) := by
  cases attached : before.attach rule.text attachments with
  | error e => simp [attached, bind, Except.bind] at done
  | ok next =>
    cases strict : registry.strict with
    | false =>
      simp only [attached, strict, bind, Except.bind, Bool.false_eq_true, if_false, Except.ok.injEq] at done
      exact ⟨by rw [done], by simp⟩
    | true =>
      cases checked : registry.checkHandlers rule next next.methods with
      | error e => simp [attached, strict, checked, bind, Except.bind] at done
      | ok _ =>
        simp only [attached, strict, checked, bind, Except.bind, if_true, Except.ok.injEq] at done
        obtain rfl := done
        exact ⟨rfl, fun _ => checked⟩

-- Where the endpoint of a prepared route comes from.
theorem prepare_endpoint_ok (registry : Registry) (route : Route Resource) (attachments : List (String × ParserId))
    (endpoint : Endpoint) (prepared : registry.prepareEndpoint route attachments = .ok endpoint) :
    ∃ before, (registry.endpoint? route.resource = some before ∨
        registry.endpoint? route.resource = none ∧ before = { methods := route.resource.methodTable }) ∧
      before.attach route.rule.text attachments = .ok endpoint ∧
      (registry.strict = true → registry.checkHandlers route.rule endpoint endpoint.methods = .ok ()) := by
  rw [prepareEndpoint] at prepared
  cases found : registry.endpoint? route.resource with
  | some before =>
    rw [found] at prepared
    exact ⟨before, Or.inl rfl, registry.attach_checked_ok route.rule before endpoint attachments prepared⟩
  | none =>
    rw [found] at prepared
    cases made : Endpoint.ofResource route.resource with
    | error e => simp [made, bind, Except.bind] at prepared
    | ok before =>
      rw [made] at prepared
      refine ⟨before, Or.inr ⟨rfl, ?_⟩, registry.attach_checked_ok route.rule before endpoint attachments prepared⟩
      rw [Endpoint.ofResource, inspected] at made
      generalize List.findSome? _ route.resource.methodTable = refusal at made
      cases refusal with
      | some fault => cases made
      | none => exact (Except.ok.inj made).symm

end Registry
end RestDispatch
