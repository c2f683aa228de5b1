import RestDispatch.Proofs.App.Running
import RestDispatch.Proofs.Resource.Construction

set_option autoImplicit false

/-!
Registries that differ in the numbers of their objects alone. Handlers of objects whose numbers differ must
not look at them. Main statement: such registries answer alike and register alike, and stay such registries.
-/
namespace RestDispatch

-- Another way to number the objects of each class.
structure Renumbering where
  number : String → Nat → Nat
  injective : ∀ cls m n, number cls m = number cls n → m = n

-- A handler that does not look at the number of its object.
def Handler.Blind (handler : Handler) : Prop :=
  ∀ (situation : Situation) (serial : Nat), handler.run { situation with serial } = handler.run situation

namespace Identity

def rename (ρ : Renumbering) : Identity → Identity
  | .object cls serial => .object cls (ρ.number cls serial)
  | .plain token => .plain token

theorem rename_inj (ρ : Renumbering) (a b : Identity) (same : a.rename ρ = b.rename ρ) : a = b := by
  cases a with
  | object cls serial =>
    cases b with
    | object other number =>
      obtain ⟨rfl, equal⟩ := Identity.object.inj same
      rw [ρ.injective cls serial number equal]
    | plain token => cases same
  | plain token =>
    cases b with
    | object other number => cases same
    | plain other => exact same

end Identity

namespace Resource

def rename (ρ : Renumbering) : Resource → Resource
  | .object cls serial => .object cls (ρ.number cls.name serial)
  | .plain token v => .plain token v

def Blind : Resource → Prop
  | .object cls _ => ∀ entry ∈ cls.methods, entry.2.Blind
  | .plain _ _ => True

-- A resource that keeps its number, or whose handlers do not look at it.
def Settled (ρ : Renumbering) (resource : Resource) : Prop := resource.rename ρ = resource ∨ resource.Blind

theorem rename_identity (ρ : Renumbering) (resource : Resource) : (resource.rename ρ).identity = resource.identity.rename ρ := by
  cases resource <;> rfl

theorem rename_method_table (ρ : Renumbering) (resource : Resource) : (resource.rename ρ).methodTable = resource.methodTable := by
  cases resource <;> rfl

theorem rename_is_nothing (ρ : Renumbering) (resource : Resource) : (resource.rename ρ).isNothing = resource.isNothing := by
  cases resource <;> rfl

end Resource

def Route.rename (ρ : Renumbering) (route : Route Resource) : Route Resource := { route with resource := route.resource.rename ρ }

namespace Target

def rename (ρ : Renumbering) : Target → Target
  | .fresh cls => .fresh cls
  | .existing resource => .existing (resource.rename ρ)

-- Whatever number an object of the class gets.
def Settled (ρ : Renumbering) : Target → Prop
  | .fresh cls => ∀ serial, (Resource.object cls serial).Settled ρ
  | .existing resource => resource.Settled ρ

end Target

-- `b` has constructed the objects of `a` and counts on from other numbers.
structure Objects.Renumbered (ρ : Renumbering) (a b : Objects) : Prop where
  kept : b.kept = a.kept.map fun entry => (entry.1.rename ρ, entry.2)
  counts : ∀ cls n, ρ.number cls (a.count cls + n) = b.count cls + n

namespace Objects

theorem construct_renumbered (ρ : Renumbering) (a b : Objects) (cls : ResourceClass) (renumbered : Renumbered ρ a b) :
    (b.construct cls).1 = (a.construct cls).1.map (Resource.rename ρ) ∧ Renumbered ρ (a.construct cls).2 (b.construct cls).2 := by
  have number : ρ.number cls.name (a.count cls.name) = b.count cls.name := renumbered.counts cls.name 0
  constructor
  · rw [construct, construct]
    cases cls.refusal with
    | some fault => rfl
    | none => simp only [Except.map, Resource.rename, number]
  · rw [construct_objects, construct_objects]
    refine ⟨renumbered.kept, fun other n => ?_⟩
    rw [count_after, count_after]
    by_cases same : other = cls.name
    · subst same
      rw [if_pos rfl, if_pos rfl, Nat.add_assoc, renumbered.counts, Nat.add_assoc]
    · rw [if_neg same, if_neg same]
      exact renumbered.counts other n

theorem realize_renumbered (ρ : Renumbering) (a b : Objects) (target : Target) (renumbered : Renumbered ρ a b) :
    (b.realize (target.rename ρ)).1 = (a.realize target).1.map (Resource.rename ρ) ∧
      Renumbered ρ (a.realize target).2 (b.realize (target.rename ρ)).2 := by
  cases target with
  | existing resource => exact ⟨rfl, renumbered⟩
  | fresh cls =>
    obtain ⟨same, after⟩ := construct_renumbered ρ a b cls renumbered
    refine ⟨?_, by rw [Target.rename, realize_fresh, realize_fresh]; exact after⟩
    rw [Target.rename, realize, realize]
    cases madeA : a.construct cls with
    | mk resultA objectsA =>
      cases madeB : b.construct cls with
      | mk resultB objectsB =>
        rw [madeA, madeB] at same
        obtain rfl : resultB = resultA.map (Resource.rename ρ) := same
        cases resultA <;> rfl

theorem keep_renumbered (ρ : Renumbering) (a b : Objects) (identity : Identity) (items : List Content) (renumbered : Renumbered ρ a b) :
    Renumbered ρ (a.keep identity items) (b.keep (identity.rename ρ) items) := by
  refine ⟨?_, renumbered.counts⟩
  have apart : ∀ other ∈ a.kept.map Prod.fst, identity.rename ρ = other.rename ρ → identity = other :=
    fun other _ same => Identity.rename_inj ρ identity other same
  simp only [keep, renumbered.kept, put_rename a.kept (Identity.rename ρ) identity items apart]

theorem items_renumbered (ρ : Renumbering) (a b : Objects) (identity : Identity) (renumbered : Renumbered ρ a b) :
    b.items (identity.rename ρ) = a.items identity := by
  have apart : ∀ other ∈ a.kept.map Prod.fst, identity.rename ρ = other.rename ρ → identity = other :=
    fun other _ same => Identity.rename_inj ρ identity other same
  rw [items, items, renumbered.kept, lookup_rename a.kept (Identity.rename ρ) identity apart]

end Objects

namespace Registry

structure Renumbered (ρ : Renumbering) (a b : Registry) : Prop where
  strict : b.strict = a.strict
  parsers : b.parsers = a.parsers
  table : b.router.table = a.router.table.map (Route.rename ρ)
  endpoints : b.endpoints = a.endpoints.map fun entry => (entry.1.rename ρ, entry.2)
  objects : Objects.Renumbered ρ a.router.objects b.router.objects

variable (ρ : Renumbering) (a b : Registry)

theorem contains_renumbered (text : String) (renumbered : Renumbered ρ a b) :
    b.router.table.contains text = a.router.table.contains text := by
  have texts : (a.router.table.map (Route.rename ρ)).map (·.rule.text) = a.router.table.map (·.rule.text) := by
    rw [List.map_map]
    rfl
  rw [Bool.eq_iff_iff, Table.contains_iff, Table.contains_iff, renumbered.table, texts]

theorem find_renumbered (path : String) (renumbered : Renumbered ρ a b) :
    b.find? path = (a.find? path).map fun hit => (hit.1, hit.2.rename ρ) := by
  have resolved : ∀ table : Table Resource, Table.resolve (table.map (Route.rename ρ)) path =
      (Table.resolve table path).map fun hit => (hit.1, hit.2.rename ρ) := by
    intro table
    induction table with
    | nil => rfl
    | cons route rest ih =>
      simp only [Table.resolve, List.map_cons, List.findSome?_cons, Route.rename] at ih ⊢
      cases route.rule.match? (splitPath path) with
      | some captures => rfl
      | none => exact ih
  rw [find?, find?, Router.resolve, Router.resolve, renumbered.table, resolved]
  cases Table.resolve a.router.table path with
  | none => rfl
  | some hit => simp only [Option.map_some, Option.filter_some, Resource.rename_is_nothing]; split <;> rfl

theorem endpoint_renumbered (resource : Resource) (renumbered : Renumbered ρ a b) :
    b.endpoint? (resource.rename ρ) = a.endpoint? resource := by
  rw [endpoint?, endpoint?, renumbered.endpoints, Resource.rename_identity]
  exact lookup_rename a.endpoints (Identity.rename ρ) resource.identity
    fun other _ same => Identity.rename_inj ρ resource.identity other same

theorem parser_for_renumbered (endpoint : Endpoint) (verb : Verb) (renumbered : Renumbered ρ a b) :
    b.parserFor endpoint verb = a.parserFor endpoint verb := by
  rw [parserFor, parserFor, renumbered.parsers]

theorem keep_renumbered (resource : Resource) (items : List Content) (renumbered : Renumbered ρ a b) :
    Renumbered ρ (a.keep resource.identity items) (b.keep (resource.rename ρ).identity items) := by
  rw [Resource.rename_identity]
  exact
    { strict := renumbered.strict
      parsers := renumbered.parsers
      table := renumbered.table
      endpoints := renumbered.endpoints
      objects := Objects.keep_renumbered ρ _ _ resource.identity items renumbered.objects }

-- A handler that keeps its object's number or does not look at it ends alike.
theorem call_renumbered (resource : Resource) (verb : Verb) (handler : Handler) (arguments : List (String × Content))
    (view : Option RequestView) (served : resource.handler? verb = some handler) (settled : resource.Settled ρ)
    (renumbered : Renumbered ρ a b) :
    handler.call arguments (b.situation (resource.rename ρ) view) = handler.call arguments (a.situation resource view) := by
  have items : b.items (resource.rename ρ).identity = a.items resource.identity := by
    rw [Resource.rename_identity]
    exact Objects.items_renumbered ρ _ _ resource.identity renumbered.objects
  rcases settled with fixed | blind
  · rw [fixed] at items ⊢
    cases resource <;> simp only [situation, items]
  · cases resource with
    | plain token v =>
      have same : b.items (Resource.plain token v).identity = a.items (Resource.plain token v).identity := items
      simp only [Resource.rename, situation, same]
    | object cls serial =>
      have own : handler.Blind := blind _ (mem_of_lookup _ _ _ served)
      have situated : b.situation ((Resource.object cls serial).rename ρ) view =
          { a.situation (.object cls serial) view with serial := ρ.number cls.name serial } := by
        simp only [Resource.rename, situation] at items ⊢
        rw [items]
      rw [situated, Handler.call, Handler.call]
      cases handler.signature.bind arguments with
      | error e => rfl
      | ok bound =>
        simp only []
        rw [own { a.situation (.object cls serial) view with arguments := bound } (ρ.number cls.name serial)]

theorem perform_renumbered (resource : Resource) (verb : Verb) (handler : Handler) (parser : Option Parser) (request : Request)
    (served : resource.handler? verb = some handler) (settled : resource.Settled ρ) (renumbered : Renumbered ρ a b) :
    (b.perform (resource.rename ρ) handler parser request).1 = (a.perform resource handler parser request).1 ∧
      Renumbered ρ (a.perform resource handler parser request).2 (b.perform (resource.rename ρ) handler parser request).2 := by
  rw [perform, perform]
  cases handler.signature.collect handler.signature.models parser request with
  | mk result later =>
    cases result with
    | error refusal => exact ⟨rfl, renumbered⟩
    | ok arguments =>
      have ended := call_renumbered ρ a b resource verb handler arguments
        (if handler.signature.wantsRequest then some later.view else none) served settled renumbered
      simp only [ended]
      exact ⟨trivial, keep_renumbered ρ a b resource _ renumbered⟩

theorem serve_renumbered (captures : Captures) (resource : Resource) (scope : Scope) (channel : Channel)
    (own : ∀ endpoint, a.endpoint? resource = some endpoint → endpoint.methods = resource.methodTable)
    (settled : resource.Settled ρ) (renumbered : Renumbered ρ a b) :
    (b.serve captures (resource.rename ρ) scope channel).1 = (a.serve captures resource scope channel).1 ∧
      Renumbered ρ (a.serve captures resource scope channel).2 (b.serve captures (resource.rename ρ) scope channel).2 := by
  rw [serve, serve, endpoint_renumbered ρ a b resource renumbered]
  cases found : a.endpoint? resource with
  | none => exact ⟨rfl, renumbered⟩
  | some endpoint =>
    generalize Request.ofScope scope channel _ = built
    cases built with
    | error fault => exact ⟨rfl, renumbered⟩
    | ok request =>
      cases named : Verb.named? request.method with
      | none => exact ⟨by simp only [named], by simpa only [named] using renumbered⟩
      | some verb =>
        cases handled : endpoint.methods.lookup verb with
        | none => exact ⟨by simp only [named, handled], by simpa only [named, handled] using renumbered⟩
        | some handler =>
          have served : resource.handler? verb = some handler := by
            rw [← resource.method_table_lookup, ← own endpoint found]
            exact handled
          have performed := perform_renumbered ρ a b resource verb handler (a.parserFor endpoint verb) request served settled renumbered
          simpa only [named, handled, parser_for_renumbered ρ a b endpoint verb renumbered] using performed

theorem answer_renumbered (made : List Resource) (scope : Scope) (channel : Channel) (sound : Sound made a)
    (settled : ∀ route ∈ a.router.table, route.resource.Settled ρ) (renumbered : Renumbered ρ a b) :
    (b.answer scope channel).1 = (a.answer scope channel).1 ∧ Renumbered ρ (a.answer scope channel).2 (b.answer scope channel).2 := by
  rw [answer, answer]
  cases scope.path with
  | none => exact ⟨rfl, renumbered⟩
  | some path =>
    simp only [find_renumbered ρ a b path renumbered]
    cases found : a.find? path with
    | none => exact ⟨rfl, renumbered⟩
    | some hit =>
      obtain ⟨captures, resource⟩ := hit
      obtain ⟨route, stored, rfl⟩ := a.find_stored path captures resource found
      refine serve_renumbered ρ a b captures route.resource scope channel (fun endpoint present => ?_) (settled route stored) renumbered
      obtain ⟨other, same, methods⟩ := sound.served route stored
      exact Option.some.inj (same.symm.trans present) ▸ methods

theorem check_handlers_renumbered (rule : Rule) (endpoint : Endpoint) (handlers : List (Verb × Handler)) (renumbered : Renumbered ρ a b) :
    b.checkHandlers rule endpoint handlers = a.checkHandlers rule endpoint handlers := by
  induction handlers with
  | nil => rfl
  | cons entry rest ih =>
    obtain ⟨verb, handler⟩ := entry
    rw [checkHandlers, checkHandlers, parser_for_renumbered ρ a b endpoint verb renumbered, ih]

theorem prepare_endpoint_renumbered (route : Route Resource) (attachments : List (String × ParserId)) (renumbered : Renumbered ρ a b) :
    b.prepareEndpoint (route.rename ρ) attachments = a.prepareEndpoint route attachments := by
  have same : b.endpoint? (route.rename ρ).resource = a.endpoint? route.resource := endpoint_renumbered ρ a b route.resource renumbered
  have own : Endpoint.ofResource (route.rename ρ).resource = Endpoint.ofResource route.resource := by
    rw [Endpoint.ofResource, Endpoint.ofResource, Route.rename, Resource.rename_method_table]
  have checks : ∀ endpoint : Endpoint, b.checkHandlers (route.rename ρ).rule endpoint endpoint.methods =
      a.checkHandlers route.rule endpoint endpoint.methods :=
    fun endpoint => check_handlers_renumbered ρ a b route.rule endpoint endpoint.methods renumbered
  simp only [prepareEndpoint, same, own, checks, renumbered.strict]
  rfl

theorem objects_renumbered (objectsA objectsB : Objects) (after : Objects.Renumbered ρ objectsA objectsB) (renumbered : Renumbered ρ a b) :
    Renumbered ρ (a.withObjects objectsA) (b.withObjects objectsB) :=
  { strict := renumbered.strict
    parsers := renumbered.parsers
    table := renumbered.table
    endpoints := renumbered.endpoints
    objects := after }

theorem parsers_renumbered (change : List Parser → List Parser) (renumbered : Renumbered ρ a b) :
    Renumbered ρ { a with parsers := change a.parsers } { b with parsers := change b.parsers } :=
  { strict := renumbered.strict
    parsers := by simp only [renumbered.parsers]
    table := renumbered.table
    endpoints := renumbered.endpoints
    objects := renumbered.objects }

theorem after_route_renumbered (route : Route Resource) (endpoint : Endpoint) (objectsA objectsB : Objects)
    (after : Objects.Renumbered ρ objectsA objectsB) (renumbered : Renumbered ρ a b) :
    Renumbered ρ (a.afterRoute route endpoint objectsA) (b.afterRoute (route.rename ρ) endpoint objectsB) := by
  have apart : ∀ other ∈ a.endpoints.map Prod.fst, route.resource.identity.rename ρ = other.rename ρ → route.resource.identity = other :=
    fun other _ same => Identity.rename_inj ρ _ other same
  have identity : (route.rename ρ).resource.identity = route.resource.identity.rename ρ := route.resource.rename_identity ρ
  exact
    { strict := renumbered.strict
      parsers := renumbered.parsers
      table := by simp only [afterRoute, renumbered.table, List.map_append, List.map_cons, List.map_nil]
      endpoints := by
        simp only [afterRoute, identity, renumbered.endpoints]
        exact put_rename a.endpoints (Identity.rename ρ) route.resource.identity endpoint apart
      objects := after }

theorem register_renumbered (text : String) (target : Target) (attachments : List (String × ParserId)) (renumbered : Renumbered ρ a b) :
    (b.register text (target.rename ρ) attachments).1 = (a.register text target attachments).1.map (Route.rename ρ) ∧
      Renumbered ρ (a.register text target attachments).2 (b.register text (target.rename ρ) attachments).2 := by
  obtain ⟨same, after⟩ := Objects.realize_renumbered ρ _ _ target renumbered.objects
  have contains := contains_renumbered ρ a b text renumbered
  have length : b.router.table.length = a.router.table.length := by rw [renumbered.table, List.length_map]
  cases compiled : Rule.compile text with
  | error e => simpa only [register, Router.prepare, compiled] using ⟨rfl, renumbered⟩
  | ok rule =>
    cases taken : a.router.table.contains text with
    | true => simpa only [register, Router.prepare, compiled, contains, taken, if_true] using ⟨rfl, renumbered⟩
    | false =>
      rw [taken] at contains
      cases madeA : a.router.objects.realize target with
      | mk resultA objectsA =>
        cases madeB : b.router.objects.realize (target.rename ρ) with
        | mk resultB objectsB =>
          rw [madeA, madeB] at same after
          obtain rfl : resultB = resultA.map (Resource.rename ρ) := same
          cases resultA with
          | error e =>
            have failed := objects_renumbered ρ a b objectsA objectsB after renumbered
            simp only [register, Router.prepare, compiled, contains, taken, madeA, madeB, Bool.false_eq_true, if_false]
            exact ⟨rfl, failed⟩
          | ok resource =>
            have prepared := prepare_endpoint_renumbered ρ a b ⟨rule, resource, a.router.table.length⟩ attachments renumbered
            rw [register_realized a text target attachments rule resource objectsA compiled taken madeA,
              register_realized b text (target.rename ρ) attachments rule (resource.rename ρ) objectsB compiled contains madeB, length]
            rw [Route.rename] at prepared
            rw [prepared]
            cases a.prepareEndpoint ⟨rule, resource, a.router.table.length⟩ attachments with
            | error e => exact ⟨rfl, objects_renumbered ρ a b objectsA objectsB after renumbered⟩
            | ok endpoint => exact ⟨rfl, after_route_renumbered ρ a b _ endpoint objectsA objectsB after renumbered⟩

theorem register_all_renumbered (entries : List (String × Target)) (renumbered : Renumbered ρ a b) :
    (b.registerAll (entries.map fun entry => (entry.1, entry.2.rename ρ))).1 =
        (a.registerAll entries).1.map (List.map (Route.rename ρ)) ∧
      Renumbered ρ (a.registerAll entries).2 (b.registerAll (entries.map fun entry => (entry.1, entry.2.rename ρ))).2 := by
  induction entries generalizing a b with
  | nil => exact ⟨rfl, renumbered⟩
  | cons entry rest ih =>
    obtain ⟨text, target⟩ := entry
    obtain ⟨same, after⟩ := register_renumbered ρ a b text target [] renumbered
    rw [List.map_cons, registerAll, registerAll]
    cases madeA : a.register text target [] with
    | mk resultA nextA =>
      cases madeB : b.register text (target.rename ρ) [] with
      | mk resultB nextB =>
        rw [madeA, madeB] at same after
        obtain rfl : resultB = resultA.map (Route.rename ρ) := same
        cases resultA with
        | error e => exact ⟨rfl, after⟩
        | ok route =>
          obtain ⟨others, last⟩ := ih nextA nextB after
          simp only [Except.map]
          cases runA : nextA.registerAll rest with
          | mk outcomeA finalA =>
            cases runB : nextB.registerAll (rest.map fun entry => (entry.1, entry.2.rename ρ)) with
            | mk outcomeB finalB =>
              rw [runA, runB] at others last
              obtain rfl : outcomeB = outcomeA.map (List.map (Route.rename ρ)) := others
              cases outcomeA <;> exact ⟨rfl, last⟩

end Registry
end RestDispatch
