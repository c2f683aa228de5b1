import RestDispatch.Proofs.App.Running
import RestDispatch.Proofs.App.Attaching
import RestDispatch.Proofs.Handler.Checking

set_option autoImplicit false

/-!
Strict applications. A route is checked when it is added, with the parsers that are attached then. Main
statement: a handler of a route goes on to pass the check until a later registration of the same resource
attaches a parser to its verb, and from then on if that parser supplies what it needs.
-/
namespace RestDispatch

namespace Registry

def boundParser (registry : Registry) (resource : Resource) (verb : Verb) : Option Parser :=
  (registry.bound resource verb).bind fun id => registry.parsers[id]?

-- A handler of a route passes the strict check with the parser that is attached to its verb.
def Passes (registry : Registry) (route : Route Resource) (verb : Verb) (handler : Handler) : Prop :=
  handler.signature.check route.rule (registry.boundParser route.resource verb) = .ok ()

def Checked (registry : Registry) (route : Route Resource) : Prop :=
  ∀ entry ∈ route.resource.methodTable, registry.Passes route entry.1 entry.2

theorem bound_parser_of_endpoint (registry : Registry) (resource : Resource) (endpoint : Endpoint) (verb : Verb)
    (found : registry.endpoint? resource = some endpoint) :
    registry.boundParser resource verb = registry.parserFor endpoint verb := by
  rw [boundParser, bound, found, parserFor]
  rfl

theorem bound_valid (made : List Resource) (registry : Registry) (resource : Resource) (verb : Verb) (id : ParserId)
    (sound : Sound made registry) (attached : registry.bound resource verb = some id) : id < registry.parsers.length := by
  obtain ⟨endpoint, found, inside⟩ := Option.bind_eq_some_iff.mp attached
  exact (sound.attached _ (mem_of_lookup _ _ _ found) _ (mem_of_lookup _ _ _ inside)).2

-- Parsers are only ever added, so an attachment that is still there means the same parser.
theorem bound_parser_again (made : List Resource) (before after : Registry) (resource : Resource) (verb : Verb)
    (sound : Sound made before) (more : before.parsers <+: after.parsers) (same : after.bound resource verb = before.bound resource verb) :
    after.boundParser resource verb = before.boundParser resource verb := by
  rw [boundParser, boundParser, same]
  cases attached : before.bound resource verb with
  | none => rfl
  | some id =>
    obtain ⟨added, grown⟩ := more
    have valid := bound_valid made before resource verb id sound attached
    simp only [Option.bind_some, ← grown, List.getElem?_append_left valid]

theorem register_frame (registry : Registry) (text : String) (target : Target) (attachments : List (String × ParserId)) :
    (registry.register text target attachments).2.strict = registry.strict ∧
      (registry.register text target attachments).2.parsers = registry.parsers := by
  rcases register_cases registry text target attachments with ⟨e, objects, failed, _⟩ | ⟨route, endpoint, objects, done, _⟩
  · rw [failed]
    exact ⟨rfl, rfl⟩
  · rw [done]
    exact ⟨rfl, rfl⟩

theorem register_bound (made : List Resource) (registry : Registry) (text : String) (target : Target)
    (attachments : List (String × ParserId)) (sound : Sound made registry)
    (available : ∀ resource, target = .existing resource → resource ∈ made) (route : Route Resource)
    (member : route ∈ registry.router.table) (verb : Verb)
    (apart : target = .existing route.resource → ∀ attachment ∈ attachments, Verb.named? (Text.upper attachment.1) ≠ some verb) :
    (registry.register text target attachments).2.bound route.resource verb = registry.bound route.resource verb := by
  rcases register_cases registry text target attachments with ⟨e, objects, failed, _⟩ | ⟨new, endpoint, objects, done, registered⟩
  · rw [failed]
    rfl
  · rw [done, bound_after_route registry new endpoint objects attachments registered.prepared]
    have ungiven : Registration.given? route.resource verb ⟨new.resource, attachments⟩ = none := by
      by_cases same : new.resource.identity = route.resource.identity
      · have known : route.resource ∈ registry.known made := List.mem_append_right _ (List.mem_map_of_mem member)
        have equal := (registered_resource made registry text target attachments new endpoint objects sound available registered).1
          route.resource known same.symm
        rw [Registration.given?, if_pos same, assigned_eq_none_iff]
        rcases Objects.realize_ok _ _ target new.resource registered.realized with existing | ⟨cls, _, fresh, _⟩
        · exact apart (equal ▸ existing)
        · have issued := sound.issued route.resource known
          rw [equal, fresh] at issued
          exact absurd issued (Nat.lt_irrefl _)
      · exact if_neg same
    rw [ungiven, Option.none_or]

theorem registered_checked (made : List Resource) (registry : Registry) (text : String) (target : Target)
    (attachments : List (String × ParserId)) (route : Route Resource) (endpoint : Endpoint) (objects : Objects)
    (sound : Sound made registry) (available : ∀ resource, target = .existing resource → resource ∈ made)
    (strict : registry.strict = true) (registered : registry.Registered text target attachments route endpoint objects) :
    Checked (registry.afterRoute route endpoint objects) route := by
  have methods := registered_methods made registry text target attachments route endpoint objects sound available registered
  obtain ⟨_, _, _, checks⟩ := prepare_endpoint_ok registry route attachments endpoint registered.prepared
  have each := (check_handlers_ok_iff registry route.rule endpoint endpoint.methods).mp (checks strict)
  intro entry member
  have found : (registry.afterRoute route endpoint objects).endpoint? route.resource = some endpoint := by
    rw [endpoint_after_route, if_pos rfl]
  rw [Passes, bound_parser_of_endpoint _ _ _ _ found]
  exact each entry (methods ▸ member)

theorem register_all_frame (registry : Registry) (entries : List (String × Target)) :
    (registry.registerAll entries).2.strict = registry.strict ∧ (registry.registerAll entries).2.parsers = registry.parsers := by
  refine register_all_keeps (fun next => next.strict = registry.strict ∧ next.parsers = registry.parsers) entries
    (fun next entry same _ => ?_) registry ⟨rfl, rfl⟩
  obtain ⟨strict, parsers⟩ := next.register_frame entry.1 entry.2 []
  exact ⟨strict.trans same.1, parsers.trans same.2⟩

theorem register_table (registry : Registry) (text : String) (target : Target) (attachments : List (String × ParserId))
    (route : Route Resource) (member : route ∈ registry.router.table) :
    route ∈ (registry.register text target attachments).2.router.table := by
  rcases register_cases registry text target attachments with ⟨e, objects, failed, _⟩ | ⟨new, endpoint, objects, done, _⟩
  · rw [failed]
    exact member
  · rw [done]
    exact List.mem_append_left _ member

theorem checked_again (made : List Resource) (before after : Registry) (route : Route Resource) (sound : Sound made before)
    (more : before.parsers <+: after.parsers) (same : ∀ verb, after.bound route.resource verb = before.bound route.resource verb)
    (checked : before.Checked route) : after.Checked route := by
  intro entry member
  rw [Passes, bound_parser_again made before after route.resource entry.1 sound more (same entry.1)]
  exact checked entry member

theorem register_checked (made : List Resource) (registry : Registry) (text : String) (target : Target)
    (attachments : List (String × ParserId)) (sound : Sound made registry)
    (available : ∀ resource, target = .existing resource → resource ∈ made) (strict : registry.strict = true)
    (route : Route Resource) (member : route ∈ (registry.register text target attachments).2.router.table) :
    route ∈ registry.router.table ∨ (registry.register text target attachments).2.Checked route := by
  rcases register_cases registry text target attachments with ⟨e, objects, failed, _⟩ | ⟨new, endpoint, objects, done, registered⟩
  · rw [failed] at member
    exact Or.inl member
  · rw [done] at member ⊢
    rcases List.mem_append.mp member with old | last
    · exact Or.inl old
    · rw [List.mem_singleton.mp last]
      exact Or.inr (registered_checked made registry text target attachments new endpoint objects sound available strict registered)

theorem register_all_checked (made : List Resource) (registry : Registry) (entries : List (String × Target))
    (sound : Sound made registry) (available : ∀ entry ∈ entries, ∀ resource, entry.2 = .existing resource → resource ∈ made)
    (strict : registry.strict = true) (route : Route Resource) (member : route ∈ (registry.registerAll entries).2.router.table) :
    route ∈ registry.router.table ∨ (registry.registerAll entries).2.Checked route := by
  induction entries generalizing registry with
  | nil => exact Or.inl member
  | cons entry rest ih =>
    obtain ⟨text, target⟩ := entry
    have given := available (text, target) List.mem_cons_self
    have others : ∀ entry ∈ rest, ∀ resource, entry.2 = .existing resource → resource ∈ made :=
      fun entry inside => available entry (List.mem_cons_of_mem _ inside)
    have here := register_checked made registry text target [] sound given strict route
    have nextSound := registry.register_sound made text target [] sound given fun _ none => (List.not_mem_nil none).elim
    have nextStrict := (registry.register_frame text target []).1.trans strict
    rw [register_all_next] at member ⊢
    cases result : (registry.register text target []).1 with
    | error e =>
      rw [result] at member
      exact here member
    | ok placed =>
      rw [result] at member
      rcases ih _ nextSound others nextStrict member with stored | checked
      · rcases here stored with old | checked
        · exact Or.inl old
        · have parsers := ((registry.register text target []).2.register_all_frame rest).2
          exact Or.inr (checked_again made _ _ route nextSound (parsers ▸ List.prefix_rfl)
            (register_all_unattached _ rest route.resource) checked)
      · exact Or.inr checked

end Registry

-- Whether a step may attach a parser to a verb of a resource that has been made.
def SetupStep.Attaches (made : List Resource) (resource : Resource) (verb : Verb) : SetupStep → Prop
  | .add _ (.made place) attachments =>
    made[place]? = some resource ∧ ∃ attachment ∈ attachments, Verb.named? (Text.upper attachment.1) = some verb
  | _ => False

namespace AppState

theorem setup_frame (state : AppState) (step : SetupStep) :
    (state.setup step).2.registry.strict = state.registry.strict ∧
      state.registry.parsers <+: (state.setup step).2.registry.parsers ∧ state.made <+: (state.setup step).2.made := by
  rcases state.setup_cases step with still | ⟨text, source, attachments, target, _, _, next⟩ | ⟨entries, targets, _, _, next⟩
  · exact ⟨still.strict, still.parsers, still.made⟩
  · obtain ⟨strict, parsers⟩ := state.registry.register_frame text target attachments
    rw [next]
    exact ⟨strict, parsers ▸ List.prefix_rfl, List.prefix_rfl⟩
  · obtain ⟨strict, parsers⟩ := state.registry.register_all_frame targets
    rw [next]
    exact ⟨strict, parsers ▸ List.prefix_rfl, List.prefix_rfl⟩

theorem target_existing (state : AppState) (source : Source) (resource : Resource)
    (found : state.target? source = some (.existing resource)) : ∃ place, source = .made place ∧ state.made[place]? = some resource := by
  cases source with
  | fresh cls => cases found
  | made place =>
    obtain ⟨other, access, same⟩ := Option.map_eq_some_iff.mp found
    exact ⟨place, rfl, Target.existing.inj same ▸ access⟩

theorem setup_table (state : AppState) (step : SetupStep) (route : Route Resource) (member : route ∈ state.registry.router.table) :
    route ∈ (state.setup step).2.registry.router.table := by
  rcases state.setup_cases step with still | ⟨text, source, attachments, target, _, _, next⟩ | ⟨entries, targets, _, _, next⟩
  · exact still.table ▸ member
  · rw [next]
    exact state.registry.register_table text target attachments route member
  · rw [next]
    exact Registry.register_all_keeps (fun registry => route ∈ registry.router.table) targets
      (fun registry entry stored _ => registry.register_table entry.1 entry.2 [] route stored) state.registry member

theorem setup_bound (state : AppState) (step : SetupStep) (sound : Sound state) (route : Route Resource)
    (member : route ∈ state.registry.router.table) (verb : Verb) (apart : ¬ step.Attaches state.made route.resource verb) :
    (state.setup step).2.registry.bound route.resource verb = state.registry.bound route.resource verb := by
  rcases state.setup_cases step with still | ⟨text, source, attachments, target, rfl, found, next⟩ | ⟨_, targets, _, _, next⟩
  · exact Registry.bound_congr _ _ route.resource verb still.endpoints
  · rw [next]
    refine state.registry.register_bound state.made text target attachments sound.registry
      (state.target_available source target found) route member verb fun existing attachment inside named => apart ?_
    obtain ⟨place, rfl, access⟩ := state.target_existing source route.resource (existing ▸ found)
    exact ⟨access, attachment, inside, named⟩
  · rw [next]
    exact state.registry.register_all_unattached targets route.resource verb

theorem setup_checked (state : AppState) (step : SetupStep) (sound : Sound state) (strict : state.registry.strict = true)
    (route : Route Resource) (member : route ∈ (state.setup step).2.registry.router.table) :
    route ∈ state.registry.router.table ∨ (state.setup step).2.registry.Checked route := by
  rcases state.setup_cases step with still | ⟨text, source, attachments, target, _, found, next⟩ | ⟨entries, targets, _, found, next⟩
  · exact Or.inl (still.table ▸ member)
  · rw [next] at member ⊢
    exact state.registry.register_checked state.made text target attachments sound.registry
      (state.target_available source target found) strict route member
  · rw [next] at member ⊢
    exact state.registry.register_all_checked state.made targets sound.registry (state.targets_available entries targets found)
      strict route member

theorem setup_all_frame (state : AppState) (steps : List SetupStep) :
    (state.setupAll steps).registry.strict = state.registry.strict ∧
      state.registry.parsers <+: (state.setupAll steps).registry.parsers ∧ state.made <+: (state.setupAll steps).made := by
  induction steps generalizing state with
  | nil => exact ⟨rfl, List.prefix_rfl, List.prefix_rfl⟩
  | cons step rest ih =>
    obtain ⟨strict, parsers, made⟩ := state.setup_frame step
    obtain ⟨restStrict, restParsers, restMade⟩ := ih (state.setup step).2
    exact ⟨restStrict.trans strict, parsers.trans restParsers, made.trans restMade⟩

theorem setup_all_sound (state : AppState) (steps : List SetupStep) (sound : Sound state) : Sound (state.setupAll steps) := by
  induction steps generalizing state with
  | nil => exact sound
  | cons step rest ih => exact ih _ (setup_sound state step sound)

theorem attaches_later (before after : List Resource) (more : before <+: after) (resource : Resource) (verb : Verb)
    (step : SetupStep) (attaches : step.Attaches before resource verb) : step.Attaches after resource verb := by
  cases step with
  | add text source attachments =>
    cases source with
    | fresh cls => exact attaches
    | made place =>
      obtain ⟨access, named⟩ := attaches
      obtain ⟨added, rfl⟩ := more
      exact ⟨(List.getElem?_append_left (List.getElem?_eq_some_iff.mp access).1).trans access, named⟩
  | _ => exact attaches

theorem setup_all_bound (state : AppState) (steps : List SetupStep) (sound : Sound state) (route : Route Resource)
    (member : route ∈ state.registry.router.table) (verb : Verb)
    (apart : ∀ step ∈ steps, ¬ step.Attaches (state.setupAll steps).made route.resource verb) :
    (state.setupAll steps).registry.bound route.resource verb = state.registry.bound route.resource verb := by
  induction steps generalizing state with
  | nil => rfl
  | cons step rest ih =>
    have grown := (state.setup_all_frame (step :: rest)).2.2
    have first := state.setup_bound step sound route member verb fun attaches =>
      apart step List.mem_cons_self (attaches_later _ _ grown route.resource verb step attaches)
    rw [← first]
    exact ih _ (setup_sound state step sound) (state.setup_table step route member)
      fun later inside => apart later (List.mem_cons_of_mem _ inside)

-- Every route is added by one of the steps, and it is checked then.
theorem route_origin (state : AppState) (steps : List SetupStep) (sound : Sound state) (strict : state.registry.strict = true)
    (route : Route Resource) (member : route ∈ (state.setupAll steps).registry.router.table) :
    route ∈ state.registry.router.table ∨ ∃ before step after, steps = before ++ step :: after ∧
      route ∉ (state.setupAll before).registry.router.table ∧
      route ∈ ((state.setupAll before).setup step).2.registry.router.table ∧
      ((state.setupAll before).setup step).2.registry.Checked route := by
  induction steps generalizing state with
  | nil => exact Or.inl member
  | cons step rest ih =>
    have nextStrict := (state.setup_frame step).1.trans strict
    rcases ih _ (setup_sound state step sound) nextStrict member with here | ⟨before, later, after, same, fresh, placed, checked⟩
    · by_cases old : route ∈ state.registry.router.table
      · exact Or.inl old
      · have checked := (state.setup_checked step sound strict route here).resolve_left old
        exact Or.inr ⟨[], step, rest, rfl, old, here, checked⟩
    · exact Or.inr ⟨step :: before, later, after, by rw [same]; rfl, fresh, placed, checked⟩

theorem strict_until_attached (debug : Bool) (started : List (String × Nat)) (steps : List SetupStep) (route : Route Resource)
    (member : route ∈ ((new true debug started).setupAll steps).registry.router.table) :
    let state := (new true debug started).setupAll steps
    ∃ before step after, steps = before ++ step :: after ∧
      let placed := (((new true debug started).setupAll before).setup step).2
      route ∉ ((new true debug started).setupAll before).registry.router.table ∧ route ∈ placed.registry.router.table ∧
      ∃ endpoint, state.registry.endpoint? route.resource = some endpoint ∧ endpoint.methods = route.resource.methodTable ∧
      ∀ verb handler, (verb, handler) ∈ endpoint.methods →
        placed.registry.Passes route verb handler ∧
        ((∀ later ∈ after, ¬ later.Attaches state.made route.resource verb) →
          state.registry.bound route.resource verb = placed.registry.bound route.resource verb) ∧
        (state.registry.bound route.resource verb = placed.registry.bound route.resource verb →
          state.registry.Passes route verb handler) ∧
        (state.registry.Passes route verb handler ↔
          ∀ hints, handler.signature.hints = .ok hints → ∀ p ∈ handler.signature.parameters, Signature.isChecked p = true →
            p.name ∈ route.rule.variableNames ∨
            (∃ parser, state.registry.boundParser route.resource verb = some parser ∧
              p.name ∈ parser.declarations.map Declaration.key) ∨
            (∃ hint, hints.lookup p.name = some hint ∧ hint.model?.isSome = true)) := by
  intro state
  have start := new_sound true debug started
  have sound := setup_all_sound _ steps start
  rcases route_origin _ steps start rfl route member with absurdly | ⟨before, step, after, same, fresh, here, checked⟩
  · exact (List.not_mem_nil absurdly).elim
  · refine ⟨before, step, after, same, fresh, here, ?_⟩
    obtain ⟨endpoint, found, methods⟩ := sound.registry.served route member
    refine ⟨endpoint, found, methods, fun verb handler inside => ?_⟩
    have placedSound := setup_sound _ step (setup_all_sound _ before start)
    have split : state = (((new true debug started).setupAll before).setup step).2.setupAll after := by
      change (new true debug started).setupAll steps = _
      rw [same, setup_all_append]
      rfl
    have passed := checked (verb, handler) (methods ▸ inside)
    refine ⟨passed, fun apart => ?_, fun unchanged => ?_, Signature.check_again_iff handler.signature route.rule _ _ passed⟩
    · rw [split] at apart ⊢
      exact setup_all_bound _ after placedSound route here verb apart
    · have more := (setup_all_frame (((new true debug started).setupAll before).setup step).2 after).2.1
      rw [split] at unchanged ⊢
      rw [Registry.Passes, Registry.bound_parser_again _ _ _ route.resource verb placedSound.registry more unchanged]
      exact passed

-- Notes take a title, which the first parser delivers and the second one does not.
def titleHandler : Handler :=
  { label := "Notes.post"
    signature := { parameters := [{ name := "title", annotation := some (.direct (.cls "str")) }]
                   returns := some (.direct (.cls "dict")) }
    run := fun situation => ⟨.ok (.content (.data .null)), situation.items⟩ }

def notes : ResourceClass := { name := "Notes", methods := [("post", titleHandler)] }

def titleParser : Parser := { declarations := [{ name := "title", options := {}, inherits := true }] }

def noteSteps : List SetupStep :=
  [.construct notes, .makeParser titleParser, .makeParser {},
   .add "/a" (.made 0) [("post", 0)], .add "/b/<title>" (.made 0) [("post", 1)]]

def noteRoute : Route Resource := ⟨{ text := "/a", segments := [.literal "a"] }, .object notes 0, 0⟩

theorem later_parser_breaks_strict :
    ¬ ∀ (debug : Bool) (started : List (String × Nat)) (steps : List SetupStep),
      ∀ route ∈ ((new true debug started).setupAll steps).registry.router.table, ∀ entry ∈ route.resource.methodTable,
        ((new true debug started).setupAll steps).registry.Passes route entry.1 entry.2 := by
  intro always
  have stored : ((new true false []).setupAll noteSteps).registry.router.table[0]? = some noteRoute := rfl
  have served : (Verb.post, titleHandler) ∈ noteRoute.resource.methodTable := List.mem_singleton.mpr rfl
  have passes := always false [] noteSteps noteRoute (List.mem_of_getElem? stored) (.post, titleHandler) served
  have fails : titleHandler.signature.check noteRoute.rule (((new true false []).setupAll noteSteps).registry.boundParser noteRoute.resource .post) =
      .error (.unsupplied "title" "str") := rfl
  rw [Registry.Passes, fails] at passes
  cases passes

theorem note_route_was_strict :
    noteRoute ∈ ((new true false []).setupAll noteSteps).registry.router.table ∧
      ∃ before step after, noteSteps = before ++ step :: after ∧
        (((new true false []).setupAll before).setup step).2.registry.Passes noteRoute .post titleHandler := by
  have stored : noteRoute ∈ ((new true false []).setupAll noteSteps).registry.router.table :=
    List.mem_of_getElem? (rfl : ((new true false []).setupAll noteSteps).registry.router.table[0]? = some noteRoute)
  obtain ⟨before, step, after, same, _, _, endpoint, found, methods, each⟩ := strict_until_attached false [] noteSteps noteRoute stored
  have served : (Verb.post, titleHandler) ∈ endpoint.methods := methods ▸ List.mem_singleton.mpr rfl
  exact ⟨stored, before, step, after, same, (each .post titleHandler served).1⟩

end AppState
end RestDispatch
