import RestDispatch.Proofs.App.Strict
import RestDispatch.Proofs.App.Obstruction
import RestDispatch.Proofs.Resource.Construction

set_option autoImplicit false

/-!
Which parser is in force. Registrations of one object share its endpoint, so what one of them attaches counts on every
route to the object. Main statement: whatever an application has been through, every object behind a route has one
endpoint, and a verb of it has the parser that was given for it last, by a registration that succeeded.
-/
namespace RestDispatch

namespace Registration

structure Gives (registration : Registration) (resource : Resource) (verb : Verb) (id : ParserId) : Prop where
  same : registration.resource.identity = resource.identity
  assigns : Assigns registration.attachments verb id

theorem given_eq_some_iff (registration : Registration) (resource : Resource) (verb : Verb) (id : ParserId) :
    registration.given? resource verb = some id ↔ registration.Gives resource verb id := by
  rw [given?, Option.ite_none_right_eq_some, assigned_eq_some_iff]
  exact ⟨fun gives => ⟨gives.1, gives.2⟩, fun gives => ⟨gives.same, gives.assigns⟩⟩

theorem given_eq_none_iff (registration : Registration) (resource : Resource) (verb : Verb) :
    registration.given? resource verb = none ↔ ∀ id, ¬ registration.Gives resource verb id := by
  simp only [Option.eq_none_iff_forall_ne_some, ne_eq, given_eq_some_iff]

end Registration

-- The latest registration of an object that gives a parser for a verb gives this one.
def InForce (history : List Registration) (resource : Resource) (verb : Verb) (id : ParserId) : Prop :=
  ∃ before registration after, history = before ++ registration :: after ∧ registration.Gives resource verb id ∧
    ∀ later ∈ after, ∀ other, ¬ later.Gives resource verb other

theorem in_force_iff (history : List Registration) (resource : Resource) (verb : Verb) (id : ParserId) :
    InForce history resource verb id ↔ lastGiven? (Registration.given? resource verb) history = some id := by
  simp only [InForce, last_given_eq_some_iff, Registration.given_eq_some_iff, Registration.given_eq_none_iff]

namespace Registry

-- No object has two endpoints.
def Distinct (registry : Registry) : Prop := (registry.endpoints.map Prod.fst).Nodup

theorem register_distinct (registry : Registry) (text : String) (target : Target) (attachments : List (String × ParserId))
    (distinct : registry.Distinct) : (registry.register text target attachments).2.Distinct := by
  rcases register_cases registry text target attachments with ⟨e, objects, failed, _⟩ | ⟨route, endpoint, objects, done, _⟩
  · rw [failed]
    exact distinct
  · rw [done]
    exact keys_put_nodup registry.endpoints route.resource.identity endpoint distinct

end Registry

-- The registrations of a step are those of which it tells. Those of several routes at once are left out; they give no
-- parsers.
def AppStep.registrations : AppStep → StepReport → List Registration
  | .setup (.add _ _ attachments), .registered (.ok routes) => routes.map fun route => ⟨route.resource, attachments⟩
  | _, _ => []

namespace AppState

def history (state : AppState) : List AppStep → List Registration
  | [] => []
  | step :: rest => step.registrations (state.step step).1 ++ (state.step step).2.history rest

theorem setup_registrations (state : AppState) (step : SetupStep) (resource : Resource) (verb : Verb) :
    (state.setup step).2.registry.bound resource verb =
      (lastGiven? (Registration.given? resource verb) ((AppStep.setup step).registrations (state.setup step).1)).or
        (state.registry.bound resource verb) := by
  cases step with
  | construct cls =>
    rw [setup, construct]
    cases state.registry.router.objects.construct cls with
    | mk result objects => cases result <;> rfl
  | hold v => rfl
  | makeParser parser => rfl
  | add text source attachments =>
    rw [setup]
    cases state.target? source with
    | none => rfl
    | some target =>
      cases state.canAttach attachments with
      | false => rfl
      | true =>
        rcases Registry.register_cases state.app.registry text target attachments with
          ⟨e, objects, failed, _⟩ | ⟨route, endpoint, objects, done, registered⟩
        · simp only [App.add, failed]
          rfl
        · simp only [App.add, done, Except.map, AppStep.registrations, List.map_cons, List.map_nil, last_given_single]
          exact Registry.bound_after_route state.registry route endpoint objects attachments registered.prepared resource verb
  | addAll entries =>
    rw [setup]
    cases state.targets? entries with
    | none => rfl
    | some targets => exact state.registry.register_all_unattached targets resource verb

theorem step_registrations (state : AppState) (step : AppStep) (isOpaque : state.app.Opaque) (resource : Resource) (verb : Verb) :
    (state.step step).2.registry.bound resource verb =
      (lastGiven? (Registration.given? resource verb) (step.registrations (state.step step).1)).or
        (state.registry.bound resource verb) := by
  cases step with
  | setup step => exact state.setup_registrations step resource verb
  | amendParser id change => rfl
  | addMiddleware middleware => rfl
  | call scope channel =>
    have kept := state.app.call_keeps (fun registry => registry.endpoints = state.registry.endpoints) (fun _ _ _ same _ => same)
      scope channel isOpaque rfl
    exact Registry.bound_congr _ _ resource verb kept

-- A registration that succeeds counts over those before it, so of all that give a parser the last one does.
theorem run_registrations (state : AppState) (steps : List AppStep) (guarded : ∀ step ∈ steps, step.Guarded) (sound : Sound state)
    (resource : Resource) (verb : Verb) :
    (state.run steps).2.registry.bound resource verb =
      (lastGiven? (Registration.given? resource verb) (state.history steps)).or (state.registry.bound resource verb) := by
  induction steps generalizing state with
  | nil => rfl
  | cons step rest ih =>
    have later : ∀ other ∈ rest, other.Guarded := fun other member => guarded other (List.mem_cons_of_mem _ member)
    have first := state.step_registrations step sound.isOpaque resource verb
    rw [run_cons, ih _ later (step_sound state step (guarded step List.mem_cons_self) sound), first, history, last_given_append,
      Option.or_assoc]

theorem step_distinct (state : AppState) (step : AppStep) (isOpaque : state.app.Opaque) (distinct : state.registry.Distinct) :
    (state.step step).2.registry.Distinct := by
  cases step with
  | setup step =>
    rcases state.setup_cases step with still | ⟨text, source, attachments, target, _, _, next⟩ | ⟨entries, targets, _, _, next⟩
    · rw [Registry.Distinct, AppState.step, still.endpoints]
      exact distinct
    · rw [AppState.step, next]
      exact state.registry.register_distinct text target attachments distinct
    · rw [AppState.step, next]
      exact Registry.register_all_keeps Registry.Distinct targets (fun registry entry here _ => registry.register_distinct entry.1 entry.2 [] here)
        state.registry distinct
  | amendParser id change => exact distinct
  | addMiddleware middleware => exact distinct
  | call scope channel => exact state.app.call_keeps Registry.Distinct (fun _ _ _ here _ => here) scope channel isOpaque distinct

theorem run_distinct (state : AppState) (steps : List AppStep) (guarded : ∀ step ∈ steps, step.Guarded) (sound : Sound state)
    (distinct : state.registry.Distinct) : (state.run steps).2.registry.Distinct := by
  have both := run_keeps (fun state => Sound state ∧ state.registry.Distinct) steps (fun state step member here => ?_) state ⟨sound, distinct⟩
  · exact both.2
  · exact ⟨step_sound state step (guarded step member) here.1, state.step_distinct step here.1.isOpaque here.2⟩

end AppState

-- The endpoints of a registry are those of the objects behind its routes, and parsers are in force as the history has it.
structure Registry.Follows (registry : Registry) (history : List Registration) : Prop where
  distinct : registry.Distinct
  owned : ∀ entry ∈ registry.endpoints, ∃ route ∈ registry.router.table, route.resource.identity = entry.1
  single : ∀ a ∈ registry.router.table, ∀ b ∈ registry.router.table, a.resource.identity = b.resource.identity → a.resource = b.resource
  served : ∀ route ∈ registry.router.table, ∃ endpoint, registry.endpoint? route.resource = some endpoint ∧
    endpoint.methods = route.resource.methodTable ∧ (endpoint.methods.map Prod.fst).Sublist Verb.all ∧
    ∀ attachment ∈ endpoint.parsers, attachment.1 ∈ endpoint.methods.map Prod.fst
  dispatched : ∀ path captures resource, registry.find? path = some (captures, resource) →
    ∃ endpoint, registry.endpoint? resource = some endpoint
  used : ∀ scope channel resource handler parser request, registry.Reaches scope channel resource handler parser request →
    ∃ verb, Verb.named? request.method = some verb ∧ parser = registry.boundParser resource verb
  made : ∀ resource verb id, registry.bound resource verb = some id → id < registry.parsers.length
  inForce : ∀ resource verb id, registry.bound resource verb = some id ↔ InForce history resource verb id
  unattached : ∀ resource verb, registry.bound resource verb = none ↔
    ∀ registration ∈ history, ∀ id, ¬ registration.Gives resource verb id

namespace AppState

theorem parsers_follow_registrations (strict debug : Bool) (started : List (String × Nat)) (steps : List AppStep)
    (guarded : ∀ step ∈ steps, step.Guarded) :
    ((new strict debug started).run steps).2.registry.Follows ((new strict debug started).history steps) := by
  have start := new_sound strict debug started
  have sound := (run_sound _ steps guarded start).registry
  have ledger : ∀ resource verb, ((new strict debug started).run steps).2.registry.bound resource verb =
      lastGiven? (Registration.given? resource verb) ((new strict debug started).history steps) := fun resource verb =>
    (run_registrations _ steps guarded start resource verb).trans (Option.or_none ..)
  have routed : ∀ a ∈ ((new strict debug started).run steps).2.registry.router.table,
      a.resource ∈ ((new strict debug started).run steps).2.registry.known ((new strict debug started).run steps).2.made :=
    fun a member => List.mem_append_right _ (List.mem_map_of_mem member)
  constructor
  case distinct => exact run_distinct _ steps guarded start List.nodup_nil
  case owned => exact sound.owned
  case single => exact fun a inA b inB same => sound.single _ (routed a inA) _ (routed b inB) same
  case served =>
    intro route member
    obtain ⟨endpoint, found, methods⟩ := sound.served route member
    refine ⟨endpoint, found, methods, methods ▸ route.resource.method_table_verbs, fun attachment inside => ?_⟩
    exact (lookup_is_some_iff _ _).mp (sound.attached _ (mem_of_lookup _ _ _ found) attachment inside).1
  case dispatched => exact Registry.find_endpoint _ _ sound
  case used =>
    rintro scope channel resource handler parser request ⟨_, _, endpoint, verb, _, _, served, _, named, _, rfl⟩
    exact ⟨verb, named, (Registry.bound_parser_of_endpoint _ resource endpoint verb served).symm⟩
  case made => exact fun resource verb id attached => Registry.bound_valid _ _ resource verb id sound attached
  case inForce => exact fun resource verb id => by rw [ledger, in_force_iff]
  case unattached =>
    intro resource verb
    simp only [ledger, last_given_eq_none_iff, Registration.given_eq_none_iff]

-- Notes are added three times, the second time in vain, for they cannot be put. The third time gives posts another parser.
def noteHistory : List AppStep :=
  [.setup (.construct notes), .setup (.makeParser titleParser), .setup (.makeParser {}),
   .setup (.add "/a" (.made 0) [("post", 0)]), .addMiddleware (.header "notes"),
   .call { method := some "GET", path := some "/c" } { pending := [{}] },
   .setup (.add "/b" (.made 0) [("post", 0), ("put", 0)]), .setup (.add "/c" (.made 0) [("post", 0), ("Post", 1)])]

theorem later_parser_in_force :
    let registry := ((new false false []).run noteHistory).2.registry
    registry.find? "/a" = some ([], .object notes 0) ∧ registry.find? "/b" = none ∧
      registry.bound (.object notes 0) .post = some 1 := by
  intro registry
  have guarded : ∀ step ∈ noteHistory, step.Guarded := by
    simp [noteHistory, AppStep.Guarded, Middleware.header_opaque]
  have follows := parsers_follow_registrations false false [] noteHistory guarded
  have succeeded : (new false false []).history noteHistory =
      [⟨.object notes 0, [("post", 0)]⟩, ⟨.object notes 0, [("post", 0), ("Post", 1)]⟩] := rfl
  have gives : Registration.Gives ⟨.object notes 0, [("post", 0), ("Post", 1)]⟩ (.object notes 0) .post 1 :=
    ⟨rfl, [("post", 0)], "Post", [], rfl, rfl, by simp⟩
  exact ⟨rfl, rfl, (follows.inForce _ _ _).mpr ⟨[⟨.object notes 0, [("post", 0)]⟩], _, [], succeeded, gives, by simp⟩⟩

end AppState
end RestDispatch
