import RestDispatch.Proofs.App.Running
import RestDispatch.Proofs.Route.Growth

set_option autoImplicit false

/-!
Where the routes of an application come from. A route to a class has an object that was constructed for it, a route to a
thing that was made has that thing. Main statement: whatever an application has been through, no other route and nothing
that was made has the object of a route to a class.
-/
namespace RestDispatch

namespace Source

def IsFresh : Source → Prop
  | .fresh _ => True
  | .made _ => False

-- The target of a registration, where these things have been made.
def Leads (made : List Resource) : Source → Target → Prop
  | .fresh cls, target => target = .fresh cls
  | .made place, target => ∃ resource, made[place]? = some resource ∧ target = .existing resource

theorem leads_available (made : List Resource) (source : Source) (target : Target) (leads : source.Leads made target) (resource : Resource)
    (existing : target = .existing resource) : resource ∈ made := by
  cases source with
  | fresh cls =>
    rw [Leads, existing] at leads
    cases leads
  | made place =>
    obtain ⟨other, found, same⟩ := leads
    obtain rfl := Target.existing.inj (existing.symm.trans same)
    exact List.mem_of_getElem? found

theorem leads_append (made more : List Resource) (source : Source) (target : Target) (leads : source.Leads made target) :
    source.Leads (made ++ more) target := by
  cases source with
  | fresh cls => exact leads
  | made place =>
    obtain ⟨resource, found, same⟩ := leads
    exact ⟨resource, (List.getElem?_append_left (List.getElem?_eq_some_iff.mp found).1).trans found, same⟩

end Source

-- A route has the rule and the resource that were registered.
structure Route.Stems (made : List Resource) (entry : String × Source) (route : Route Resource) : Prop where
  text : route.rule.text = entry.1
  resource : ∃ target, entry.2.Leads made target ∧ target.Yields route.resource

namespace Registry

-- The registrations from which the routes stem, in order. Those of classes share their objects with nothing.
structure Founded (made : List Resource) (origins : List (String × Source)) (registry : Registry) : Prop where
  stems : List.Forall₂ (Route.Stems made) origins registry.router.table
  apart : (origins.zip registry.router.table).Pairwise fun a b =>
    a.1.2.IsFresh ∨ b.1.2.IsFresh → a.2.resource.identity ≠ b.2.resource.identity
  own : ∀ pair ∈ origins.zip registry.router.table, pair.1.2.IsFresh → ∀ other ∈ made, other.identity ≠ pair.2.resource.identity

theorem founded_congr (made : List Resource) (origins : List (String × Source)) (a b : Registry) (founded : Founded made origins a)
    (same : b.router.table = a.router.table) : Founded made origins b :=
  ⟨same ▸ founded.stems, same ▸ founded.apart, same ▸ founded.own⟩

theorem founded_with_made (made : List Resource) (origins : List (String × Source)) (registry : Registry) (resource : Resource)
    (founded : Founded made origins registry) (fresh : ∀ other ∈ registry.known made, other.identity ≠ resource.identity) :
    Founded (made ++ [resource]) origins registry := by
  refine ⟨founded.stems.imp fun {entry route} stems => ?_, founded.apart, fun pair member isFresh other known => ?_⟩
  · obtain ⟨target, leads, yields⟩ := stems.resource
    exact ⟨stems.text, target, Source.leads_append made [resource] entry.2 target leads, yields⟩
  · rcases List.mem_append.mp known with old | new
    · exact founded.own pair member isFresh other old
    · obtain rfl := List.mem_singleton.mp new
      exact (fresh _ (List.mem_append_right _ (List.mem_map_of_mem (List.of_mem_zip member).2))).symm

-- An object that is constructed for a route is known from nowhere else.
theorem registered_fresh (made : List Resource) (registry : Registry) (text : String) (target : Target)
    (attachments : List (String × ParserId)) (route : Route Resource) (endpoint : Endpoint) (objects : Objects) (source : Source)
    (sound : Sound made registry) (leads : source.Leads made target)
    (registered : registry.Registered text target attachments route endpoint objects) (isFresh : source.IsFresh) :
    ∀ other ∈ registry.known made, other.identity ≠ route.resource.identity := by
  intro other known same
  cases source with
  | made place => exact isFresh
  | fresh cls =>
    rcases Objects.realize_ok _ _ target route.resource registered.realized with existing | ⟨made, _, numbered, _⟩
    · rw [Source.Leads, existing] at leads
      cases leads
    · have issued := sound.issued other known
      rw [same, numbered] at issued
      exact Nat.lt_irrefl _ issued

theorem founded_after_route (made : List Resource) (origins : List (String × Source)) (registry : Registry) (text : String)
    (target : Target) (attachments : List (String × ParserId)) (route : Route Resource) (endpoint : Endpoint) (objects : Objects)
    (source : Source) (sound : Sound made registry) (founded : Founded made origins registry) (leads : source.Leads made target)
    (registered : registry.Registered text target attachments route endpoint objects) :
    Founded made (origins ++ [(text, source)]) (registry.afterRoute route endpoint objects) := by
  have fresh := registered_fresh made registry text target attachments route endpoint objects source sound leads registered
  have yields : target.Yields route.resource :=
    Objects.realize_yields registry.router.objects target route.resource (congrArg Prod.fst registered.realized)
  have pairs : (origins ++ [(text, source)]).zip (registry.router.table ++ [route]) =
      origins.zip registry.router.table ++ [((text, source), route)] := by
    rw [List.zip_append founded.stems.length_eq]
    rfl
  have stored : ∀ pair ∈ origins.zip registry.router.table, pair.2.resource ∈ registry.known made := fun pair member =>
    List.mem_append_right _ (List.mem_map_of_mem (List.of_mem_zip member).2)
  refine ⟨?_, ?_, ?_⟩
  · have textual : route.rule.text = text := Rule.compile_text text route.rule registered.compiled
    exact List.rel_append founded.stems (.cons ⟨textual, target, leads, yields⟩ .nil)
  · rw [show (registry.afterRoute route endpoint objects).router.table = registry.router.table ++ [route] from rfl, pairs]
    refine List.pairwise_append.mpr ⟨founded.apart, List.pairwise_singleton _ _, fun pair member last here => ?_⟩
    rintro (oldFresh | newFresh)
    · obtain rfl := List.mem_singleton.mp here
      cases source with
      | fresh cls => exact fresh trivial _ (stored pair member)
      | made place =>
        obtain ⟨resource, found, rfl⟩ := leads
        have given : route.resource = resource := yields
        exact given ▸ (founded.own pair member oldFresh resource (List.mem_of_getElem? found)).symm
    · obtain rfl := List.mem_singleton.mp here
      exact fresh newFresh _ (stored pair member)
  · intro pair member isFresh other known
    rw [show (registry.afterRoute route endpoint objects).router.table = registry.router.table ++ [route] from rfl, pairs] at member
    rcases List.mem_append.mp member with old | new
    · exact founded.own pair old isFresh other known
    · obtain rfl := List.mem_singleton.mp new
      exact fresh isFresh other (List.mem_append_left _ known)

-- As many entries have become routes as the table has grown.
theorem register_founded (made : List Resource) (origins : List (String × Source)) (registry : Registry) (text : String) (target : Target)
    (attachments : List (String × ParserId)) (source : Source) (sound : Sound made registry) (founded : Founded made origins registry)
    (leads : source.Leads made target) :
    ∃ n, (registry.register text target attachments).2.router.table.length = registry.router.table.length + n ∧
      Founded made (origins ++ [(text, source)].take n) (registry.register text target attachments).2 := by
  rcases registry.register_cases text target attachments with ⟨e, objects, failed, _⟩ | ⟨route, endpoint, objects, done, registered⟩
  · rw [failed]
    refine ⟨0, rfl, ?_⟩
    rw [List.take_zero, List.append_nil]
    exact founded_congr made origins registry _ founded rfl
  · rw [done]
    refine ⟨1, ?_, ?_⟩
    · rw [afterRoute, List.length_append, List.length_singleton]
    · exact founded_after_route made origins registry text target attachments route endpoint objects source sound founded leads registered

theorem register_all_founded (made : List Resource) (origins : List (String × Source)) (registry : Registry)
    (entries : List (String × Source)) (targets : List (String × Target)) (sound : Sound made registry)
    (founded : Founded made origins registry)
    (leads : List.Forall₂ (fun entry target => entry.1 = target.1 ∧ entry.2.Leads made target.2) entries targets) :
    ∃ n, (registry.registerAll targets).2.router.table.length = registry.router.table.length + n ∧
      Founded made (origins ++ entries.take n) (registry.registerAll targets).2 := by
  induction leads generalizing registry origins with
  | nil => exact ⟨0, rfl, (List.append_nil origins).symm ▸ founded⟩
  | @cons entry given entries targets here rest ih =>
    obtain ⟨text, source⟩ := entry
    obtain ⟨_, target⟩ := given
    obtain ⟨rfl, leads⟩ := here
    rw [register_all_next]
    rcases registry.register_cases text target [] with ⟨e, objects, failed, _⟩ | ⟨route, endpoint, objects, done, registered⟩
    · rw [failed]
      refine ⟨0, rfl, ?_⟩
      rw [List.take_zero, List.append_nil]
      exact founded_congr made origins registry _ founded rfl
    · have later := registry.sound_after_route made text target [] route endpoint objects sound (Source.leads_available made source target leads)
        (fun _ never => nomatch never) registered
      have grown := founded_after_route made origins registry text target [] route endpoint objects source sound founded leads registered
      obtain ⟨n, longer, all⟩ := ih _ _ later grown
      rw [done]
      refine ⟨n + 1, ?_, ?_⟩
      · rw [longer, afterRoute, List.length_append, List.length_singleton]
        omega
      · rw [List.take_succ_cons]
        simpa using all

end Registry

-- What a step is to register.
def AppStep.entries : AppStep → List (String × Source)
  | .setup (.add text source _) => [(text, source)]
  | .setup (.addAll entries) => entries
  | _ => []

namespace AppState

-- The registrations from which the routes of a run stem: those of a step that have become routes are its first ones.
def origins (state : AppState) : List AppStep → List (String × Source)
  | [] => []
  | step :: rest =>
    step.entries.take ((state.step step).2.registry.router.table.length - state.registry.router.table.length) ++
      (state.step step).2.origins rest

theorem target_leads (state : AppState) (source : Source) (target : Target) (found : state.target? source = some target) :
    source.Leads state.made target := by
  cases source with
  | fresh cls => exact (Option.some.inj found).symm
  | made place =>
    obtain ⟨resource, access, same⟩ := Option.map_eq_some_iff.mp found
    exact ⟨resource, access, same.symm⟩

theorem targets_lead (state : AppState) (entries : List (String × Source)) (targets : List (String × Target))
    (found : state.targets? entries = some targets) :
    List.Forall₂ (fun entry target => entry.1 = target.1 ∧ entry.2.Leads state.made target.2) entries targets := by
  induction entries generalizing targets with
  | nil =>
    obtain rfl := Option.some.inj found
    exact .nil
  | cons entry rest ih =>
    obtain ⟨text, source⟩ := entry
    rw [targets?] at found
    cases here : state.target? source with
    | none => simp [here] at found
    | some target =>
      cases later : state.targets? rest with
      | none => simp [here, later] at found
      | some others =>
        simp only [here, later, Option.some.injEq] at found
        subst found
        exact .cons ⟨rfl, state.target_leads source target here⟩ (ih others later)

theorem construct_founded (state : AppState) (cls : ResourceClass) (origins : List (String × Source)) (sound : Sound state)
    (founded : state.registry.Founded state.made origins) :
    (state.construct cls).2.registry.router.table = state.registry.router.table ∧
      (state.construct cls).2.registry.Founded (state.construct cls).2.made origins := by
  rw [construct]
  cases constructed : state.registry.router.objects.construct cls with
  | mk result objects =>
    cases result with
    | error fault => exact ⟨rfl, Registry.founded_congr state.made origins state.registry _ founded rfl⟩
    | ok resource =>
      refine ⟨rfl, ?_⟩
      obtain rfl := Objects.construct_ok _ _ cls resource constructed
      refine Registry.founded_congr _ origins state.registry _ (Registry.founded_with_made _ _ _ _ founded fun other known same => ?_) rfl
      have issued := sound.registry.issued other known
      rw [same] at issued
      exact Nat.lt_irrefl _ issued

theorem hold_founded (state : AppState) (v : Value) (origins : List (String × Source)) (sound : Sound state)
    (founded : state.registry.Founded state.made origins) :
    state.registry.Founded (state.made ++ [.plain state.made.length v]) origins := by
  refine Registry.founded_with_made state.made origins state.registry _ founded fun other known same => ?_
  have issued := sound.registry.issued other known
  rw [same] at issued
  exact Nat.lt_irrefl _ issued

theorem setup_founded (state : AppState) (step : SetupStep) (origins : List (String × Source)) (sound : Sound state)
    (founded : state.registry.Founded state.made origins) :
    ∃ n, (state.setup step).2.registry.router.table.length = state.registry.router.table.length + n ∧
      (state.setup step).2.registry.Founded (state.setup step).2.made (origins ++ (AppStep.setup step).entries.take n) := by
  have nothing : ∀ next : AppState, next.registry.router.table = state.registry.router.table → next.registry.Founded next.made origins →
      ∃ n, next.registry.router.table.length = state.registry.router.table.length + n ∧
        next.registry.Founded next.made (origins ++ (AppStep.setup step).entries.take n) := by
    intro next same here
    refine ⟨0, by rw [same, Nat.add_zero], ?_⟩
    rw [List.take_zero, List.append_nil]
    exact here
  cases step with
  | construct cls =>
    obtain ⟨same, here⟩ := state.construct_founded cls origins sound founded
    exact nothing _ same here
  | hold v => exact nothing _ rfl (state.hold_founded v origins sound founded)
  | makeParser parser => exact nothing _ rfl (Registry.founded_congr state.made origins state.registry _ founded rfl)
  | add text source attachments =>
    rw [setup]
    cases found : state.target? source with
    | none => exact nothing state rfl founded
    | some target =>
      cases state.canAttach attachments with
      | false => exact nothing state rfl founded
      | true =>
        exact state.registry.register_founded state.made origins text target attachments source sound.registry founded
          (state.target_leads source target found)
  | addAll entries =>
    rw [setup]
    cases found : state.targets? entries with
    | none => exact nothing state rfl founded
    | some targets =>
      exact state.registry.register_all_founded state.made origins entries targets sound.registry founded
        (state.targets_lead entries targets found)

theorem step_founded (state : AppState) (step : AppStep) (origins : List (String × Source)) (sound : Sound state)
    (founded : state.registry.Founded state.made origins) :
    (state.step step).2.registry.Founded (state.step step).2.made
      (origins ++ step.entries.take ((state.step step).2.registry.router.table.length - state.registry.router.table.length)) := by
  cases step with
  | setup step =>
    obtain ⟨n, longer, here⟩ := state.setup_founded step origins sound founded
    have growth : (state.setup step).2.registry.router.table.length - state.registry.router.table.length = n := by omega
    rw [AppState.step, growth]
    exact here
  | amendParser id change => exact Registry.founded_congr state.made _ state.registry _ (by simpa [AppStep.entries] using founded) rfl
  | addMiddleware middleware => exact Registry.founded_congr state.made _ state.registry _ (by simpa [AppStep.entries] using founded) rfl
  | call scope channel =>
    have same := state.app.call_keeps (fun registry => registry.router.table = state.registry.router.table) (fun _ _ _ same _ => same)
      scope channel sound.isOpaque rfl
    exact Registry.founded_congr state.made _ state.registry _ (by simpa [AppStep.entries] using founded) same

theorem run_founded (state : AppState) (steps : List AppStep) (origins : List (String × Source))
    (guarded : ∀ step ∈ steps, step.Guarded) (sound : Sound state) (founded : state.registry.Founded state.made origins) :
    (state.run steps).2.registry.Founded (state.run steps).2.made (origins ++ state.origins steps) := by
  induction steps generalizing state origins with
  | nil => exact (List.append_nil origins).symm ▸ founded
  | cons step rest ih =>
    have later : ∀ other ∈ rest, other.Guarded := fun other member => guarded other (List.mem_cons_of_mem _ member)
    have next := ih _ _ later (step_sound state step (guarded step List.mem_cons_self) sound) (state.step_founded step origins sound founded)
    rw [List.append_assoc] at next
    exact next

-- The routes of every application stem from what was registered with it.
theorem new_founded (strict debug : Bool) (started : List (String × Nat)) (steps : List AppStep) (guarded : ∀ step ∈ steps, step.Guarded) :
    let state := ((new strict debug started).run steps).2
    state.registry.Founded state.made ((new strict debug started).origins steps) :=
  run_founded _ steps [] guarded (new_sound strict debug started) ⟨.nil, .nil, fun _ never => nomatch never⟩

end AppState
end RestDispatch
