import RestDispatch.Proofs.App.Soundness
import RestDispatch.Proofs.App.Opacity

set_option autoImplicit false

/-!
Applications that are run. A call changes at most what the resource that answers it keeps. Main
statement: every run of an application, whatever its steps do or fail to do, leaves a sound one.
-/
namespace RestDispatch

namespace Registry

theorem find_stored (registry : Registry) (path : String) (captures : Captures) (resource : Resource)
    (found : registry.find? path = some (captures, resource)) : ∃ route ∈ registry.router.table, route.resource = resource := by
  obtain ⟨resolved, _⟩ := Option.filter_eq_some_iff.mp found
  obtain ⟨route, member, matched⟩ := List.exists_of_findSome?_eq_some resolved
  obtain ⟨_, _, same⟩ := Option.map_eq_some_iff.mp matched
  exact ⟨route, member, (Prod.mk.inj same).2⟩

-- So the resource that a path leads to has its endpoint.
theorem find_endpoint (made : List Resource) (registry : Registry) (sound : Sound made registry) (path : String) (captures : Captures)
    (resource : Resource) (found : registry.find? path = some (captures, resource)) :
    ∃ endpoint, registry.endpoint? resource = some endpoint := by
  obtain ⟨route, member, rfl⟩ := registry.find_stored path captures resource found
  obtain ⟨endpoint, present, _⟩ := sound.served route member
  exact ⟨endpoint, present⟩

theorem perform_registry (registry : Registry) (resource : Resource) (handler : Handler) (parser : Option Parser) (request : Request) :
    (registry.perform resource handler parser request).2 = registry ∨
      ∃ items, (registry.perform resource handler parser request).2 = registry.keep resource.identity items := by
  rw [perform]
  cases handler.signature.collect handler.signature.models parser request with
  | mk result request =>
    cases result with
    | error refusal => exact Or.inl rfl
    | ok arguments => exact Or.inr ⟨_, rfl⟩

theorem serve_registry (registry : Registry) (captures : Captures) (resource : Resource) (scope : Scope) (channel : Channel) :
    (registry.serve captures resource scope channel).2 = registry ∨
      ∃ items, (registry.serve captures resource scope channel).2 = registry.keep resource.identity items := by
  rw [serve]
  cases registry.endpoint? resource with
  | none => exact Or.inl rfl
  | some endpoint =>
    generalize Request.ofScope scope channel _ = built
    cases built with
    | error fault => exact Or.inl rfl
    | ok request =>
      cases named : Verb.named? request.method with
      | none => exact Or.inl (by simp only [named])
      | some verb =>
        cases served : endpoint.methods.lookup verb with
        | none => exact Or.inl (by simp only [named, served])
        | some handler => simpa only [named, served] using registry.perform_registry resource handler _ request

-- Answering changes nothing but what the resource of one route keeps.
theorem answer_registry (registry : Registry) (scope : Scope) (channel : Channel) :
    (registry.answer scope channel).2 = registry ∨
      ∃ route ∈ registry.router.table, ∃ items, (registry.answer scope channel).2 = registry.keep route.resource.identity items := by
  rw [answer]
  cases scope.path with
  | none => exact Or.inl rfl
  | some path =>
    cases found : registry.find? path with
    | none => exact Or.inl (by simp only [found])
    | some hit =>
      obtain ⟨captures, resource⟩ := hit
      obtain ⟨route, member, rfl⟩ := registry.find_stored path captures resource found
      rcases registry.serve_registry captures route.resource scope channel with same | ⟨items, kept⟩
      · exact Or.inl (by simpa only [found] using same)
      · exact Or.inr ⟨route, member, items, by simpa only [found] using kept⟩

theorem keep_sound (made : List Resource) (registry : Registry) (route : Route Resource) (items : List Content)
    (sound : Sound made registry) (member : route ∈ registry.router.table) :
    Sound made (registry.keep route.resource.identity items) := by
  refine sound_with_objects made registry (registry.router.objects.keep route.resource.identity items) sound
    (fun _ => Nat.le_refl _) fun entry inside => ?_
  rcases mem_of_mem_put _ _ _ entry inside with rfl | old
  · exact Or.inr ⟨route, member, rfl⟩
  · exact Or.inl old

-- What holds of a registry whatever its objects keep is not changed by an answer.
theorem answer_keeps (P : Registry → Prop)
    (keeps : ∀ registry route items, P registry → route ∈ registry.router.table → P (registry.keep route.resource.identity items))
    (registry : Registry) (scope : Scope) (channel : Channel) (holds : P registry) : P (registry.answer scope channel).2 := by
  rcases registry.answer_registry scope channel with same | ⟨route, member, items, kept⟩
  · rw [same]
    exact holds
  · rw [kept]
    exact keeps registry route items holds member

theorem answer_sound (made : List Resource) (registry : Registry) (scope : Scope) (channel : Channel)
    (sound : Sound made registry) : Sound made (registry.answer scope channel).2 :=
  answer_keeps (Sound made) (keep_sound made) registry scope channel sound

theorem sound_with_parsers (made : List Resource) (registry : Registry) (parsers : List Parser) (sound : Sound made registry)
    (longer : registry.parsers.length ≤ parsers.length) : Sound made { registry with parsers } :=
  { table := sound.table
    served := sound.served
    owned := sound.owned
    attached := fun entry member attachment inside =>
      (sound.attached entry member attachment inside).imp id fun earlier => Nat.lt_of_lt_of_le earlier longer
    issued := sound.issued
    single := sound.single
    kept := sound.kept }

end Registry

theorem Dispatcher.handle_keeps (P : Registry → Prop)
    (keeps : ∀ registry route items, P registry → route ∈ registry.router.table → P (registry.keep route.resource.identity items)) :
    Respects (fun a b => a = b ∧ P a.registry) Dispatcher.handle := by
  intro a b related scope channel
  obtain ⟨rfl, holds⟩ := related
  refine ⟨⟨rfl, ?_⟩, rfl⟩
  rw [handle]
  split
  · exact holds
  · exact Registry.answer_keeps P keeps a.registry scope channel holds

-- The same goes for a call, in whatever middleware it is answered.
theorem App.call_keeps (P : Registry → Prop)
    (keeps : ∀ registry route items, P registry → route ∈ registry.router.table → P (registry.keep route.resource.identity items))
    (app : App) (scope : Scope) (channel : Channel) (isOpaque : app.Opaque) (holds : P app.registry) :
    P (app.call scope channel).1.registry := by
  have alike : App.Alike (fun a b => a = b ∧ P a.registry) app app := ⟨⟨rfl, holds⟩, rfl, rfl, rfl⟩
  exact (App.call_alike _ _ _ scope channel (Dispatcher.handle_keeps P keeps) isOpaque alike).2.dispatcher.2

-- Middleware that is added is opaque.
def AppStep.Guarded : AppStep → Prop
  | .addMiddleware middleware => middleware.Opaque
  | _ => True

namespace AppState

structure Sound (state : AppState) : Prop where
  registry : Registry.Sound state.made state.registry
  isOpaque : state.app.Opaque

theorem sound_with_registry (app : App) (made : List Resource) (registry : Registry) (isOpaque : app.Opaque)
    (sound : Registry.Sound made registry) : Sound { app := app.withRegistry registry, made } :=
  ⟨sound, isOpaque.middleware, isOpaque.chain⟩

theorem new_sound (strict debug : Bool) (started : List (String × Nat)) : Sound (new strict debug started) := by
  refine ⟨?_, App.new_opaque strict debug _⟩
  constructor
  · exact Table.valid_nil
  all_goals
    intro resource member
    exact (List.not_mem_nil member).elim

theorem can_attach_iff (state : AppState) (attachments : List (String × ParserId)) :
    state.canAttach attachments = true ↔ ∀ attachment ∈ attachments, attachment.2 < state.registry.parsers.length := by
  simp [canAttach]

theorem target_available (state : AppState) (source : Source) (target : Target) (found : state.target? source = some target)
    (resource : Resource) (existing : target = .existing resource) : resource ∈ state.made := by
  cases source with
  | fresh cls =>
    subst existing
    cases found
  | made place =>
    obtain ⟨other, access, same⟩ := Option.map_eq_some_iff.mp found
    rw [existing] at same
    exact Target.existing.inj same ▸ List.mem_of_getElem? access

theorem targets_available (state : AppState) (entries : List (String × Source)) (targets : List (String × Target))
    (found : state.targets? entries = some targets) (entry : String × Target) (member : entry ∈ targets) (resource : Resource)
    (existing : entry.2 = .existing resource) : resource ∈ state.made := by
  induction entries generalizing targets with
  | nil =>
    obtain rfl := Option.some.inj found
    cases member
  | cons first rest ih =>
    obtain ⟨text, source⟩ := first
    rw [targets?] at found
    cases here : state.target? source with
    | none => simp [here] at found
    | some target =>
      cases later : state.targets? rest with
      | none => simp [here, later] at found
      | some others =>
        simp only [here, later, Option.some.injEq] at found
        subst found
        rcases List.mem_cons.mp member with rfl | inside
        · exact target_available state source target here resource existing
        · exact ih others later inside

theorem construct_sound (state : AppState) (cls : ResourceClass) (sound : Sound state) : Sound (state.construct cls).2 := by
  have more := state.registry.router.objects.construct_count cls
  have keptSame := state.registry.router.objects.construct_kept cls
  have objectsSound := Registry.sound_with_objects state.made state.registry _ sound.registry more
    fun entry member => Or.inl (keptSame ▸ member)
  rw [construct]
  cases constructed : state.registry.router.objects.construct cls with
  | mk result objects =>
    rw [constructed] at objectsSound more
    cases result with
    | error fault => exact sound_with_registry state.app state.made _ sound.isOpaque objectsSound
    | ok resource =>
      refine sound_with_registry state.app _ _ sound.isOpaque ?_
      have counted : objects.count cls.name = state.registry.router.objects.count cls.name + 1 := by
        have after := state.registry.router.objects.construct_objects cls
        rw [constructed] at after
        rw [show objects = _ from after, Objects.count_after, if_pos rfl]
      obtain rfl := Objects.construct_ok _ _ cls resource constructed
      refine Registry.sound_with_made state.made _ _ objectsSound ?_ fun other known same => ?_
      · show state.registry.router.objects.count cls.name < objects.count cls.name
        omega
      · have issued := sound.registry.issued other known
        rw [same] at issued
        exact Nat.lt_irrefl _ issued

theorem hold_sound (state : AppState) (v : Value) (sound : Sound state) :
    Sound { state with made := state.made ++ [.plain state.made.length v] } := by
  refine sound_with_registry state.app _ state.registry sound.isOpaque ?_
  refine Registry.sound_with_made state.made state.registry _ sound.registry (Nat.lt_succ_self _) fun other known same => ?_
  have issued := sound.registry.issued other known
  rw [same] at issued
  exact Nat.lt_irrefl _ issued

theorem register_all_sound (made : List Resource) (registry : Registry) (entries : List (String × Target))
    (sound : Registry.Sound made registry)
    (available : ∀ entry ∈ entries, ∀ resource, entry.2 = .existing resource → resource ∈ made) :
    Registry.Sound made (registry.registerAll entries).2 :=
  Registry.register_all_keeps (Registry.Sound made) entries
    (fun registry entry here member => registry.register_sound made entry.1 entry.2 [] here (available entry member)
      fun _ inside => (List.not_mem_nil inside).elim)
    registry sound

theorem setup_sound (state : AppState) (step : SetupStep) (sound : Sound state) : Sound (state.setup step).2 := by
  cases step with
  | construct cls => exact construct_sound state cls sound
  | hold v => exact hold_sound state v sound
  | makeParser parser =>
    have longer := Registry.sound_with_parsers state.made state.registry (state.registry.parsers ++ [parser]) sound.registry (by simp)
    exact sound_with_registry state.app state.made _ sound.isOpaque longer
  | add text source attachments =>
    rw [setup]
    cases found : state.target? source with
    | none => exact sound
    | some target =>
      cases attachable : state.canAttach attachments with
      | false => exact sound
      | true =>
        refine sound_with_registry state.app state.made _ sound.isOpaque ?_
        exact state.registry.register_sound state.made text target attachments sound.registry
          (state.target_available source target found) ((state.can_attach_iff attachments).mp attachable)
  | addAll entries =>
    rw [setup]
    cases found : state.targets? entries with
    | none => exact sound
    | some targets =>
      refine sound_with_registry state.app state.made _ sound.isOpaque ?_
      exact register_all_sound state.made state.registry targets sound.registry (state.targets_available entries targets found)

theorem call_sound (state : AppState) (scope : Scope) (channel : Channel) (sound : Sound state) :
    Sound { state with app := (state.app.call scope channel).1 } := by
  have kept := state.app.call_keeps (Registry.Sound state.made) (Registry.keep_sound state.made) scope channel sound.isOpaque
    sound.registry
  exact ⟨kept, App.call_opaque state.app scope channel sound.isOpaque⟩

theorem step_sound (state : AppState) (step : AppStep) (guarded : step.Guarded) (sound : Sound state) :
    Sound (state.step step).2 := by
  cases step with
  | setup step => exact setup_sound state step sound
  | amendParser id change =>
    have same := Registry.sound_with_parsers state.made state.registry (state.registry.parsers.modify id change) sound.registry (by simp)
    exact sound_with_registry state.app state.made _ sound.isOpaque same
  | addMiddleware middleware =>
    exact ⟨sound.registry, App.add_middleware_opaque state.app middleware sound.isOpaque guarded⟩
  | call scope channel => exact call_sound state scope channel sound

theorem run_sound (state : AppState) (steps : List AppStep) (guarded : ∀ step ∈ steps, step.Guarded) (sound : Sound state) :
    Sound (state.run steps).2 :=
  run_keeps Sound steps (fun state step member here => step_sound state step (guarded step member) here) state sound

end AppState
end RestDispatch
