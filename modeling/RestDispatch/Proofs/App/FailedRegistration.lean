import RestDispatch.Proofs.App.Renumbering

set_option autoImplicit false

/-!
Registrations that fail. Main statement: a failed registration changes no route, no endpoint and no parser,
and whatever is done afterwards is answered as if it had not been tried, except that objects of its class may
be numbered from one further on.
-/
namespace RestDispatch

def StepReport.rename (ρ : Renumbering) : StepReport → StepReport
  | .registered result => .registered (result.map (List.map (Route.rename ρ)))
  | report => report

-- Whether a step constructs an object of a class.
def AppStep.Builds (cls : ResourceClass) : AppStep → Prop
  | .setup (.construct other) => other = cls
  | .setup (.add _ (.fresh other) _) => other = cls
  | .setup (.addAll entries) => ∃ entry ∈ entries, entry.2 = .fresh cls
  | _ => False

def AppStep.Settled (ρ : Renumbering) (step : AppStep) : Prop :=
  ∀ cls, step.Builds cls → ∀ serial, (Resource.object cls serial).Settled ρ

namespace Registry

theorem register_settled (ρ : Renumbering) (made : List Resource) (registry : Registry) (text : String) (target : Target)
    (attachments : List (String × ParserId)) (settled : ∀ resource ∈ registry.known made, resource.Settled ρ) (given : target.Settled ρ) :
    ∀ resource ∈ (registry.register text target attachments).2.known made, resource.Settled ρ := by
  rcases register_cases registry text target attachments with ⟨e, objects, failed, _⟩ | ⟨route, endpoint, objects, done, registered⟩
  · rw [failed]
    exact settled
  · rw [done]
    intro resource member
    simp only [known, afterRoute, List.map_append, List.mem_append, List.map_cons, List.map_nil, List.mem_singleton] at member
    rcases member with old | old | rfl
    · exact settled resource (List.mem_append_left _ old)
    · exact settled resource (List.mem_append_right _ old)
    · rcases Objects.realize_ok _ _ target route.resource registered.realized with rfl | ⟨cls, rfl, fresh, _⟩
      · exact given
      · exact fresh ▸ given _

theorem answer_known (made : List Resource) (registry : Registry) (scope : Scope) (channel : Channel) :
    (registry.answer scope channel).2.known made = registry.known made := by
  rcases registry.answer_registry scope channel with same | ⟨route, _, items, kept⟩
  · rw [same]
  · rw [kept]
    rfl

end Registry

-- Dispatchers whose registries are renumbered, with what that takes of the first one.
def Dispatcher.Renumbered (ρ : Renumbering) (made : List Resource) (a b : Dispatcher) : Prop :=
  b.debug = a.debug ∧ Registry.Sound made a.registry ∧ (∀ resource ∈ a.registry.known made, resource.Settled ρ) ∧
    Registry.Renumbered ρ a.registry b.registry

theorem Dispatcher.handle_renumbered (ρ : Renumbering) (made : List Resource) : Respects (Renumbered ρ made) handle := by
  intro a b related scope channel
  obtain ⟨debug, sound, settled, renumbered⟩ := related
  rw [handle, handle]
  split
  · exact ⟨⟨debug, sound, settled, renumbered⟩, rfl⟩
  · have routes : ∀ route ∈ a.registry.router.table, route.resource.Settled ρ :=
      fun route stored => settled _ (List.mem_append_right _ (List.mem_map_of_mem stored))
    obtain ⟨same, after⟩ := Registry.answer_renumbered ρ a.registry b.registry made scope channel sound routes renumbered
    refine ⟨⟨debug, a.registry.answer_sound made scope channel sound, ?_, after⟩, by simp only [same, debug]⟩
    rw [Registry.answer_known]
    exact settled

namespace AppState

structure Renumbered (ρ : Renumbering) (a b : AppState) : Prop where
  made : b.made = a.made.map (Resource.rename ρ)
  app : App.Alike (Dispatcher.Renumbered ρ a.made) a.app b.app
  isOpaque : a.app.Opaque

variable (ρ : Renumbering) (a b : AppState)

theorem registry_renumbered (renumbered : Renumbered ρ a b) : Registry.Renumbered ρ a.registry b.registry :=
  renumbered.app.dispatcher.2.2.2

theorem with_registry_renumbered (made : List Resource) (registryA registryB : Registry) (renumbered : Renumbered ρ a b)
    (sound : Registry.Sound made registryA) (settled : ∀ resource ∈ registryA.known made, resource.Settled ρ)
    (after : Registry.Renumbered ρ registryA registryB) :
    Renumbered ρ { app := a.app.withRegistry registryA, made } { app := b.app.withRegistry registryB, made := made.map (Resource.rename ρ) } :=
  { made := rfl
    app := ⟨⟨renumbered.app.dispatcher.1, sound, settled, after⟩, renumbered.app.middleware, renumbered.app.chain, renumbered.app.builds⟩
    isOpaque := ⟨renumbered.isOpaque.middleware, renumbered.isOpaque.chain⟩ }

theorem same_made_renumbered (registryA registryB : Registry) (renumbered : Renumbered ρ a b) (sound : Registry.Sound a.made registryA)
    (settled : ∀ resource ∈ registryA.known a.made, resource.Settled ρ) (after : Registry.Renumbered ρ registryA registryB) :
    Renumbered ρ (a.withRegistry registryA) (b.withRegistry registryB) := by
  have placed := with_registry_renumbered ρ a b a.made registryA registryB renumbered sound settled after
  rw [← renumbered.made] at placed
  exact placed

theorem target_renumbered (source : Source) (renumbered : Renumbered ρ a b) :
    b.target? source = (a.target? source).map (Target.rename ρ) := by
  cases source with
  | fresh cls => rfl
  | made place =>
    rw [target?, target?, renumbered.made, List.getElem?_map]
    cases a.made[place]? <;> rfl

theorem targets_renumbered (entries : List (String × Source)) (renumbered : Renumbered ρ a b) :
    b.targets? entries = (a.targets? entries).map (List.map fun entry => (entry.1, entry.2.rename ρ)) := by
  induction entries with
  | nil => rfl
  | cons entry rest ih =>
    obtain ⟨text, source⟩ := entry
    rw [targets?, targets?, target_renumbered ρ a b source renumbered, ih]
    cases a.target? source with
    | none => rfl
    | some target => cases a.targets? rest <;> rfl

theorem can_attach_renumbered (attachments : List (String × ParserId)) (renumbered : Renumbered ρ a b) :
    b.canAttach attachments = a.canAttach attachments := by
  rw [canAttach, canAttach, (registry_renumbered ρ a b renumbered).parsers]

theorem target_settled (source : Source) (target : Target) (found : a.target? source = some target)
    (settled : ∀ resource ∈ a.registry.known a.made, resource.Settled ρ)
    (fresh : ∀ cls, source = .fresh cls → ∀ serial, (Resource.object cls serial).Settled ρ) : target.Settled ρ := by
  cases source with
  | fresh cls =>
    obtain rfl := Option.some.inj found
    exact fresh cls rfl
  | made place =>
    obtain ⟨resource, access, rfl⟩ := Option.map_eq_some_iff.mp found
    exact settled resource (List.mem_append_left _ (List.mem_of_getElem? access))

theorem targets_settled (entries : List (String × Source)) (targets : List (String × Target)) (found : a.targets? entries = some targets)
    (settled : ∀ resource ∈ a.registry.known a.made, resource.Settled ρ)
    (fresh : ∀ entry ∈ entries, ∀ cls, entry.2 = .fresh cls → ∀ serial, (Resource.object cls serial).Settled ρ) :
    ∀ entry ∈ targets, entry.2.Settled ρ := by
  induction entries generalizing targets with
  | nil =>
    obtain rfl := Option.some.inj found
    intro entry member
    cases member
  | cons first rest ih =>
    obtain ⟨text, source⟩ := first
    rw [targets?] at found
    cases here : a.target? source with
    | none => simp [here] at found
    | some target =>
      cases later : a.targets? rest with
      | none => simp [here, later] at found
      | some others =>
        simp only [here, later, Option.some.injEq] at found
        subst found
        intro entry member
        rcases List.mem_cons.mp member with rfl | inside
        · exact target_settled ρ a source target here settled (fresh (text, source) List.mem_cons_self)
        · exact ih others later (fun other within => fresh other (List.mem_cons_of_mem _ within)) entry inside

theorem construct_renumbered (cls : ResourceClass)
    (next : Registry.Sound (a.construct cls).2.made (a.construct cls).2.registry)
    (settled : ∀ resource ∈ a.registry.known a.made, resource.Settled ρ) (fresh : ∀ serial, (Resource.object cls serial).Settled ρ)
    (renumbered : Renumbered ρ a b) :
    (b.construct cls).1 = (a.construct cls).1 ∧ Renumbered ρ (a.construct cls).2 (b.construct cls).2 := by
  have registries := registry_renumbered ρ a b renumbered
  obtain ⟨same, after⟩ := Objects.construct_renumbered ρ _ _ cls registries.objects
  rw [construct, construct] at *
  cases madeA : a.registry.router.objects.construct cls with
  | mk resultA objectsA =>
    cases madeB : b.registry.router.objects.construct cls with
    | mk resultB objectsB =>
      rw [madeA, madeB] at same after
      rw [madeA] at next
      obtain rfl : resultB = resultA.map (Resource.rename ρ) := same
      have objects := Registry.objects_renumbered ρ _ _ objectsA objectsB after registries
      cases resultA with
      | error fault => exact ⟨rfl, same_made_renumbered ρ a b _ _ renumbered next settled objects⟩
      | ok resource =>
        refine ⟨rfl, ?_⟩
        have known : ∀ other ∈ (a.registry.withObjects objectsA).known (a.made ++ [resource]), other.Settled ρ := by
          intro other member
          simp only [Registry.known, Registry.withObjects, List.mem_append, List.mem_singleton] at member
          rcases member with (old | rfl) | routed
          · exact settled other (List.mem_append_left _ old)
          · rw [Objects.construct_ok _ _ cls other madeA]
            exact fresh _
          · exact settled other (List.mem_append_right _ routed)
        have placed := with_registry_renumbered ρ a b (a.made ++ [resource]) _ _ renumbered next known objects
        rw [List.map_append, ← renumbered.made] at placed
        exact placed

theorem hold_renumbered (v : Value) (next : Registry.Sound (a.made ++ [.plain a.made.length v]) a.registry)
    (settled : ∀ resource ∈ a.registry.known a.made, resource.Settled ρ) (renumbered : Renumbered ρ a b) :
    Renumbered ρ (a.setup (.hold v)).2 (b.setup (.hold v)).2 := by
  have known : ∀ resource ∈ a.registry.known (a.made ++ [.plain a.made.length v]), resource.Settled ρ := by
    intro resource member
    simp only [Registry.known, List.mem_append, List.mem_singleton] at member
    rcases member with (old | rfl) | routed
    · exact settled resource (List.mem_append_left _ old)
    · exact Or.inl rfl
    · exact settled resource (List.mem_append_right _ routed)
  have placed := with_registry_renumbered ρ a b (a.made ++ [.plain a.made.length v]) _ _ renumbered next known
    (registry_renumbered ρ a b renumbered)
  have length : b.made.length = a.made.length := by rw [renumbered.made, List.length_map]
  rw [List.map_append, ← renumbered.made] at placed
  simp only [setup, length]
  exact placed

theorem setup_renumbered (step : SetupStep) (settles : (AppStep.setup step).Settled ρ) (renumbered : Renumbered ρ a b) :
    (b.setup step).1 = (a.setup step).1.rename ρ ∧ Renumbered ρ (a.setup step).2 (b.setup step).2 := by
  have registries : Registry.Renumbered ρ a.registry b.registry := registry_renumbered ρ a b renumbered
  have settled : ∀ resource ∈ a.registry.known a.made, resource.Settled ρ := renumbered.app.dispatcher.2.2.1
  have next := (setup_sound a step ⟨renumbered.app.dispatcher.2.1, renumbered.isOpaque⟩).registry
  cases step with
  | construct cls =>
    obtain ⟨same, after⟩ := construct_renumbered ρ a b cls next settled (settles cls rfl) renumbered
    refine ⟨same.trans ?_, after⟩
    rw [setup, construct]
    cases a.registry.router.objects.construct cls with
    | mk result objects => cases result <;> rfl
  | hold v => exact ⟨rfl, hold_renumbered ρ a b v next settled renumbered⟩
  | makeParser parser =>
    exact ⟨rfl, same_made_renumbered ρ a b _ _ renumbered next settled
      (Registry.parsers_renumbered ρ a.registry b.registry (· ++ [parser]) registries)⟩
  | add text source attachments =>
    rw [setup] at next ⊢
    rw [setup, target_renumbered ρ a b source renumbered, can_attach_renumbered ρ a b attachments renumbered]
    cases found : a.target? source with
    | none => exact ⟨rfl, renumbered⟩
    | some target =>
      cases attachable : a.canAttach attachments with
      | false => exact ⟨rfl, renumbered⟩
      | true =>
        rw [found, attachable] at next
        obtain ⟨same, after⟩ := Registry.register_renumbered ρ a.registry b.registry text target attachments registries
        have given := target_settled ρ a source target found settled fun cls fresh => settles cls (by rw [fresh]; rfl)
        have known := Registry.register_settled ρ a.made a.registry text target attachments settled given
        refine ⟨?_, same_made_renumbered ρ a b _ _ renumbered next known after⟩
        simp only [Option.map_some, App.add, StepReport.rename, StepReport.registered.injEq]
        have single : ∀ result : Except RegisterError (Route Resource),
            (result.map (Route.rename ρ)).map (fun route => [route]) =
              (result.map fun route => [route]).map (List.map (Route.rename ρ)) := by
          intro result
          cases result <;> rfl
        rw [show b.app.registry = b.registry from rfl, same]
        exact single _
  | addAll entries =>
    rw [setup] at next ⊢
    rw [setup, targets_renumbered ρ a b entries renumbered]
    cases found : a.targets? entries with
    | none => exact ⟨rfl, renumbered⟩
    | some targets =>
      rw [found] at next
      obtain ⟨same, after⟩ := Registry.register_all_renumbered ρ a.registry b.registry targets registries
      have given := targets_settled ρ a entries targets found settled fun entry member cls fresh => settles cls ⟨entry, member, fresh⟩
      have known : ∀ resource ∈ (a.registry.registerAll targets).2.known a.made, resource.Settled ρ :=
        Registry.register_all_keeps (fun registry => ∀ resource ∈ registry.known a.made, resource.Settled ρ) targets
          (fun registry entry here member => Registry.register_settled ρ a.made registry entry.1 entry.2 [] here (given entry member))
          a.registry settled
      refine ⟨?_, same_made_renumbered ρ a b _ _ renumbered next known after⟩
      simp only [Option.map_some, App.addAll, StepReport.rename, StepReport.registered.injEq]
      exact same

theorem step_renumbered (step : AppStep) (guarded : step.Guarded) (settles : step.Settled ρ) (renumbered : Renumbered ρ a b) :
    (b.step step).1 = (a.step step).1.rename ρ ∧ Renumbered ρ (a.step step).2 (b.step step).2 := by
  have registries : Registry.Renumbered ρ a.registry b.registry := registry_renumbered ρ a b renumbered
  have settled : ∀ resource ∈ a.registry.known a.made, resource.Settled ρ := renumbered.app.dispatcher.2.2.1
  cases step with
  | setup step => exact setup_renumbered ρ a b step settles renumbered
  | amendParser id change =>
    have next := (step_sound a (.amendParser id change) trivial ⟨renumbered.app.dispatcher.2.1, renumbered.isOpaque⟩).registry
    exact ⟨rfl, same_made_renumbered ρ a b _ _ renumbered next settled
      (Registry.parsers_renumbered ρ a.registry b.registry (·.modify id change) registries)⟩
  | addMiddleware middleware =>
    exact ⟨rfl, renumbered.made, App.add_middleware_alike _ _ _ middleware renumbered.app,
      App.add_middleware_opaque a.app middleware renumbered.isOpaque guarded⟩
  | call scope channel =>
    obtain ⟨same, after⟩ := App.call_alike _ _ _ scope channel (Dispatcher.handle_renumbered ρ a.made) renumbered.isOpaque renumbered.app
    refine ⟨?_, renumbered.made, after, App.call_opaque a.app scope channel renumbered.isOpaque⟩
    simp only [step, StepReport.rename, same]

theorem run_renumbered (steps : List AppStep) (guarded : ∀ step ∈ steps, step.Guarded) (settles : ∀ step ∈ steps, step.Settled ρ)
    (renumbered : Renumbered ρ a b) :
    (b.run steps).1 = (a.run steps).1.map (StepReport.rename ρ) ∧ Renumbered ρ (a.run steps).2 (b.run steps).2 := by
  induction steps generalizing a b with
  | nil => exact ⟨rfl, renumbered⟩
  | cons step rest ih =>
    obtain ⟨same, after⟩ := step_renumbered ρ a b step (guarded step List.mem_cons_self) (settles step List.mem_cons_self) renumbered
    obtain ⟨others, last⟩ := ih _ _ (fun other member => guarded other (List.mem_cons_of_mem _ member))
      (fun other member => settles other (List.mem_cons_of_mem _ member)) after
    rw [run_cons, run_cons, List.map_cons, same, others]
    exact ⟨rfl, last⟩

end AppState

-- The objects of one class are numbered further on from a number.
def Renumbering.shift (cls : String) (start amount : Nat) : Renumbering :=
  { number := fun other n => if other = cls ∧ start ≤ n then n + amount else n
    injective := by
      intro other m n same
      by_cases equal : other = cls
      · simp only [equal, true_and] at same
        split at same <;> split at same <;> omega
      · simpa only [equal, false_and, if_false] using same }

namespace Renumbering

theorem shift_below (cls other : String) (start amount n : Nat) (below : other = cls → n < start) :
    (shift cls start amount).number other n = n := by
  have outside : ¬ (other = cls ∧ start ≤ n) := fun inside => Nat.not_le.mpr (below inside.1) inside.2
  rw [shift]
  simp only [if_neg outside]

theorem shift_zero (cls other : String) (start n : Nat) : (shift cls start 0).number other n = n := by
  simp only [shift]
  split <;> rfl

theorem shift_cases (cls other : String) (start amount n : Nat) :
    (shift cls start amount).number other n = n ∨ (shift cls start amount).number other n = n + amount ∧ other = cls := by
  by_cases affected : other = cls ∧ start ≤ n
  · exact Or.inr ⟨by simp only [shift, if_pos affected], affected.1⟩
  · exact Or.inl (by simp only [shift, if_neg affected])

theorem shift_issued (objects : Objects) (tokens amount : Nat) (cls : String) (identity : Identity)
    (issued : identity.Issued objects tokens) : identity.rename (shift cls (objects.count cls) amount) = identity := by
  cases identity with
  | object other serial =>
    rw [Identity.rename, shift_below cls other _ amount serial fun same => same ▸ issued]
  | plain token => rfl

theorem rename_of_identity (ρ : Renumbering) (resource : Resource) (same : resource.identity.rename ρ = resource.identity) :
    resource.rename ρ = resource := by
  cases resource with
  | object cls serial =>
    have number := (Identity.object.inj same).2
    rw [Resource.rename, number]
  | plain token v => rfl

theorem shift_settled (cls : String) (start amount : Nat) (resource : ResourceClass)
    (blind : resource.name = cls → amount ≠ 0 → ∀ entry ∈ resource.methods, entry.2.Blind) (serial : Nat) :
    (Resource.object resource serial).Settled (shift cls start amount) := by
  by_cases affected : resource.name = cls ∧ amount ≠ 0
  · exact Or.inr (blind affected.1 affected.2)
  · refine Or.inl ?_
    have unmoved : (shift cls start amount).number resource.name serial = serial := by
      by_cases same : resource.name = cls
      · have none : amount = 0 := Decidable.not_not.mp fun some => affected ⟨same, some⟩
        rw [none, shift_zero]
      · exact shift_below cls resource.name start amount serial fun equal => absurd equal same
    rw [Resource.rename, unmoved]

end Renumbering

-- A failed registration may have constructed an object of a class, which nothing uses.
theorem Objects.realize_shift (objects : Objects) (target : Target) :
    ∃ cls amount, (∀ other n, (Renumbering.shift cls (objects.count cls) amount).number other (objects.count other + n) =
        (objects.realize target).2.count other + n) ∧
      (amount = 0 ∨ amount = 1 ∧ ∃ made, target = .fresh made ∧ made.name = cls) := by
  cases target with
  | existing resource => exact ⟨"", 0, fun other n => Renumbering.shift_zero "" other _ _, Or.inl rfl⟩
  | fresh made =>
    refine ⟨made.name, 1, fun other n => ?_, Or.inr ⟨rfl, made, rfl, rfl⟩⟩
    rw [realize_fresh, construct_objects, count_after]
    by_cases same : other = made.name
    · rw [if_pos same, same]
      simp only [Renumbering.shift, true_and, Nat.le_add_right, if_true]
      omega
    · rw [if_neg same]
      exact Renumbering.shift_below made.name other _ 1 _ fun equal => absurd equal same

namespace AppState

-- The state after a failed registration is the state before it, but for what has been constructed.
theorem failed_renumbered (state : AppState) (objects : Objects) (cls : String) (amount : Nat) (sound : Sound state)
    (kept : objects.kept = state.registry.router.objects.kept)
    (counts : ∀ other n, (Renumbering.shift cls (state.registry.router.objects.count cls) amount).number other
      (state.registry.router.objects.count other + n) = objects.count other + n) :
    Renumbered (Renumbering.shift cls (state.registry.router.objects.count cls) amount) state
      (state.withRegistry (state.registry.withObjects objects)) := by
  have still : ∀ identity : Identity, identity.Issued state.registry.router.objects state.made.length →
      identity.rename (Renumbering.shift cls (state.registry.router.objects.count cls) amount) = identity :=
    fun identity issued => Renumbering.shift_issued _ _ amount cls identity issued
  have known : ∀ resource ∈ state.registry.known state.made,
      resource.rename (Renumbering.shift cls (state.registry.router.objects.count cls) amount) = resource :=
    fun resource member => Renumbering.rename_of_identity _ resource (still _ (sound.registry.issued resource member))
  refine ⟨?_, ⟨⟨rfl, sound.registry, fun resource member => Or.inl (known resource member), ?_⟩, rfl, rfl, rfl⟩, sound.isOpaque⟩
  · refine (List.map_id _).symm.trans (List.map_congr_left fun resource member => ?_)
    exact (known resource (List.mem_append_left _ member)).symm
  · refine ⟨rfl, rfl, ?_, ?_, ?_, counts⟩
    · refine (List.map_id _).symm.trans (List.map_congr_left fun route member => ?_)
      rw [Route.rename, known route.resource (List.mem_append_right _ (List.mem_map_of_mem member))]
      rfl
    · refine (List.map_id _).symm.trans (List.map_congr_left fun entry member => ?_)
      obtain ⟨route, stored, same⟩ := sound.registry.owned entry member
      have issued := sound.registry.issued route.resource (List.mem_append_right _ (List.mem_map_of_mem stored))
      rw [still entry.1 (same ▸ issued)]
      rfl
    · refine kept.trans ((List.map_id _).symm.trans (List.map_congr_left fun entry member => ?_))
      rw [still entry.1 (sound.registry.kept entry member)]
      rfl

theorem failed_add (state : AppState) (text : String) (source : Source) (attachments : List (String × ParserId)) (e : RegisterError)
    (failed : (state.setup (.add text source attachments)).1 = .registered (.error e)) :
    ∃ target objects, state.target? source = some target ∧
      (state.setup (.add text source attachments)).2 = state.withRegistry (state.registry.withObjects objects) ∧
      (objects = state.registry.router.objects ∨ objects = (state.registry.router.objects.realize target).2) := by
  rw [setup] at failed ⊢
  cases found : state.target? source with
  | none => simp [found] at failed
  | some target =>
    cases attachable : state.canAttach attachments with
    | false => simp [found, attachable] at failed
    | true =>
      rw [found, attachable] at failed
      rcases Registry.register_cases state.registry text target attachments with
        ⟨error, objects, result, origin⟩ | ⟨route, endpoint, objects, result, _⟩
      · refine ⟨target, objects, rfl, ?_, origin⟩
        simp only [App.add]
        rw [show state.app.registry = state.registry from rfl, result]
        rfl
      · simp only [App.add] at failed
        rw [show state.app.registry = state.registry from rfl, result] at failed
        cases failed

-- What is counted is the class that was given, since things that have been made are not constructed again.
theorem failed_add_shift (state : AppState) (text : String) (source : Source) (attachments : List (String × ParserId)) (e : RegisterError)
    (failed : (state.setup (.add text source attachments)).1 = .registered (.error e)) :
    ∃ objects cls amount, (state.setup (.add text source attachments)).2 = state.withRegistry (state.registry.withObjects objects) ∧
      objects.kept = state.registry.router.objects.kept ∧
      (∀ other n, (Renumbering.shift cls (state.registry.router.objects.count cls) amount).number other
        (state.registry.router.objects.count other + n) = objects.count other + n) ∧
      (amount = 0 ∨ amount = 1 ∧ ∃ made, source = .fresh made ∧ made.name = cls) := by
  obtain ⟨target, objects, found, reached, origin⟩ := failed_add state text source attachments e failed
  rcases origin with rfl | rfl
  · exact ⟨_, "", 0, reached, rfl, fun other n => Renumbering.shift_zero "" other _ _, Or.inl rfl⟩
  · obtain ⟨cls, amount, counts, needed⟩ := Objects.realize_shift state.registry.router.objects target
    refine ⟨_, cls, amount, reached, Objects.realize_kept _ target, counts, ?_⟩
    refine needed.imp id fun ⟨one, made, fresh, same⟩ => ⟨one, made, ?_, same⟩
    subst fresh
    cases source with
    | fresh other => rw [Target.fresh.inj (Option.some.inj found)]
    | made place =>
      obtain ⟨_, _, wrong⟩ := Option.map_eq_some_iff.mp found
      cases wrong

theorem failed_add_leaves_no_trace (strict debug : Bool) (started : List (String × Nat)) (before : List AppStep)
    (guarded : ∀ step ∈ before, step.Guarded) (text : String) (source : Source) (attachments : List (String × ParserId)) (e : RegisterError)
    (failed : (((new strict debug started).run before).2.setup (.add text source attachments)).1 = .registered (.error e)) :
    let state := ((new strict debug started).run before).2
    let next := (state.setup (.add text source attachments)).2
    next.registry.router.table = state.registry.router.table ∧ next.registry.endpoints = state.registry.endpoints ∧
    next.registry.parsers = state.registry.parsers ∧
    (∃ objects, next = state.withRegistry (state.registry.withObjects objects) ∧ objects.kept = state.registry.router.objects.kept) ∧
    ∃ ρ : Renumbering, (∀ cls n, n < state.registry.router.objects.count cls → ρ.number cls n = n) ∧
      (∀ cls n, ρ.number cls n = n ∨ ρ.number cls n = n + 1 ∧ ∃ made, source = .fresh made ∧ made.name = cls) ∧
      ∀ later : List AppStep, (∀ step ∈ later, step.Guarded) →
        (∀ step ∈ later, ∀ made cls, source = .fresh made → step.Builds cls → cls.name = made.name →
          ∀ entry ∈ cls.methods, entry.2.Blind) →
        (next.run later).1 = (state.run later).1.map (StepReport.rename ρ) := by
  intro state next
  have sound : Sound state := run_sound _ before guarded (new_sound strict debug started)
  obtain ⟨objects, cls, amount, reached, kept, counts, origins⟩ := failed_add_shift state text source attachments e failed
  have frame : next.registry = state.registry.withObjects objects := congrArg registry reached
  refine ⟨by rw [frame]; rfl, by rw [frame]; rfl, by rw [frame]; rfl, ⟨objects, reached, kept⟩,
    Renumbering.shift cls (state.registry.router.objects.count cls) amount, fun other n below => ?_, fun other n => ?_,
    fun later safe blind => ?_⟩
  · exact Renumbering.shift_below cls other _ amount n fun same => same ▸ below
  · rcases Renumbering.shift_cases cls other (state.registry.router.objects.count cls) amount n with unmoved | ⟨moved, named⟩
    · exact Or.inl unmoved
    · rcases origins with rfl | ⟨rfl, made, fresh, same⟩
      · exact Or.inl moved
      · exact Or.inr ⟨moved, made, fresh, same.trans named.symm⟩
  · have start := failed_renumbered state objects cls amount sound kept counts
    rw [← reached] at start
    refine (run_renumbered _ state next later safe (fun step member built builds serial => ?_) start).1
    refine Renumbering.shift_settled cls _ amount built (fun named some => ?_) serial
    rcases origins with none | ⟨_, made, fresh, same⟩
    · exact absurd none some
    · exact blind step member made built fresh builds (named.trans same.symm)

-- A board does not look at its number. It is registered with a parser for a verb that it does not serve, and then without.
def board : ResourceClass :=
  { name := "Board"
    methods := [("get",
      { label := "Board.get"
        signature := { parameters := [] }
        run := fun situation => ⟨.ok (.content (.data (.bool true))), situation.items⟩ })] }

theorem failed_board_leaves_no_trace :
    let state := ((new false false []).run [.setup (.makeParser {})]).2
    let next := (state.setup (.add "/board" (.fresh board) [("put", 0)])).2
    let later : List AppStep := [.setup (.add "/board" (.fresh board) []), .call { method := some "GET", path := some "/board" } {}]
    next.registry.router.table = [] ∧ next.registry.router.objects.count "Board" = 1 ∧
      ∃ ρ : Renumbering, (next.run later).1 = (state.run later).1.map (StepReport.rename ρ) := by
  intro state next later
  have guarded : ∀ step ∈ ([.setup (.makeParser {})] : List AppStep), step.Guarded := by
    intro step member
    rw [List.mem_singleton.mp member]
    trivial
  have failed : (state.setup (.add "/board" (.fresh board) [("put", 0)])).1 = .registered (.error (.undefinedVerb "PUT" "/board")) := rfl
  obtain ⟨table, _, _, _, ρ, _, _, same⟩ :=
    failed_add_leaves_no_trace false false [] [.setup (.makeParser {})] guarded "/board" (.fresh board) [("put", 0)] _ failed
  refine ⟨table, rfl, ρ, same later (fun step member => ?_) fun step member made cls fresh builds _ entry inside => ?_⟩
  · rcases List.mem_cons.mp member with rfl | last
    · trivial
    · rw [List.mem_singleton.mp last]
      trivial
  · rcases List.mem_cons.mp member with rfl | last
    · obtain rfl : board = cls := builds
      rw [List.mem_singleton.mp inside]
      exact fun _ _ => rfl
    · rw [List.mem_singleton.mp last] at builds
      cases builds

end AppState
end RestDispatch
