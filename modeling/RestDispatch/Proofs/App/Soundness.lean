import RestDispatch.Proofs.App.Steps
import RestDispatch.Proofs.Resource.Construction

set_option autoImplicit false

/-!
What holds of every application in use. No two things that are made or registered have the same
identity, and the resource of every route has an endpoint with its own methods, whose parsers are
attached to verbs that are served. Main statement: no step breaks this, whatever it does or fails to do.
-/
namespace RestDispatch

-- Identities are given out in turn: a number is below the count of constructions, a token below the count of things.
def Identity.Issued (objects : Objects) (tokens : Nat) : Identity → Prop
  | .object cls serial => serial < objects.count cls
  | .plain token => token < tokens

theorem Identity.issued_mono (a b : Objects) (m n : Nat) (identity : Identity) (more : ∀ cls, a.count cls ≤ b.count cls)
    (later : m ≤ n) (issued : identity.Issued a m) : identity.Issued b n := by
  cases identity with
  | object cls serial => exact Nat.lt_of_lt_of_le issued (more cls)
  | plain token => exact Nat.lt_of_lt_of_le issued later

namespace Registry

-- The things that have been made and those that stand behind routes.
def known (made : List Resource) (registry : Registry) : List Resource :=
  made ++ registry.router.table.map (·.resource)

structure Sound (made : List Resource) (registry : Registry) : Prop where
  table : Table.Valid registry.router.table
  served : ∀ route ∈ registry.router.table, ∃ endpoint,
    registry.endpoint? route.resource = some endpoint ∧ endpoint.methods = route.resource.methodTable
  owned : ∀ entry ∈ registry.endpoints, ∃ route ∈ registry.router.table, route.resource.identity = entry.1
  attached : ∀ entry ∈ registry.endpoints, ∀ attachment ∈ entry.2.parsers,
    (entry.2.methods.lookup attachment.1).isSome = true ∧ attachment.2 < registry.parsers.length
  issued : ∀ resource ∈ registry.known made, resource.identity.Issued registry.router.objects made.length
  single : ∀ a ∈ registry.known made, ∀ b ∈ registry.known made, a.identity = b.identity → a = b
  kept : ∀ entry ∈ registry.router.objects.kept, entry.1.Issued registry.router.objects made.length

theorem sound_with_objects (made : List Resource) (registry : Registry) (objects : Objects) (sound : Sound made registry)
    (more : ∀ cls, registry.router.objects.count cls ≤ objects.count cls)
    (kept : ∀ entry ∈ objects.kept, entry ∈ registry.router.objects.kept ∨
      ∃ route ∈ registry.router.table, route.resource.identity = entry.1) :
    Sound made (registry.withObjects objects) := by
  have issued : ∀ resource ∈ registry.known made, resource.identity.Issued objects made.length := fun resource member =>
    Identity.issued_mono _ _ _ _ _ more (Nat.le_refl _) (sound.issued resource member)
  refine ⟨sound.table, sound.served, sound.owned, sound.attached, issued, sound.single, fun entry member => ?_⟩
  rcases kept entry member with old | ⟨route, stored, same⟩
  · exact Identity.issued_mono _ _ _ _ _ more (Nat.le_refl _) (sound.kept entry old)
  · rw [← same]
    exact issued route.resource (List.mem_append_right _ (List.mem_map_of_mem stored))

-- Something new is made: nothing that was known has its identity.
theorem sound_with_made (made : List Resource) (registry : Registry) (resource : Resource) (sound : Sound made registry)
    (issued : resource.identity.Issued registry.router.objects (made.length + 1))
    (fresh : ∀ other ∈ registry.known made, other.identity ≠ resource.identity) : Sound (made ++ [resource]) registry := by
  have longer : made.length ≤ (made ++ [resource]).length := by simp
  have known_cases : ∀ other ∈ registry.known (made ++ [resource]), other = resource ∨ other ∈ registry.known made := by
    intro other member
    simp only [known, List.mem_append, List.mem_singleton] at member ⊢
    rcases member with (old | new) | routed
    · exact Or.inr (Or.inl old)
    · exact Or.inl new
    · exact Or.inr (Or.inr routed)
  refine ⟨sound.table, sound.served, sound.owned, sound.attached, ?_, ?_, ?_⟩
  · intro other member
    rcases known_cases other member with rfl | old
    · simpa using issued
    · exact Identity.issued_mono _ _ _ _ _ (fun _ => Nat.le_refl _) longer (sound.issued other old)
  · intro a inA b inB same
    rcases known_cases a inA with rfl | oldA <;> rcases known_cases b inB with rfl | oldB
    · rfl
    · exact absurd same.symm (fresh b oldB)
    · exact absurd same (fresh a oldA)
    · exact sound.single a oldA b oldB same
  · intro entry member
    exact Identity.issued_mono _ _ _ _ _ (fun _ => Nat.le_refl _) longer (sound.kept entry member)

theorem endpoint_after_route (registry : Registry) (route : Route Resource) (endpoint : Endpoint) (objects : Objects)
    (resource : Resource) : (registry.afterRoute route endpoint objects).endpoint? resource =
      if resource.identity = route.resource.identity then some endpoint else registry.endpoint? resource := by
  simp only [endpoint?, afterRoute, lookup_put]

-- The resource of a new route is a known one or has an identity of its own.
theorem registered_resource (made : List Resource) (registry : Registry) (text : String) (target : Target)
    (attachments : List (String × ParserId)) (route : Route Resource) (endpoint : Endpoint) (objects : Objects)
    (sound : Sound made registry) (available : ∀ resource, target = .existing resource → resource ∈ made)
    (registered : registry.Registered text target attachments route endpoint objects) :
    (∀ other ∈ registry.known made, other.identity = route.resource.identity → other = route.resource) ∧
    route.resource.identity.Issued objects made.length := by
  rcases Objects.realize_ok _ _ target route.resource registered.realized with existing | ⟨cls, rfl, fresh, counted⟩
  · have member : route.resource ∈ registry.known made := List.mem_append_left _ (available _ existing)
    refine ⟨fun other inside same => sound.single other inside _ member same, ?_⟩
    have more := Objects.realize_count registry.router.objects target
    rw [registered.realized] at more
    exact Identity.issued_mono _ _ _ _ _ more (Nat.le_refl _) (sound.issued _ member)
  · rw [fresh]
    refine ⟨fun other inside same => ?_, ?_⟩
    · have issued := sound.issued other inside
      rw [same] at issued
      exact absurd issued (Nat.lt_irrefl _)
    · simp only [Resource.identity, Identity.Issued]
      omega

theorem registered_methods (made : List Resource) (registry : Registry) (text : String) (target : Target)
    (attachments : List (String × ParserId)) (route : Route Resource) (endpoint : Endpoint) (objects : Objects)
    (sound : Sound made registry) (available : ∀ resource, target = .existing resource → resource ∈ made)
    (registered : registry.Registered text target attachments route endpoint objects) :
    endpoint.methods = route.resource.methodTable := by
  obtain ⟨before, origin, attached, _⟩ := prepare_endpoint_ok registry route attachments endpoint registered.prepared
  rw [Endpoint.attach_methods _ _ _ _ attached]
  rcases origin with found | ⟨_, rfl⟩
  · -- The endpoint belongs to a route, whose resource is the same one.
    obtain ⟨other, stored, same⟩ := sound.owned _ (mem_of_lookup _ _ _ found)
    have equal := (registered_resource made registry text target attachments route endpoint objects sound available registered).1
      other.resource (List.mem_append_right _ (List.mem_map_of_mem stored)) same
    obtain ⟨own, foundOwn, methods⟩ := sound.served other stored
    rw [equal] at foundOwn methods
    rw [found] at foundOwn
    exact (Option.some.inj foundOwn) ▸ methods
  · rfl

theorem known_after_route (made : List Resource) (registry : Registry) (route : Route Resource) (endpoint : Endpoint)
    (objects : Objects) (other : Resource) (member : other ∈ (registry.afterRoute route endpoint objects).known made) :
    other = route.resource ∨ other ∈ registry.known made := by
  simp only [known, afterRoute, List.map_append, List.mem_append, List.map_cons, List.map_nil, List.mem_singleton] at member ⊢
  rcases member with old | old | new
  · exact Or.inr (Or.inl old)
  · exact Or.inr (Or.inr old)
  · exact Or.inl new

-- The new endpoint is that of the new route, and of older routes to the same resource.
theorem served_after_route (made : List Resource) (registry : Registry) (route : Route Resource) (endpoint : Endpoint)
    (objects : Objects) (sound : Sound made registry) (methods : endpoint.methods = route.resource.methodTable)
    (alone : ∀ other ∈ registry.known made, other.identity = route.resource.identity → other = route.resource)
    (other : Route Resource) (member : other ∈ (registry.afterRoute route endpoint objects).router.table) :
    ∃ own, (registry.afterRoute route endpoint objects).endpoint? other.resource = some own ∧
      own.methods = other.resource.methodTable := by
  rw [endpoint_after_route]
  by_cases same : other.resource.identity = route.resource.identity
  · have known := known_after_route made registry route endpoint objects other.resource
      (List.mem_append_right _ (List.mem_map_of_mem member))
    have equal : other.resource = route.resource := known.elim id fun old => alone _ old same
    rw [if_pos same]
    exact ⟨endpoint, rfl, equal ▸ methods⟩
  · rw [if_neg same]
    rcases List.mem_append.mp member with old | last
    · exact sound.served other old
    · exact absurd (by rw [List.mem_singleton.mp last]) same

theorem attached_after_route (made : List Resource) (registry : Registry) (route : Route Resource) (endpoint : Endpoint)
    (attachments : List (String × ParserId)) (sound : Sound made registry)
    (attachable : ∀ attachment ∈ attachments, attachment.2 < registry.parsers.length)
    (prepared : registry.prepareEndpoint route attachments = .ok endpoint) (attachment : Verb × ParserId)
    (member : attachment ∈ endpoint.parsers) :
    (endpoint.methods.lookup attachment.1).isSome = true ∧ attachment.2 < registry.parsers.length := by
  obtain ⟨before, origin, attached, _⟩ := prepare_endpoint_ok registry route attachments endpoint prepared
  rw [Endpoint.attach_methods _ _ _ _ attached]
  rcases Endpoint.attach_parsers _ before endpoint attachments attached attachment member with earlier | ⟨known, _, given⟩
  · rcases origin with found | ⟨_, rfl⟩
    · exact sound.attached _ (mem_of_lookup _ _ _ found) attachment earlier
    · cases earlier
  · exact ⟨known, attachable _ given⟩

theorem sound_after_route (made : List Resource) (registry : Registry) (text : String) (target : Target)
    (attachments : List (String × ParserId)) (route : Route Resource) (endpoint : Endpoint) (objects : Objects)
    (sound : Sound made registry) (available : ∀ resource, target = .existing resource → resource ∈ made)
    (attachable : ∀ attachment ∈ attachments, attachment.2 < registry.parsers.length)
    (registered : registry.Registered text target attachments route endpoint objects) :
    Sound made (registry.afterRoute route endpoint objects) := by
  have methods := registered_methods made registry text target attachments route endpoint objects sound available registered
  obtain ⟨alone, issued⟩ :=
    registered_resource made registry text target attachments route endpoint objects sound available registered
  have more : ∀ cls, registry.router.objects.count cls ≤ objects.count cls := by
    have counted := Objects.realize_count registry.router.objects target
    rw [registered.realized] at counted
    exact counted
  have keptSame : objects.kept = registry.router.objects.kept := by
    have kept := Objects.realize_kept registry.router.objects target
    rw [registered.realized] at kept
    exact kept
  have known_cases := known_after_route made registry route endpoint objects
  constructor
  · have textual : route.rule.text = text := Rule.compile_text text route.rule registered.compiled
    have compiled : Rule.compile route.rule.text = .ok route.rule := textual ▸ registered.compiled
    have valid := Table.valid_append registry.router.table route sound.table compiled (textual ▸ registered.fresh)
    have sameRoute : { route with index := registry.router.table.length } = route := by rw [← registered.placed]
    rw [sameRoute] at valid
    exact valid
  · exact served_after_route made registry route endpoint objects sound methods alone
  · intro entry member
    rcases mem_of_mem_put _ _ _ entry member with rfl | old
    · exact ⟨route, List.mem_append_right _ (List.mem_singleton.mpr rfl), rfl⟩
    · obtain ⟨other, stored, same⟩ := sound.owned entry old
      exact ⟨other, List.mem_append_left _ stored, same⟩
  · intro entry member
    rcases mem_of_mem_put _ _ _ entry member with rfl | old
    · exact attached_after_route made registry route endpoint attachments sound attachable registered.prepared
    · exact sound.attached entry old
  · intro other member
    rcases known_cases other member with rfl | old
    · exact issued
    · exact Identity.issued_mono _ _ _ _ _ more (Nat.le_refl _) (sound.issued other old)
  · intro a inA b inB same
    rcases known_cases a inA with rfl | oldA <;> rcases known_cases b inB with rfl | oldB
    · rfl
    · exact (alone b oldB same.symm).symm
    · exact alone a oldA same
    · exact sound.single a oldA b oldB same
  · intro entry member
    have old : entry ∈ registry.router.objects.kept := keptSame ▸ member
    exact Identity.issued_mono _ _ _ _ _ more (Nat.le_refl _) (sound.kept entry old)

theorem register_sound (made : List Resource) (registry : Registry) (text : String) (target : Target)
    (attachments : List (String × ParserId)) (sound : Sound made registry)
    (available : ∀ resource, target = .existing resource → resource ∈ made)
    (attachable : ∀ attachment ∈ attachments, attachment.2 < registry.parsers.length) :
    Sound made (registry.register text target attachments).2 := by
  rcases register_cases registry text target attachments with ⟨e, objects, failed, origin⟩ | ⟨route, endpoint, objects, done, registered⟩
  · rw [failed]
    rcases origin with rfl | rfl
    · exact sound
    · exact sound_with_objects made registry _ sound (Objects.realize_count _ target)
        fun entry member => Or.inl (Objects.realize_kept registry.router.objects target ▸ member)
  · rw [done]
    exact sound_after_route made registry text target attachments route endpoint objects sound available attachable registered

end Registry
end RestDispatch
