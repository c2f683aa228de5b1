import RestDispatch.Proofs.App.Soundness

set_option autoImplicit false

/-!
Attaching parsers. Keys are read in upper case, so several keys may name one verb, and what a registration attaches counts
for its object on whatever route the object is. Main statement: after a registration a verb of an object has the parser
that the registration gives it, which is that of the last key that names the verb, or else the parser that it had.
-/
namespace RestDispatch

-- What the last of several members gives that gives something.
def lastGiven? {α β : Type} (given : α → Option β) (members : List α) : Option β := members.reverse.findSome? given

section
variable {α β : Type} (given : α → Option β)

theorem last_given_append (a b : List α) : lastGiven? given (a ++ b) = (lastGiven? given b).or (lastGiven? given a) := by
  rw [lastGiven?, List.reverse_append, List.findSome?_append]
  rfl

theorem last_given_single (member : α) : lastGiven? given [member] = given member := by
  simp [lastGiven?]

theorem last_given_eq_some_iff (members : List α) (value : β) :
    lastGiven? given members = some value ↔
      ∃ before member after, members = before ++ member :: after ∧ given member = some value ∧ ∀ later ∈ after, given later = none := by
  rw [lastGiven?, List.findSome?_eq_some_iff]
  constructor
  · rintro ⟨after, member, before, reversed, gives, silent⟩
    refine ⟨before.reverse, member, after.reverse, ?_, gives, fun later inside => silent later (List.mem_reverse.mp inside)⟩
    simpa using congrArg List.reverse reversed
  · rintro ⟨before, member, after, rfl, gives, silent⟩
    refine ⟨after.reverse, member, before.reverse, by simp, gives, fun later inside => silent later (List.mem_reverse.mp inside)⟩

theorem last_given_eq_none_iff (members : List α) : lastGiven? given members = none ↔ ∀ member ∈ members, given member = none := by
  simp [lastGiven?]

end

-- The last of the keys that name a verb assigns its parser. A key names the verb that its upper case spells.
def Assigns (attachments : List (String × ParserId)) (verb : Verb) (id : ParserId) : Prop :=
  ∃ before method after, attachments = before ++ (method, id) :: after ∧ Verb.named? (Text.upper method) = some verb ∧
    ∀ other ∈ after, Verb.named? (Text.upper other.1) ≠ some verb

def assigned? (verb : Verb) (attachments : List (String × ParserId)) : Option ParserId :=
  lastGiven? (fun attachment => if Verb.named? (Text.upper attachment.1) = some verb then some attachment.2 else none) attachments

theorem assigned_eq_some_iff (attachments : List (String × ParserId)) (verb : Verb) (id : ParserId) :
    assigned? verb attachments = some id ↔ Assigns attachments verb id := by
  rw [assigned?, last_given_eq_some_iff, Assigns]
  constructor
  · rintro ⟨before, ⟨method, given⟩, after, rfl, named, others⟩
    obtain ⟨spelled, same⟩ := Option.ite_none_right_eq_some.mp named
    obtain rfl := Option.some.inj same
    exact ⟨before, method, after, rfl, spelled, fun other inside => by simpa using others other inside⟩
  · rintro ⟨before, method, after, rfl, spelled, others⟩
    exact ⟨before, (method, id), after, rfl, if_pos spelled, fun other inside => if_neg (others other inside)⟩

theorem assigned_eq_none_iff (attachments : List (String × ParserId)) (verb : Verb) :
    assigned? verb attachments = none ↔ ∀ attachment ∈ attachments, Verb.named? (Text.upper attachment.1) ≠ some verb := by
  simp [assigned?, last_given_eq_none_iff]

theorem Endpoint.attach_lookup (rule : String) (endpoint next : Endpoint) (attachments : List (String × ParserId)) (verb : Verb)
    (attached : attach rule endpoint attachments = .ok next) :
    next.parsers.lookup verb = (assigned? verb attachments).or (endpoint.parsers.lookup verb) := by
  induction attachments generalizing endpoint with
  | nil =>
    obtain rfl := Except.ok.inj attached
    rfl
  | cons attachment rest ih =>
    obtain ⟨method, id⟩ := attachment
    obtain ⟨named, served, later⟩ := attach_cons_ok rule method endpoint next id rest attached
    have spelled := (served_methods endpoint method named served).1
    have first : (put named id endpoint.parsers).lookup verb =
        (if Verb.named? (Text.upper method) = some verb then some id else none).or (endpoint.parsers.lookup verb) := by
      rw [lookup_put, spelled]
      by_cases same : verb = named
      · simp [same]
      · simp [same, Ne.symm same]
    rw [ih _ later, first, ← Option.or_assoc, assigned?, assigned?, ← List.singleton_append, last_given_append, last_given_single]

-- A registration that succeeded: the object behind its route, and the parsers that were given with it.
structure Registration where
  resource : Resource
  attachments : List (String × ParserId)

-- What a registration gives a verb of an object.
def Registration.given? (resource : Resource) (verb : Verb) (registration : Registration) : Option ParserId :=
  if registration.resource.identity = resource.identity then assigned? verb registration.attachments else none

namespace Registry

-- The parser that is attached to a verb of a resource.
def bound (registry : Registry) (resource : Resource) (verb : Verb) : Option ParserId :=
  (registry.endpoint? resource).bind fun endpoint => endpoint.parsers.lookup verb

theorem bound_congr (a b : Registry) (resource : Resource) (verb : Verb) (same : a.endpoints = b.endpoints) :
    a.bound resource verb = b.bound resource verb := by
  rw [bound, bound, endpoint?, endpoint?, same]

-- A registration gives its parsers to the object of its route, on whatever route the object is.
theorem bound_after_route (registry : Registry) (route : Route Resource) (endpoint : Endpoint) (objects : Objects)
    (attachments : List (String × ParserId)) (prepared : registry.prepareEndpoint route attachments = .ok endpoint)
    (resource : Resource) (verb : Verb) :
    (registry.afterRoute route endpoint objects).bound resource verb =
      (Registration.given? resource verb ⟨route.resource, attachments⟩).or (registry.bound resource verb) := by
  rw [bound, endpoint_after_route, Registration.given?]
  by_cases same : resource.identity = route.resource.identity
  · obtain ⟨before, origin, attached, _⟩ := prepare_endpoint_ok registry route attachments endpoint prepared
    have earlier : registry.bound resource verb = before.parsers.lookup verb := by
      rw [bound, endpoint?, same]
      rcases origin with found | ⟨absent, rfl⟩
      · rw [endpoint?] at found
        rw [found, Option.bind_some]
      · rw [endpoint?] at absent
        rw [absent]
        rfl
    rw [if_pos same, if_pos same.symm, earlier, Option.bind_some]
    exact Endpoint.attach_lookup route.rule.text before endpoint attachments verb attached
  · rw [if_neg same, if_neg (Ne.symm same)]
    rfl

-- Routes that are added several at once are given no parsers.
theorem register_all_unattached (registry : Registry) (entries : List (String × Target)) (resource : Resource) (verb : Verb) :
    (registry.registerAll entries).2.bound resource verb = registry.bound resource verb := by
  refine register_all_keeps (fun next => next.bound resource verb = registry.bound resource verb) entries
    (fun next entry same _ => ?_) registry rfl
  rcases register_cases next entry.1 entry.2 [] with ⟨e, objects, failed, _⟩ | ⟨route, endpoint, objects, done, registered⟩
  · rw [failed]
    exact same
  · rw [done, bound_after_route next route endpoint objects [] registered.prepared, same, Registration.given?]
    split <;> rfl

end Registry
end RestDispatch
