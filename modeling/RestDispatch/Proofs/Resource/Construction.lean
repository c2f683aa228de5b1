import RestDispatch.Resource.Objects
import RestDispatch.Proofs.Value.Entries
import RestDispatch.Resource.Basic

set_option autoImplicit false

/-!
Resources and their objects. Main statements: the table of a resource lists the verbs that it serves in the order of all
verbs, each with its handler; what is realized is the thing that was given, or a new object with the next number of its
class. Constructions count objects and change nothing that is kept.
-/
namespace RestDispatch.Resource

theorem method_table_verbs (resource : Resource) : (resource.methodTable.map Prod.fst).Sublist Verb.all := by
  have listed := keys_filter_map_sublist Verb.all id resource.handler?
  rwa [List.map_id] at listed

theorem method_table_lookup (resource : Resource) (verb : Verb) : resource.methodTable.lookup verb = resource.handler? verb := by
  have listed : ∀ verbs : List Verb, (verbs.filterMap fun other => (resource.handler? other).map fun handler => (other, handler)).lookup verb =
      if verb ∈ verbs then resource.handler? verb else none := by
    intro verbs
    induction verbs with
    | nil => rfl
    | cons first rest ih =>
      by_cases same : verb = first
      · subst same
        cases served : resource.handler? verb with
        | none => simp [served, ih]
        | some handler => simp [served]
      · cases served : resource.handler? first with
        | none => simp [served, same, ih]
        | some handler => simp [served, lookup_cons_other _ _ _ handler same, same, ih]
  rw [methodTable, listed, if_pos (Verb.mem_all verb)]

end RestDispatch.Resource

namespace RestDispatch.Objects

theorem count_after (objects : Objects) (cls other : String) (n : Nat) :
    ({ objects with started := put cls n objects.started } : Objects).count other = if other = cls then n else objects.count other := by
  simp only [count, lookup_put]
  split <;> rfl

theorem construct_objects (objects : Objects) (cls : ResourceClass) :
    (objects.construct cls).2 = { objects with started := put cls.name (objects.count cls.name + 1) objects.started } := by
  rw [construct]
  cases cls.refusal <;> rfl

theorem construct_ok (objects next : Objects) (cls : ResourceClass) (resource : Resource)
    (made : objects.construct cls = (.ok resource, next)) : resource = .object cls (objects.count cls.name) := by
  rw [construct] at made
  cases refusal : cls.refusal with
  | some fault => simp [refusal] at made
  | none =>
    simp only [refusal, Prod.mk.injEq, Except.ok.injEq] at made
    exact made.1.symm

theorem construct_count (objects : Objects) (cls : ResourceClass) (other : String) :
    objects.count other ≤ (objects.construct cls).2.count other := by
  rw [construct_objects, count_after]
  split
  · rename_i same
    subst same
    omega
  · exact Nat.le_refl _

theorem construct_kept (objects : Objects) (cls : ResourceClass) : (objects.construct cls).2.kept = objects.kept := by
  rw [construct_objects]

theorem realize_fresh (objects : Objects) (cls : ResourceClass) : (objects.realize (.fresh cls)).2 = (objects.construct cls).2 := by
  rw [realize]
  cases objects.construct cls with
  | mk result next => cases result <;> rfl

theorem realize_count (objects : Objects) (target : Target) (cls : String) :
    objects.count cls ≤ (objects.realize target).2.count cls := by
  cases target with
  | existing resource => exact Nat.le_refl _
  | fresh made =>
    rw [realize_fresh]
    exact construct_count objects made cls

theorem realize_kept (objects : Objects) (target : Target) : (objects.realize target).2.kept = objects.kept := by
  cases target with
  | existing resource => rfl
  | fresh made =>
    rw [realize_fresh]
    exact construct_kept objects made

theorem realize_ok (objects next : Objects) (target : Target) (resource : Resource)
    (realized : objects.realize target = (.ok resource, next)) :
    target = .existing resource ∨
      ∃ cls, target = .fresh cls ∧ resource = .object cls (objects.count cls.name) ∧
        next.count cls.name = objects.count cls.name + 1 := by
  cases target with
  | existing other =>
    simp only [realize, Prod.mk.injEq, Except.ok.injEq] at realized
    exact Or.inl (by rw [realized.1])
  | fresh cls =>
    refine Or.inr ⟨cls, rfl, ?_⟩
    have after : next = (objects.construct cls).2 := by
      rw [← realize_fresh, realized]
    rw [realize] at realized
    cases constructed : objects.construct cls with
    | mk result objects =>
      cases result with
      | error fault => simp [constructed] at realized
      | ok made =>
        simp only [constructed, Prod.mk.injEq, Except.ok.injEq] at realized
        obtain ⟨rfl, rfl⟩ := realized
        refine ⟨construct_ok _ _ cls made constructed, ?_⟩
        rw [after, construct_objects, count_after, if_pos rfl]

end RestDispatch.Objects
