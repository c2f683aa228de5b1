import RestDispatch.Proofs.Route.Registration

set_option autoImplicit false

/-!
Which route answers a path. Main statement: in a router that was built by any steps, a path is answered
by the route of lowest index whose rule aligns with the parts of the path, with the texts of the alignment.
-/
namespace RestDispatch

namespace Table

variable {ρ : Type}

theorem mem_before_iff (before after : List (Route ρ)) (route other : Route ρ)
    (placed : ∀ (place : Nat) (found : Route ρ), (before ++ route :: after)[place]? = some found → found.index = place) :
    other ∈ before ↔ other ∈ before ++ route :: after ∧ other.index < route.index := by
  have here : route.index = before.length := placed before.length route (by simp)
  constructor
  · intro member
    obtain ⟨place, found⟩ := List.getElem?_of_mem member
    have within : place < before.length := (List.getElem?_eq_some_iff.mp found).1
    have index := placed place other (by rw [List.getElem?_append_left within]; exact found)
    exact ⟨List.mem_append_left _ member, by omega⟩
  · rintro ⟨member, lower⟩
    obtain ⟨place, found⟩ := List.getElem?_of_mem member
    have index := placed place other found
    have within : place < before.length := by omega
    rw [List.getElem?_append_left within] at found
    exact List.mem_of_getElem? found

theorem resolve_eq_some_iff (table : Table ρ) (path : String) (captures : Captures) (resource : ρ) (valid : Valid table) :
    table.resolve path = some (captures, resource) ↔
      ∃ route ∈ table, ∃ values, route.rule.Aligns values (splitPath path) ∧
        captures = route.rule.readings values ∧ resource = route.resource ∧
        ∀ other ∈ table, other.index < route.index → ∀ w, ¬ other.rule.Aligns w (splitPath path) := by
  have clean := split_path_clean path
  have formed := valid_rules table valid
  rw [resolve, List.findSome?_eq_some_iff]
  constructor
  · rintro ⟨before, route, after, rfl, matched, missed⟩
    have member : route ∈ before ++ route :: after := by simp
    simp only [Option.map_eq_some_iff, Prod.mk.injEq] at matched
    obtain ⟨found, matched, rfl, rfl⟩ := matched
    obtain ⟨values, aligned, rfl⟩ := (Rule.match_eq_some_iff route.rule _ found (formed route member) clean).mp matched
    refine ⟨route, member, values, aligned, rfl, rfl, fun other inside lower => ?_⟩
    have earlier := (mem_before_iff before after route other valid.placed).mpr ⟨inside, lower⟩
    have none := Option.map_eq_none_iff.mp (missed other earlier)
    exact (Rule.match_eq_none_iff other.rule _ (formed other inside) clean).mp none
  · rintro ⟨route, member, values, aligned, rfl, rfl, lowest⟩
    obtain ⟨before, after, rfl⟩ := List.append_of_mem member
    refine ⟨before, route, after, rfl, ?_, fun other earlier => ?_⟩
    · have matched := (Rule.match_eq_some_iff route.rule _ _ (formed route member) clean).mpr ⟨values, aligned, rfl⟩
      rw [matched]
      rfl
    · obtain ⟨inside, lower⟩ := (mem_before_iff before after route other valid.placed).mp earlier
      have none := (Rule.match_eq_none_iff other.rule _ (formed other inside) clean).mpr (lowest other inside lower)
      rw [none]
      rfl

theorem resolve_eq_none_iff (table : Table ρ) (path : String) (valid : Valid table) :
    table.resolve path = none ↔ ∀ route ∈ table, ∀ values, ¬ route.rule.Aligns values (splitPath path) := by
  have clean := split_path_clean path
  rw [resolve, List.findSome?_eq_none_iff]
  constructor
  · intro missed route member
    have none := Option.map_eq_none_iff.mp (missed route member)
    exact (Rule.match_eq_none_iff route.rule _ (valid_rules table valid route member) clean).mp none
  · intro never route member
    have none := (Rule.match_eq_none_iff route.rule _ (valid_rules table valid route member) clean).mpr (never route member)
    rw [none]
    rfl

end Table

theorem resolve_finds_lowest_aligned (objects : Objects) (steps : List RouterStep) (path : String) :
    let router := ((RouterState.new objects).run steps).router
    (∀ captures resource, router.resolve path = some (captures, resource) ↔
      ∃ route ∈ router.table, ∃ values, route.rule.Aligns values (splitPath path) ∧
        captures = route.rule.readings values ∧ resource = route.resource ∧
        ∀ other ∈ router.table, other.index < route.index → ∀ w, ¬ other.rule.Aligns w (splitPath path)) ∧
    (router.resolve path = none ↔ ∀ route ∈ router.table, ∀ values, ¬ route.rule.Aligns values (splitPath path)) ∧
    (∀ route ∈ router.table, ∀ v w, route.rule.Aligns v (splitPath path) → route.rule.Aligns w (splitPath path) →
      ∀ name ∈ route.rule.variableNames, v name = w name) ∧
    (∀ (place : Nat) (route : Route Resource), router.table[place]? = some route → route.index = place) := by
  intro router
  have valid : Table.Valid router.table :=
    (RouterState.run_valid (RouterState.new objects) steps (RouterState.new_valid objects)).table
  refine ⟨fun captures resource => Table.resolve_eq_some_iff router.table path captures resource valid,
    Table.resolve_eq_none_iff router.table path valid, ?_, valid.placed⟩
  intro route member v w left right
  exact Segment.aligned_unique v w route.rule.segments (splitPath path)
    (Table.valid_rules router.table valid route member) left right

end RestDispatch
