import RestDispatch.Proofs.Route.Spelling
import RestDispatch.Proofs.Resource.Construction
import Mathlib.Data.List.Forall2

set_option autoImplicit false

/-!
Tables that grow. A step stores routes behind those that are there, or it stores nothing. Main statement: whatever the
steps are and in whatever order prepared routes are inserted, a step that fails leaves the table as it was, except that
several additions keep those before the one that fails, and a path that is answered is answered by the same route for
good.
-/
namespace RestDispatch

-- What stands behind a route: the thing that was given, or an object of the class that was given.
def Target.Yields : Target → Resource → Prop
  | .existing given, resource => resource = given
  | .fresh cls, resource => ∃ serial, resource = .object cls serial

-- The route that an entry adds.
structure Route.Enters (entry : String × Target) (route : Route Resource) : Prop where
  compiled : Rule.compile entry.1 = .ok route.rule
  yielded : entry.2.Yields route.resource

theorem Objects.realize_yields (objects : Objects) (target : Target) (resource : Resource)
    (realized : (objects.realize target).1 = .ok resource) : target.Yields resource := by
  rcases realize_ok objects (objects.realize target).2 target resource (Prod.ext realized rfl) with rfl | ⟨cls, rfl, made, _⟩
  · rfl
  · exact ⟨_, made⟩

theorem Table.answering_append {ρ : Type} (table added : Table ρ) (path : String) (hit : Captures × Route ρ)
    (answered : table.answering? path = some hit) : Table.answering? (table ++ added) path = some hit := by
  rw [Table.answering?] at answered ⊢
  rw [List.findSome?_append, answered, Option.some_or]

namespace Router

theorem insert_cases (router : Router) (route : Route Resource) :
    (router.table.contains route.rule.text = true ∧ router.insert route = (.error (.duplicatePath route.rule.text), router)) ∨
    (router.table.contains route.rule.text = false ∧
      router.insert route = (.ok { route with index := router.table.length },
        { router with table := router.table ++ [{ route with index := router.table.length }] })) := by
  rcases Table.insert_cases router.table route with ⟨taken, refused⟩ | ⟨fresh, stored⟩
  · exact Or.inl ⟨taken, by simp only [insert, refused]⟩
  · exact Or.inr ⟨fresh, by simp only [insert, stored]⟩

theorem add_cases (router : Router) (text : String) (target : Target) :
    (∃ e, (router.add text target).1 = .error e ∧ (router.add text target).2.table = router.table) ∨
    (∃ route, (router.add text target).1 = .ok route ∧ (router.add text target).2.table = router.table ++ [route] ∧
      route.Enters (text, target)) := by
  obtain ⟨unchanged, made⟩ := prepare_cases router text target
  rw [add]
  cases prepared : router.prepare text target with
  | mk result next =>
    rw [prepared] at unchanged made
    have same : next.table = router.table := unchanged
    cases result with
    | error e => exact Or.inl ⟨e, rfl, unchanged⟩
    | ok route =>
      obtain ⟨compiled, textual, fresh, realized⟩ := made route rfl
      rcases insert_cases next route with ⟨taken, _⟩ | ⟨_, stored⟩
      · rw [same, textual, fresh] at taken
        cases taken
      · refine Or.inr ⟨{ route with index := router.table.length }, ?_, ?_, compiled, ?_⟩
        · simp only [stored, same]
        · simp only [stored, same]
        · exact Objects.realize_yields router.objects target route.resource realized

theorem add_all_cons (router next : Router) (text : String) (target : Target) (rest : List (String × Target)) (route : Route Resource)
    (added : router.add text target = (.ok route, next)) :
    router.addAll ((text, target) :: rest) = ((next.addAll rest).1.map (route :: ·), (next.addAll rest).2) := by
  rw [addAll, added]
  cases others : next.addAll rest with
  | mk result last => cases result <;> simp [others, Except.map]

-- Where several additions stop: those before it have stored their routes, and it stores nothing.
structure StopsAt (router : Router) (before : List (String × Target)) (failing : String × Target) (e : RouteError)
    (routes : List (Route Resource)) : Prop where
  added : (router.addAll before).1 = .ok routes
  entered : List.Forall₂ Route.Enters before routes
  failed : ((router.addAll before).2.add failing.1 failing.2).1 = .error e

theorem add_all_cases (router : Router) (entries : List (String × Target)) :
    (∃ routes, (router.addAll entries).1 = .ok routes ∧ (router.addAll entries).2.table = router.table ++ routes ∧
      List.Forall₂ Route.Enters entries routes) ∨
    (∃ before failing after e routes, entries = before ++ failing :: after ∧ router.StopsAt before failing e routes ∧
      (router.addAll entries).1 = .error e ∧ (router.addAll entries).2.table = router.table ++ routes) := by
  induction entries generalizing router with
  | nil => exact Or.inl ⟨[], rfl, (List.append_nil _).symm, .nil⟩
  | cons entry rest ih =>
    obtain ⟨text, target⟩ := entry
    cases added : router.add text target with
    | mk result next =>
      have first := add_cases router text target
      rw [added] at first
      rcases first with ⟨e, rfl, same⟩ | ⟨route, rfl, longer, enters⟩
      · have stopped : router.addAll ((text, target) :: rest) = (.error e, next) := by rw [addAll, added]
        refine Or.inr ⟨[], (text, target), rest, e, [], rfl, ⟨rfl, .nil, ?_⟩, by rw [stopped], ?_⟩
        · exact congrArg Prod.fst added
        · rw [stopped, List.append_nil]
          exact same
      · have longer : next.table = router.table ++ [route] := longer
        have onwards := add_all_cons router next text target rest route added
        rcases ih next with ⟨routes, done, table, entered⟩ | ⟨before, failing, after, e, routes, rfl, stops, failed, table⟩
        · refine Or.inl ⟨route :: routes, ?_, ?_, .cons enters entered⟩
          · rw [onwards, done]
            rfl
          · rw [onwards, table, longer, List.append_assoc, List.singleton_append]
        · have start := add_all_cons router next text target before route added
          refine Or.inr ⟨(text, target) :: before, failing, after, e, route :: routes, rfl, ⟨?_, .cons enters stops.entered, ?_⟩, ?_, ?_⟩
          · rw [start, stops.added]
            rfl
          · rw [start]
            exact stops.failed
          · rw [onwards, failed]
            rfl
          · rw [onwards, table, longer, List.append_assoc, List.singleton_append]

end Router

namespace RouterState

-- The reasons for which a step may fail. There is none for asking, nor for inserting a route that was never prepared.
def Fails (state : RouterState) : RouterStep → RouteError → Prop
  | .add text target, e => (state.router.add text target).1 = .error e
  | .addAll entries, e => (state.router.addAll entries).1 = .error e
  | .prepare text target, e => (state.router.prepare text target).1 = .error e
  | .insert place, e => ∃ route, state.prepared[place]? = some route ∧ (state.router.insert route).1 = .error e
  | .resolve _, _ => False

theorem prepare_table (state : RouterState) (text : String) (target : Target) :
    (state.step (.prepare text target)).router.table = state.router.table := by
  have unchanged := (Router.prepare_cases state.router text target).1
  rw [RouterState.step]
  cases prepared : state.router.prepare text target with
  | mk result next =>
    rw [prepared] at unchanged
    cases result <;> exact unchanged

theorem step_table (state : RouterState) (step : RouterStep) : state.router.table <+: (state.step step).router.table := by
  cases step with
  | add text target =>
    rcases Router.add_cases state.router text target with ⟨e, _, same⟩ | ⟨route, _, longer, _⟩
    · exact ⟨[], (List.append_nil _).trans same.symm⟩
    · exact ⟨[route], longer.symm⟩
  | addAll entries =>
    rcases Router.add_all_cases state.router entries with ⟨routes, _, longer, _⟩ | ⟨_, _, _, _, routes, _, _, _, longer⟩
    · exact ⟨routes, longer.symm⟩
    · exact ⟨routes, longer.symm⟩
  | prepare text target => exact ⟨[], (List.append_nil _).trans (state.prepare_table text target).symm⟩
  | insert place =>
    rw [RouterState.step]
    cases state.prepared[place]? with
    | none => exact List.prefix_rfl
    | some route =>
      rcases Router.insert_cases state.router route with ⟨_, refused⟩ | ⟨_, stored⟩
      · simp only [refused, List.prefix_rfl]
      · simp only [stored, List.prefix_append]
  | resolve path => exact List.prefix_rfl

theorem run_table (state : RouterState) (steps : List RouterStep) : state.router.table <+: (state.run steps).router.table := by
  induction steps generalizing state with
  | nil => exact List.prefix_rfl
  | cons step rest ih => exact (state.step_table step).trans (ih (state.step step))

-- A step that fails stores nothing. Several additions are several steps.
theorem failed_step_table (state : RouterState) (step : RouterStep) (e : RouteError) (failed : state.Fails step e)
    (single : ∀ entries, step ≠ .addAll entries) : (state.step step).router.table = state.router.table := by
  cases step with
  | add text target =>
    rcases Router.add_cases state.router text target with ⟨_, _, same⟩ | ⟨route, added, _, _⟩
    · exact same
    · rw [Fails, added] at failed
      cases failed
  | addAll entries => exact absurd rfl (single entries)
  | prepare text target => exact state.prepare_table text target
  | insert place =>
    obtain ⟨route, found, refused⟩ := failed
    rw [RouterState.step, found]
    rcases Router.insert_cases state.router route with ⟨_, same⟩ | ⟨_, stored⟩
    · simp only [same]
    · rw [stored] at refused
      cases refused
  | resolve path => exact failed.elim

theorem failed_add_all_table (state : RouterState) (entries : List (String × Target)) (e : RouteError)
    (failed : state.Fails (.addAll entries) e) :
    ∃ before failing after routes, entries = before ++ failing :: after ∧ state.router.StopsAt before failing e routes ∧
      (state.step (.addAll entries)).router.table = state.router.table ++ routes := by
  rcases Router.add_all_cases state.router entries with ⟨routes, added, _, _⟩ | ⟨before, failing, after, e', routes, split, stops, result, table⟩
  · rw [Fails, added] at failed
    cases failed
  · obtain rfl : e' = e := by
      rw [Fails, result] at failed
      exact Except.error.inj failed
    exact ⟨before, failing, after, routes, split, stops, table⟩

-- The route that answers a path answers it after any further steps.
theorem run_answering (state : RouterState) (steps : List RouterStep) (path : String) (hit : Captures × Route Resource)
    (answered : state.router.table.answering? path = some hit) : (state.run steps).router.table.answering? path = some hit := by
  obtain ⟨added, longer⟩ := state.run_table steps
  rw [← longer]
  exact state.router.table.answering_append added path hit answered

theorem table_only_grows (objects : Objects) (steps : List RouterStep) :
    let state := (new objects).run steps
    (state.router.table.map (·.rule.text)).Nodup ∧
    (∀ (place : Nat) (route : Route Resource), state.router.table[place]? = some route →
      route.index = place ∧ Rule.compile route.rule.text = .ok route.rule ∧ route.rule.variableNames.Nodup ∧
        ∀ segment ∈ route.rule.segments.dropLast, segment.takesRest = false) ∧
    (∀ step e, state.Fails step e → (∀ entries, step ≠ .addAll entries) → (state.step step).router.table = state.router.table) ∧
    (∀ entries e, state.Fails (.addAll entries) e →
      ∃ before failing after routes, entries = before ++ failing :: after ∧ state.router.StopsAt before failing e routes ∧
        (state.step (.addAll entries)).router.table = state.router.table ++ routes) ∧
    (∀ path captures resource, state.router.resolve path = some (captures, resource) →
      ∃ route ∈ state.router.table, route.resource = resource ∧ ∀ later,
        (state.run later).router.table.answering? path = some (captures, route) ∧
          (state.run later).router.resolve path = some (captures, resource)) := by
  intro state
  have valid : Table.Valid state.router.table := (run_valid (new objects) steps (new_valid objects)).table
  refine ⟨valid.distinct, fun place route stored => ?_, state.failed_step_table, state.failed_add_all_table,
    fun path captures resource resolved => ?_⟩
  · have member := List.mem_of_getElem? stored
    have formed := Table.valid_rules state.router.table valid route member
    exact ⟨valid.placed place route stored, valid.compiled route member, formed.distinct, formed.closing⟩
  · rw [Router.resolve, Table.resolve_eq_answering] at resolved
    obtain ⟨⟨found, route⟩, answered, same⟩ := Option.map_eq_some_iff.mp resolved
    obtain ⟨rfl, rfl⟩ := Prod.mk.inj same
    have member := ((state.router.table.answering_eq_some_iff path found route valid).mp answered).1
    refine ⟨route, member, rfl, fun later => ?_⟩
    have still := state.run_answering later path (found, route) answered
    refine ⟨still, ?_⟩
    rw [Router.resolve, Table.resolve_eq_answering, still]
    rfl

-- A page is prepared, and inserted twice after a board was added.
def pages : ResourceClass := { name := "Pages" }

def lateSteps : List RouterStep :=
  [.prepare "/page/<id>" (.fresh pages), .add "/board" (.fresh { name := "Board" }), .insert 0, .insert 0]

theorem late_page_stays :
    let state := (new {}).run lateSteps
    state.router.table.map (fun route => (route.index, route.rule.text)) = [(0, "/board"), (1, "/page/<id>")] ∧
      state.Fails (.insert 0) (.duplicatePath "/page/<id>") ∧ (state.step (.insert 0)).router.table = state.router.table ∧
      ∀ later, (state.run later).router.resolve "/page/7" = some ([("id", "7")], .object pages 0) := by
  intro state
  obtain ⟨_, _, single, _, settled⟩ := table_only_grows {} lateSteps
  have refused : state.Fails (.insert 0) (.duplicatePath "/page/<id>") := ⟨_, rfl, rfl⟩
  have resolved : state.router.resolve "/page/7" = some ([("id", "7")], .object pages 0) := rfl
  obtain ⟨_, _, _, still⟩ := settled "/page/7" _ _ resolved
  exact ⟨rfl, refused, single _ _ refused (fun _ => RouterStep.noConfusion), fun later => (still later).2⟩

end RouterState
end RestDispatch
