import RestDispatch.Route.Router
import RestDispatch.Proofs.Route.Compilation

set_option autoImplicit false

/-!
Routers under construction: routes are added one by one or several at once, or prepared and inserted
apart from each other, and any of these steps may fail. Main statement: whatever the steps are, the rules
of the stored routes are compiled ones with different texts, and a route's index is its place.
-/
namespace RestDispatch

inductive RouterStep where
  | add (text : String) (target : Target)
  | addAll (entries : List (String × Target))
  | prepare (text : String) (target : Target)
  | insert (place : Nat)
  | resolve (path : String)

-- A router, and the routes that have been prepared for it, whether they were inserted or not.
structure RouterState where
  router : Router := {}
  prepared : List (Route Resource) := []

namespace RouterState

def step (state : RouterState) : RouterStep → RouterState
  | .add text target => { state with router := (state.router.add text target).2 }
  | .addAll entries => { state with router := (state.router.addAll entries).2 }
  | .prepare text target =>
    match state.router.prepare text target with
    | (.error _, router) => { state with router }
    | (.ok route, router) => { router, prepared := state.prepared ++ [route] }
  | .insert place =>
    match state.prepared[place]? with
    | none => state
    | some route => { state with router := (state.router.insert route).2 }
  | .resolve _ => state

def run (state : RouterState) (steps : List RouterStep) : RouterState := steps.foldl step state

-- A router without routes, whatever has been constructed before it was made.
def new (objects : Objects) : RouterState := { router := { objects } }

end RouterState

namespace Table

variable {ρ : Type}

structure Valid (table : Table ρ) : Prop where
  compiled : ∀ route ∈ table, Rule.compile route.rule.text = .ok route.rule
  placed : ∀ (place : Nat) (route : Route ρ), table[place]? = some route → route.index = place
  distinct : (table.map (·.rule.text)).Nodup

theorem valid_nil : Valid ([] : Table ρ) := ⟨by simp, by simp, by simp⟩

theorem contains_iff (table : Table ρ) (text : String) :
    table.contains text = true ↔ text ∈ table.map (·.rule.text) := by
  simp only [contains, get?, List.find?_isSome, decide_eq_true_eq, List.mem_map]

theorem insert_cases (table : Table ρ) (route : Route ρ) :
    (table.contains route.rule.text = true ∧ table.insert route = .error (.duplicatePath route.rule.text)) ∨
    (table.contains route.rule.text = false ∧
      table.insert route = .ok ({ route with index := table.length }, table ++ [{ route with index := table.length }])) := by
  by_cases taken : table.contains route.rule.text = true
  · exact Or.inl ⟨taken, by simp [Table.insert, taken]⟩
  · exact Or.inr ⟨by simpa using taken, by simp [Table.insert, taken]⟩

theorem valid_append (table : Table ρ) (route : Route ρ) (valid : Valid table)
    (compiled : Rule.compile route.rule.text = .ok route.rule) (fresh : table.contains route.rule.text = false) :
    Valid (table ++ [{ route with index := table.length }]) := by
  constructor
  · intro other member
    rcases List.mem_append.mp member with before | last
    · exact valid.compiled other before
    · obtain rfl := List.mem_singleton.mp last
      exact compiled
  · intro place other found
    rcases Nat.lt_trichotomy place table.length with before | rfl | beyond
    · rw [List.getElem?_append_left before] at found
      exact valid.placed place other found
    · simp only [List.getElem?_concat_length, Option.some.injEq] at found
      rw [← found]
    · have none : (table ++ [{ route with index := table.length }])[place]? = none :=
        List.getElem?_eq_none (by simp only [List.length_append, List.length_singleton]; omega)
      rw [none] at found
      cases found
  · have absent : route.rule.text ∉ table.map (·.rule.text) := by
      rw [← contains_iff, fresh]
      simp
    simp only [List.map_append, List.map_cons, List.map_nil]
    refine List.nodup_append.mpr ⟨valid.distinct, by simp, ?_⟩
    intro text member other last
    obtain rfl := List.mem_singleton.mp last
    exact fun equal => absent (equal ▸ member)

theorem valid_rules (table : Table ρ) (valid : Valid table) (route : Route ρ) (member : route ∈ table) :
    Segment.WellFormed route.rule.segments :=
  Rule.compile_well_formed route.rule.text route.rule (valid.compiled route member)

end Table

namespace Router

-- A route is prepared without a change to the table, and what is prepared has a compiled rule of the given text.
theorem prepare_cases (router : Router) (text : String) (target : Target) :
    ((router.prepare text target).2.table = router.table) ∧
    ∀ route, (router.prepare text target).1 = .ok route →
      Rule.compile text = .ok route.rule ∧ route.rule.text = text ∧ router.table.contains text = false ∧
        (router.objects.realize target).1 = .ok route.resource := by
  rw [prepare]
  cases compiled : Rule.compile text with
  | error e => simp
  | ok rule =>
    by_cases taken : router.table.contains text = true
    · simp [taken]
    · simp only [taken, Bool.false_eq_true, if_false]
      cases realized : router.objects.realize target with
      | mk result objects =>
        cases result with
        | error e => simp
        | ok resource =>
          refine ⟨rfl, fun route same => ?_⟩
          obtain rfl := Except.ok.inj same
          exact ⟨rfl, Rule.compile_text text rule compiled, by simp, rfl⟩

theorem insert_valid (router : Router) (route : Route Resource) (valid : Table.Valid router.table)
    (compiled : Rule.compile route.rule.text = .ok route.rule) : Table.Valid (router.insert route).2.table := by
  rw [insert]
  rcases Table.insert_cases router.table route with ⟨_, refused⟩ | ⟨fresh, stored⟩
  · rw [refused]
    exact valid
  · rw [stored]
    exact Table.valid_append router.table route valid compiled fresh

theorem add_valid (router : Router) (text : String) (target : Target) (valid : Table.Valid router.table) :
    Table.Valid (router.add text target).2.table := by
  obtain ⟨unchanged, made⟩ := prepare_cases router text target
  rw [add]
  cases prepared : router.prepare text target with
  | mk result next =>
    rw [prepared] at unchanged made
    have nextValid : Table.Valid next.table := by rw [unchanged]; exact valid
    cases result with
    | error e => exact nextValid
    | ok route =>
      obtain ⟨compiled, textual, _⟩ := made route rfl
      exact insert_valid next route nextValid (textual ▸ compiled)

-- The router that several additions leave, one addition after the other.
theorem add_all_next (router : Router) (text : String) (target : Target) (rest : List (String × Target)) :
    (router.addAll ((text, target) :: rest)).2 =
      match (router.add text target).1 with
      | .error _ => (router.add text target).2
      | .ok _ => ((router.add text target).2.addAll rest).2 := by
  rw [addAll]
  cases added : router.add text target with
  | mk result next =>
    cases result with
    | error e => rfl
    | ok route =>
      cases others : next.addAll rest with
      | mk outcome last => cases outcome <;> simp [others]

theorem add_all_valid (router : Router) (entries : List (String × Target)) (valid : Table.Valid router.table) :
    Table.Valid (router.addAll entries).2.table := by
  induction entries generalizing router with
  | nil => exact valid
  | cons entry rest ih =>
    obtain ⟨text, target⟩ := entry
    have first := add_valid router text target valid
    rw [add_all_next]
    cases (router.add text target).1 with
    | error e => exact first
    | ok route => exact ih _ first

end Router

namespace RouterState

structure Valid (state : RouterState) : Prop where
  table : Table.Valid state.router.table
  prepared : ∀ route ∈ state.prepared, Rule.compile route.rule.text = .ok route.rule

theorem new_valid (objects : Objects) : Valid (new objects) := ⟨Table.valid_nil, by simp [new]⟩

theorem step_valid (state : RouterState) (step : RouterStep) (valid : Valid state) : Valid (state.step step) := by
  cases step with
  | add text target => exact ⟨Router.add_valid state.router text target valid.table, valid.prepared⟩
  | addAll entries => exact ⟨Router.add_all_valid state.router entries valid.table, valid.prepared⟩
  | prepare text target =>
    obtain ⟨unchanged, made⟩ := Router.prepare_cases state.router text target
    rw [RouterState.step]
    cases prepared : state.router.prepare text target with
    | mk result next =>
      rw [prepared] at unchanged made
      have nextValid : Table.Valid next.table := by rw [unchanged]; exact valid.table
      cases result with
      | error e => exact ⟨nextValid, valid.prepared⟩
      | ok route =>
        obtain ⟨compiled, textual, _⟩ := made route rfl
        refine ⟨nextValid, fun other member => ?_⟩
        rcases List.mem_append.mp member with before | last
        · exact valid.prepared other before
        · obtain rfl := List.mem_singleton.mp last
          exact textual ▸ compiled
  | insert place =>
    rw [RouterState.step]
    cases found : state.prepared[place]? with
    | none => exact valid
    | some route =>
      have compiled := valid.prepared route (List.mem_of_getElem? found)
      exact ⟨Router.insert_valid state.router route valid.table compiled, valid.prepared⟩
  | resolve path => exact valid

theorem run_valid (state : RouterState) (steps : List RouterStep) (valid : Valid state) : Valid (state.run steps) := by
  induction steps generalizing state with
  | nil => exact valid
  | cons step rest ih => exact ih (state.step step) (step_valid state step valid)

end RouterState
end RestDispatch
