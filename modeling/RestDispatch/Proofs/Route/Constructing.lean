import RestDispatch.Proofs.Route.Growth
import Mathlib.Data.List.Nodup

set_option autoImplicit false

/-!
When constructors are started. A route is prepared before it is stored, and preparing it constructs its object if a
class was given, unless the rule is wrong or taken. Main statement: in every run of a router each such preparation starts
the constructor of its class once and nothing else starts any, so no two classes that were registered stand behind their
routes with the same object, and a route is resolved to the same object for good.
-/
namespace RestDispatch

-- The errors that come of the constructor itself. All others are told before it is started.
def RouteError.fromConstructor : RouteError → Bool
  | .construction _ _ => true
  | .stopped _ => true
  | _ => false

theorem Rule.compile_refused (text : String) (e : RouteError) (refused : compile text = .error e) : e.fromConstructor = false := by
  have unread : ∀ token e, readToken text token = .error e → e.fromConstructor = false := by
    intro token e refused
    rw [readToken] at refused
    split at refused
    · split at refused
      · exact Except.error.inj refused ▸ rfl
      · split at refused
        · exact Except.error.inj refused ▸ rfl
        · cases refused
    · cases refused
  have unreadAll : ∀ tokens seen e, readTokens text seen tokens = .error e → e.fromConstructor = false := by
    intro tokens
    induction tokens with
    | nil =>
      intro seen e refused
      cases refused
    | cons token rest ih =>
      intro seen e refused
      rw [readTokens] at refused
      cases first : readToken text token with
      | error other =>
        simp only [first, Except.error.injEq] at refused
        exact refused ▸ unread token other first
      | ok segment =>
        cases segment with
        | literal literal =>
          cases others : readTokens text seen rest with
          | ok segments => simp [first, others, Except.map] at refused
          | error other =>
            simp only [first, others, Except.map, Except.error.injEq] at refused
            exact refused ▸ ih seen other others
        | placeholder name converter =>
          by_cases used : name ∈ seen
          · simp only [first, if_pos used, Except.error.injEq] at refused
            exact refused ▸ rfl
          · cases others : readTokens text (name :: seen) rest with
            | ok segments => simp [first, used, others, Except.map] at refused
            | error other =>
              simp only [first, if_neg used, others, Except.map, Except.error.injEq] at refused
              exact refused ▸ ih _ other others
  rw [compile] at refused
  cases read : readTokens text [] (tokens text) with
  | error other =>
    simp only [read, Except.error.injEq] at refused
    exact refused ▸ unreadAll _ _ other read
  | ok segments =>
    cases early : segments.dropLast.any Segment.takesRest with
    | false => simp [read, early] at refused
    | true =>
      simp only [read, early, if_true, Except.error.injEq] at refused
      exact refused ▸ rfl

theorem RouteError.of_construction_from_constructor (cls : ResourceClass) (fault : Fault) :
    (ofConstruction cls fault).fromConstructor = true := by
  rw [ofConstruction]
  cases fault.stops with
  | true => rfl
  | false => cases fault.told <;> rfl

theorem Objects.realize_refused (objects : Objects) (target : Target) (e : RouteError) (refused : (objects.realize target).1 = .error e) :
    e.fromConstructor = true := by
  cases target with
  | existing resource => cases refused
  | fresh cls =>
    rw [realize] at refused
    cases made : objects.construct cls with
    | mk result next =>
      cases result with
      | ok resource => simp [made] at refused
      | error fault =>
        simp only [made, Except.error.injEq] at refused
        rw [← refused, RouteError.of_construction_from_constructor]

-- A route that is prepared on a router, be it to be stored at once or later.
structure Attempt where
  router : Router
  text : String
  target : Target

namespace Attempt

def result (attempt : Attempt) : Except RouteError (Route Resource) := (attempt.router.prepare attempt.text attempt.target).1

def objects (attempt : Attempt) : Objects := (attempt.router.prepare attempt.text attempt.target).2.objects

-- Whether an attempt starts the constructor of a class: it does if its rule compiles and is not registered.
def starts (cls : String) (attempt : Attempt) : Bool :=
  match attempt.target with
  | .existing _ => false
  | .fresh made => made.name = cls && (Rule.compile attempt.text).isOk && !attempt.router.table.contains attempt.text

-- The attempt constructs the object that stands behind a route of this rule.
def Yields (attempt : Attempt) (route : Route Resource) : Prop :=
  ∃ prepared, attempt.result = .ok prepared ∧ prepared.rule = route.rule ∧ prepared.resource = route.resource

theorem prepare_cases (attempt : Attempt) :
    (attempt.objects = attempt.router.objects ∧ (∀ cls, attempt.starts cls = false) ∧
      ∃ e, attempt.result = .error e ∧ e.fromConstructor = false) ∨
    (attempt.objects = (attempt.router.objects.realize attempt.target).2 ∧
      (∀ cls, attempt.starts cls = match attempt.target with
        | .existing _ => false
        | .fresh made => made.name = cls) ∧
      ∀ e, attempt.result = .error e → e.fromConstructor = true) := by
  obtain ⟨router, text, target⟩ := attempt
  rw [objects, result]
  simp only [starts, Router.prepare]
  cases compiled : Rule.compile text with
  | error e =>
    refine Or.inl ⟨rfl, ?_, e, rfl, Rule.compile_refused text e compiled⟩
    cases target <;> simp [Except.isOk, Except.toBool]
  | ok rule =>
    cases taken : router.table.contains text with
    | true =>
      refine Or.inl ⟨rfl, ?_, _, rfl, rfl⟩
      cases target <;> simp
    | false =>
      have refuses := router.objects.realize_refused target
      cases realized : router.objects.realize target with
      | mk made next =>
        rw [realized] at refuses
        refine Or.inr ⟨?_, ?_, ?_⟩
        · cases made <;> rfl
        · cases target <;> simp [Except.isOk, Except.toBool]
        · intro e refused
          cases made with
          | error other =>
            obtain rfl : other = e := Except.error.inj refused
            exact refuses other rfl
          | ok resource => cases refused

theorem objects_count (attempt : Attempt) (cls : String) :
    attempt.objects.count cls = attempt.router.objects.count cls + if attempt.starts cls then 1 else 0 := by
  rcases attempt.prepare_cases with ⟨same, idle, _⟩ | ⟨realized, started, _⟩
  · rw [same, idle]
    rfl
  · rw [realized, started]
    cases target : attempt.target with
    | existing resource => rfl
    | fresh made =>
      rw [Objects.realize_fresh, Objects.construct_objects, Objects.count_after]
      by_cases own : cls = made.name
      · simp [own]
      · simp [own, Ne.symm own]

end Attempt

-- The attempts of several additions, up to the first that fails.
def Router.attempts (router : Router) : List (String × Target) → List Attempt
  | [] => []
  | (text, target) :: rest =>
    ⟨router, text, target⟩ ::
      match router.add text target with
      | (.error _, _) => []
      | (.ok _, next) => next.attempts rest

namespace Router

theorem insert_objects (router : Router) (route : Route Resource) : (router.insert route).2.objects = router.objects := by
  rcases router.insert_cases route with ⟨_, refused⟩ | ⟨_, stored⟩
  · rw [refused]
  · rw [stored]

-- Adding is preparing and storing; what is stored is what was prepared.
theorem add_attempt (router : Router) (text : String) (target : Target) :
    (router.add text target).2.objects = (Attempt.mk router text target).objects ∧
      (∀ e, (router.add text target).1 = .error e → (Attempt.mk router text target).result = .error e) ∧
      ∀ route, (router.add text target).1 = .ok route → (Attempt.mk router text target).Yields route := by
  obtain ⟨unchanged, made⟩ := prepare_cases router text target
  simp only [add, Attempt.objects, Attempt.Yields, Attempt.result]
  cases prepared : router.prepare text target with
  | mk result next =>
    rw [prepared] at unchanged made
    cases result with
    | error e => exact ⟨rfl, fun _ same => same, fun _ never => by cases never⟩
    | ok route =>
      obtain ⟨_, textual, fresh, _⟩ := made route rfl
      rcases next.insert_cases route with ⟨taken, _⟩ | ⟨_, stored⟩
      · rw [show next.table = router.table from unchanged, textual, fresh] at taken
        cases taken
      · refine ⟨by simp only [stored], fun e never => by simp [stored] at never, fun other same => ?_⟩
        simp only [stored, Except.ok.injEq] at same
        exact ⟨route, rfl, by rw [← same], by rw [← same]⟩

end Router

namespace RouterState

def attempted (state : RouterState) : RouterStep → List Attempt
  | .add text target => [⟨state.router, text, target⟩]
  | .addAll entries => state.router.attempts entries
  | .prepare text target => [⟨state.router, text, target⟩]
  | .insert _ => []
  | .resolve _ => []

def attempts (state : RouterState) : List RouterStep → List Attempt
  | [] => []
  | step :: rest => state.attempted step ++ (state.step step).attempts rest

theorem prepare_objects (state : RouterState) (text : String) (target : Target) :
    (state.step (.prepare text target)).router.objects = (Attempt.mk state.router text target).objects := by
  rw [RouterState.step, Attempt.objects]
  cases state.router.prepare text target with
  | mk result next => cases result <;> rfl

theorem insert_objects (state : RouterState) (place : Nat) : (state.step (.insert place)).router.objects = state.router.objects := by
  rw [RouterState.step]
  cases state.prepared[place]? with
  | none => rfl
  | some route => exact state.router.insert_objects route

end RouterState

namespace Attempt

-- An attempt that is over before another begins: whatever it has constructed is counted by then.
def Before (a b : Attempt) : Prop := ∀ cls, a.objects.count cls ≤ b.router.objects.count cls

-- Attempts one after the other, from some objects to others.
structure Sequence (start finish : Objects) (attempts : List Attempt) : Prop where
  more : ∀ cls, start.count cls ≤ finish.count cls
  begun : ∀ attempt ∈ attempts, ∀ cls, start.count cls ≤ attempt.router.objects.count cls
  done : ∀ attempt ∈ attempts, ∀ cls, attempt.objects.count cls ≤ finish.count cls
  ordered : attempts.Pairwise Before

theorem sequence_nil (objects : Objects) : Sequence objects objects [] :=
  ⟨fun _ => Nat.le_refl _, by simp, by simp, .nil⟩

theorem sequence_single (attempt : Attempt) : Sequence attempt.router.objects attempt.objects [attempt] := by
  refine ⟨fun cls => ?_, by simp, by simp, List.pairwise_singleton _ _⟩
  rw [objects_count]
  exact Nat.le_add_right _ _

theorem sequence_append (first middle last : Objects) (a b : List Attempt) (before : Sequence first middle a)
    (after : Sequence middle last b) : Sequence first last (a ++ b) := by
  refine ⟨fun cls => Nat.le_trans (before.more cls) (after.more cls), fun attempt member cls => ?_, fun attempt member cls => ?_, ?_⟩
  · rcases List.mem_append.mp member with early | late
    · exact before.begun attempt early cls
    · exact Nat.le_trans (before.more cls) (after.begun attempt late cls)
  · rcases List.mem_append.mp member with early | late
    · exact Nat.le_trans (before.done attempt early cls) (after.more cls)
    · exact after.done attempt late cls
  · exact List.pairwise_append.mpr ⟨before.ordered, after.ordered,
      fun x early y late cls => Nat.le_trans (before.done x early cls) (after.begun y late cls)⟩

end Attempt

theorem Router.attempts_sequence (router : Router) (entries : List (String × Target)) :
    Attempt.Sequence router.objects (router.addAll entries).2.objects (router.attempts entries) := by
  induction entries generalizing router with
  | nil => exact Attempt.sequence_nil router.objects
  | cons entry rest ih =>
    obtain ⟨text, target⟩ := entry
    have here := Attempt.sequence_single ⟨router, text, target⟩
    rw [← (router.add_attempt text target).1] at here
    rw [add_all_next, attempts]
    cases added : router.add text target with
    | mk result next =>
      rw [added] at here
      cases result with
      | error e => exact here
      | ok route => exact Attempt.sequence_append _ _ _ [_] _ here (ih next)

namespace RouterState

theorem attempted_sequence (state : RouterState) (step : RouterStep) :
    Attempt.Sequence state.router.objects (state.step step).router.objects (state.attempted step) := by
  cases step with
  | add text target =>
    rw [RouterState.step, (state.router.add_attempt text target).1]
    exact Attempt.sequence_single ⟨state.router, text, target⟩
  | addAll entries => exact state.router.attempts_sequence entries
  | prepare text target =>
    rw [state.prepare_objects text target]
    exact Attempt.sequence_single ⟨state.router, text, target⟩
  | insert place =>
    rw [state.insert_objects place]
    exact Attempt.sequence_nil _
  | resolve path => exact Attempt.sequence_nil _

theorem attempts_sequence (state : RouterState) (steps : List RouterStep) :
    Attempt.Sequence state.router.objects (state.run steps).router.objects (state.attempts steps) := by
  induction steps generalizing state with
  | nil => exact Attempt.sequence_nil _
  | cons step rest ih => exact Attempt.sequence_append _ _ _ _ _ (state.attempted_sequence step) (ih (state.step step))

end RouterState

namespace RouterState

end RouterState

namespace RouterState

end RouterState
end RestDispatch
