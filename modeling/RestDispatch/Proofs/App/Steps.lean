import RestDispatch.App.Basic
import RestDispatch.Proofs.App.Registering

set_option autoImplicit false

/-!
Applications in use: things are made that can be registered, parsers are made and changed, routes and
middleware are added, and calls are answered, in any order. Every step tells what came of it.
-/
namespace RestDispatch

-- What is registered: a class, of which an object is constructed then, or a thing that has been made before. A thing
-- may be registered as often as one likes.
inductive Source where
  | fresh (cls : ResourceClass)
  | made (place : Nat)

inductive SetupStep where
  | construct (cls : ResourceClass)
  | hold (v : Value)
  | makeParser (parser : Parser)
  | add (text : String) (source : Source) (attachments : List (String × ParserId))
  | addAll (entries : List (String × Source))

inductive AppStep where
  | setup (step : SetupStep)
  | amendParser (id : ParserId) (change : Parser → Parser)
  | addMiddleware (middleware : Middleware)
  | call (scope : Scope) (channel : Channel)

inductive StepReport where
  | done
  | impossible
  | constructed (result : Except Fault Unit)
  | registered (result : Except RegisterError (List (Route Resource)))
  | delivered (delivery : Delivery)

structure AppState where
  app : App
  made : List Resource := []

namespace AppState

-- An application without routes. Constructions may have been started before.
def new (strict debug : Bool) (started : List (String × Nat)) : AppState :=
  { app := (App.new strict debug).withRegistry { strict, router := { objects := { started } } } }

def registry (state : AppState) : Registry := state.app.registry

def withRegistry (state : AppState) (registry : Registry) : AppState :=
  { state with app := state.app.withRegistry registry }

def target? (state : AppState) : Source → Option Target
  | .fresh cls => some (.fresh cls)
  | .made place => state.made[place]?.map .existing

def targets? (state : AppState) : List (String × Source) → Option (List (String × Target))
  | [] => some []
  | (text, source) :: rest =>
    match state.target? source, state.targets? rest with
    | some target, some others => some ((text, target) :: others)
    | _, _ => none

-- Only parsers that have been made can be attached.
def canAttach (state : AppState) (attachments : List (String × ParserId)) : Bool :=
  attachments.all fun attachment => attachment.2 < state.registry.parsers.length

def construct (state : AppState) (cls : ResourceClass) : StepReport × AppState :=
  match state.registry.router.objects.construct cls with
  | (.error fault, objects) => (.constructed (.error fault), state.withRegistry (state.registry.withObjects objects))
  | (.ok resource, objects) =>
    (.constructed (.ok ()),
      { state.withRegistry (state.registry.withObjects objects) with made := state.made ++ [resource] })

def setup (state : AppState) : SetupStep → StepReport × AppState
  | .construct cls => state.construct cls
  | .hold v => (.done, { state with made := state.made ++ [.plain state.made.length v] })
  | .makeParser parser => (.done, state.withRegistry (state.registry.addParser parser).2)
  | .add text source attachments =>
    match state.target? source, state.canAttach attachments with
    | some target, true =>
      let (result, app) := state.app.add text target attachments
      (.registered (result.map fun route => [route]), { state with app })
    | _, _ => (.impossible, state)
  | .addAll entries =>
    match state.targets? entries with
    | some targets =>
      let (result, app) := state.app.addAll targets
      (.registered result, { state with app })
    | none => (.impossible, state)

def step (state : AppState) : AppStep → StepReport × AppState
  | .setup step => state.setup step
  | .amendParser id change => (.done, state.withRegistry (state.registry.amendParser id change))
  | .addMiddleware middleware => (.done, { state with app := state.app.addMiddleware middleware })
  | .call scope channel =>
    let (app, delivery) := state.app.call scope channel
    (.delivered delivery, { state with app })

def run (state : AppState) : List AppStep → List StepReport × AppState
  | [] => ([], state)
  | step :: rest =>
    let (report, next) := state.step step
    let (reports, last) := next.run rest
    (report :: reports, last)

def setupAll (state : AppState) : List SetupStep → AppState
  | [] => state
  | step :: rest => (state.setup step).2.setupAll rest

theorem run_cons (state : AppState) (step : AppStep) (rest : List AppStep) :
    state.run (step :: rest) =
      ((state.step step).1 :: ((state.step step).2.run rest).1, ((state.step step).2.run rest).2) := rfl

-- What every step keeps is kept by a run of them.
theorem run_keeps (P : AppState → Prop) (steps : List AppStep)
    (keeps : ∀ state step, step ∈ steps → P state → P (state.step step).2) (state : AppState) (start : P state) : P (state.run steps).2 := by
  induction steps generalizing state with
  | nil => exact start
  | cons step rest ih =>
    rw [run_cons]
    have first := keeps state step List.mem_cons_self start
    exact ih (fun state other member => keeps state other (List.mem_cons_of_mem _ member)) _ first

theorem setup_all_append (state : AppState) (a b : List SetupStep) :
    state.setupAll (a ++ b) = (state.setupAll a).setupAll b := by
  induction a generalizing state with
  | nil => rfl
  | cons step rest ih => exact ih (state.setup step).2

-- Whatever is set up, only the registry of the application is another.
theorem setup_app (state : AppState) (step : SetupStep) :
    ∃ registry, (state.setup step).2.app = state.app.withRegistry registry := by
  have same : state.app = state.app.withRegistry state.registry := rfl
  cases step with
  | construct cls =>
    rw [setup, construct]
    cases state.registry.router.objects.construct cls with
    | mk result objects => cases result <;> exact ⟨_, rfl⟩
  | hold v => exact ⟨_, same⟩
  | makeParser parser => exact ⟨_, rfl⟩
  | add text source attachments =>
    rw [setup]
    cases state.target? source with
    | none => exact ⟨_, same⟩
    | some target =>
      cases state.canAttach attachments with
      | false => exact ⟨_, same⟩
      | true => exact ⟨_, rfl⟩
  | addAll entries =>
    rw [setup]
    cases state.targets? entries with
    | none => exact ⟨_, same⟩
    | some targets => exact ⟨_, rfl⟩

-- Most steps register nothing. They make things and parsers, and leave routes and endpoints as they are.
structure Unregistered (before after : AppState) : Prop where
  strict : after.registry.strict = before.registry.strict
  table : after.registry.router.table = before.registry.router.table
  endpoints : after.registry.endpoints = before.registry.endpoints
  parsers : before.registry.parsers <+: after.registry.parsers
  made : before.made <+: after.made

theorem unregistered_self (state : AppState) : Unregistered state state :=
  ⟨rfl, rfl, rfl, List.prefix_rfl, List.prefix_rfl⟩

theorem setup_cases (state : AppState) (step : SetupStep) :
    Unregistered state (state.setup step).2 ∨
    (∃ text source attachments target, step = .add text source attachments ∧ state.target? source = some target ∧
      (state.setup step).2 = state.withRegistry (state.registry.register text target attachments).2) ∨
    ∃ entries targets, step = .addAll entries ∧ state.targets? entries = some targets ∧
      (state.setup step).2 = state.withRegistry (state.registry.registerAll targets).2 := by
  have still := state.unregistered_self
  cases step with
  | construct cls =>
    refine Or.inl ?_
    rw [setup, construct]
    cases state.registry.router.objects.construct cls with
    | mk result objects =>
      cases result with
      | error fault => exact ⟨rfl, rfl, rfl, List.prefix_rfl, List.prefix_rfl⟩
      | ok resource => exact ⟨rfl, rfl, rfl, List.prefix_rfl, List.prefix_append _ _⟩
  | hold v => exact Or.inl ⟨rfl, rfl, rfl, List.prefix_rfl, List.prefix_append _ _⟩
  | makeParser parser => exact Or.inl ⟨rfl, rfl, rfl, List.prefix_append _ _, List.prefix_rfl⟩
  | add text source attachments =>
    rw [setup]
    cases found : state.target? source with
    | none => exact Or.inl still
    | some target =>
      cases state.canAttach attachments with
      | false => exact Or.inl still
      | true => exact Or.inr (Or.inl ⟨text, source, attachments, target, rfl, found, rfl⟩)
  | addAll entries =>
    rw [setup]
    cases found : state.targets? entries with
    | none => exact Or.inl still
    | some targets => exact Or.inr (Or.inr ⟨entries, targets, rfl, found, rfl⟩)

end AppState

namespace Registry

-- The registry that several registrations leave, one registration after the other.
theorem register_all_next (registry : Registry) (text : String) (target : Target) (rest : List (String × Target)) :
    (registry.registerAll ((text, target) :: rest)).2 =
      match (registry.register text target []).1 with
      | .error _ => (registry.register text target []).2
      | .ok _ => ((registry.register text target []).2.registerAll rest).2 := by
  rw [registerAll]
  cases registered : registry.register text target [] with
  | mk result next =>
    cases result with
    | error e => rfl
    | ok route =>
      cases others : next.registerAll rest with
      | mk outcome last => cases outcome <;> simp [others]

-- What holds of a registry and is kept by every registration is kept by many of them.
theorem register_all_keeps (P : Registry → Prop) (entries : List (String × Target))
    (keeps : ∀ registry entry, P registry → entry ∈ entries → P (registry.register entry.1 entry.2 []).2)
    (registry : Registry) (start : P registry) : P (registry.registerAll entries).2 := by
  induction entries generalizing registry with
  | nil => exact start
  | cons entry rest ih =>
    obtain ⟨text, target⟩ := entry
    have first := keeps registry (text, target) start List.mem_cons_self
    rw [register_all_next]
    cases (registry.register text target []).1 with
    | error e => exact first
    | ok route => exact ih (fun registry entry here inside => keeps registry entry here (List.mem_cons_of_mem _ inside)) _ first

end Registry
end RestDispatch
