import RestDispatch.App.Basic

set_option autoImplicit false

/-!
Middleware that uses the service it wraps only by calling it. Main statement: whatever relation two
dispatchers keep while they answer calls, applications around them keep as well, with the same answers.
-/
namespace RestDispatch

-- Dispatchers that are related stay so when the same call is answered, and they give the same answer.
def Respects (R : Dispatcher → Dispatcher → Prop) (service : Service) : Prop :=
  ∀ a b, R a b → ∀ scope channel,
    R (service a scope channel).1 (service b scope channel).1 ∧ (service a scope channel).2 = (service b scope channel).2

-- A service that does to a dispatcher nothing but handle calls with it.
def Transparent (service : Service) : Prop :=
  ∀ R : Dispatcher → Dispatcher → Prop, Respects R Dispatcher.handle → Respects R service

namespace Middleware

-- What is made of a service is a matter of what the service answers.
def Opaque (middleware : Middleware) : Prop :=
  ∀ service wrapped, middleware.wrap service = .ok wrapped → ∀ R, Respects R service → Respects R wrapped

theorem header_opaque (tag : String) : (header tag).Opaque := by
  intro service wrapped made R respects a b related scope channel
  obtain rfl := Except.ok.inj made
  obtain ⟨after, same⟩ := respects a b related scope channel
  exact ⟨after, by simp only [same]⟩

theorem strip_opaque (tag start : String) : (strip tag start).Opaque := by
  intro service wrapped made R respects a b related scope channel
  obtain rfl := Except.ok.inj made
  cases found : scope.path with
  | none => simpa only [found, and_true] using related
  | some path => simpa only [found] using respects a b related _ channel

theorem stop_opaque (tag : String) : (stop tag).Opaque := by
  intro service wrapped made R respects a b related scope channel
  obtain rfl := Except.ok.inj made
  exact ⟨related, rfl⟩

theorem wrap_all_respects (R : Dispatcher → Dispatcher → Prop) (chain : List Middleware) (service wrapped : Service)
    (isOpaque : ∀ middleware ∈ chain, middleware.Opaque) (respects : Respects R service)
    (made : (wrapAll service chain).1 = .ok wrapped) : Respects R wrapped := by
  induction chain generalizing service with
  | nil =>
    obtain rfl := Except.ok.inj made
    exact respects
  | cons middleware rest ih =>
    rw [wrapAll] at made
    cases first : middleware.wrap service with
    | error fault => simp [first] at made
    | ok inner =>
      rw [first] at made
      have innerRespects := isOpaque middleware List.mem_cons_self service inner first R respects
      exact ih inner (fun other member => isOpaque other (List.mem_cons_of_mem _ member)) innerRespects made

end Middleware

namespace App

structure Opaque (app : App) : Prop where
  middleware : ∀ middleware ∈ app.middleware, middleware.Opaque
  chain : ∀ service, app.chain = some service → Transparent service

-- Applications that differ in their dispatchers alone.
structure Alike (R : Dispatcher → Dispatcher → Prop) (a b : App) : Prop where
  dispatcher : R a.dispatcher b.dispatcher
  middleware : a.middleware = b.middleware
  chain : a.chain = b.chain
  builds : a.builds = b.builds

theorem new_opaque (strict debug : Bool) (registry : Registry) : Opaque ((App.new strict debug).withRegistry registry) :=
  ⟨fun _ member => (List.not_mem_nil member).elim, fun _ found => (Option.some_ne_none _ found.symm).elim⟩

theorem add_middleware_opaque (app : App) (middleware : Middleware) (isOpaque : Opaque app) (new : middleware.Opaque) :
    Opaque (app.addMiddleware middleware) := by
  refine ⟨fun other member => ?_, fun service found => (Option.some_ne_none _ found.symm).elim⟩
  rcases List.mem_append.mp member with old | last
  · exact isOpaque.middleware other old
  · exact List.mem_singleton.mp last ▸ new

theorem add_middleware_alike (R : Dispatcher → Dispatcher → Prop) (a b : App) (middleware : Middleware) (alike : Alike R a b) :
    Alike R (a.addMiddleware middleware) (b.addMiddleware middleware) :=
  ⟨alike.dispatcher, by simp only [addMiddleware, alike.middleware], rfl, alike.builds⟩

-- The service of an application is there already or made now; either way it only handles calls.
theorem service_cases (app : App) (isOpaque : Opaque app) :
    (∃ fault, app.service.1 = .error fault) ∨ ∃ service, app.service.1 = .ok service ∧ Transparent service := by
  rw [App.service]
  cases chain : app.chain with
  | some service => exact Or.inr ⟨service, rfl, isOpaque.chain service chain⟩
  | none =>
    cases wrapped : Middleware.wrapAll Dispatcher.handle app.middleware.reverse with
    | mk result tags =>
      cases result with
      | error fault => exact Or.inl ⟨fault, rfl⟩
      | ok service =>
        refine Or.inr ⟨service, rfl, fun R respects => ?_⟩
        have reversed : ∀ middleware ∈ app.middleware.reverse, middleware.Opaque := fun middleware member =>
          isOpaque.middleware middleware (List.mem_reverse.mp member)
        exact Middleware.wrap_all_respects R _ Dispatcher.handle service reversed respects (by rw [wrapped])

theorem service_app (app : App) : app.service.2.dispatcher = app.dispatcher ∧ app.service.2.middleware = app.middleware ∧
    (∀ service, app.service.2.chain = some service → app.service.1 = .ok service) := by
  rw [App.service]
  cases chain : app.chain with
  | some service => exact ⟨rfl, rfl, fun other found => by rw [chain] at found; rw [Option.some.inj found]⟩
  | none =>
    cases Middleware.wrapAll Dispatcher.handle app.middleware.reverse with
    | mk result tags =>
      cases result with
      | error fault => exact ⟨rfl, rfl, fun service found => (Option.some_ne_none _ found.symm).elim⟩
      | ok service => exact ⟨rfl, rfl, fun other found => by rw [Option.some.inj found]⟩

theorem service_opaque (app : App) (isOpaque : Opaque app) : Opaque app.service.2 := by
  obtain ⟨_, middleware, chain⟩ := service_app app
  refine ⟨fun other member => isOpaque.middleware other (middleware ▸ member), fun service found => ?_⟩
  rcases service_cases app isOpaque with ⟨fault, failed⟩ | ⟨made, done, transparent⟩
  · rw [chain service found] at failed
    cases failed
  · rw [chain service found] at done
    obtain rfl := Except.ok.inj done
    exact transparent

theorem service_alike (R : Dispatcher → Dispatcher → Prop) (a b : App) (alike : Alike R a b) :
    a.service.1 = b.service.1 ∧ Alike R a.service.2 b.service.2 := by
  have middleware := alike.middleware
  have builds := congrArg (fun builds => builds ++ (Middleware.wrapAll Dispatcher.handle a.middleware.reverse).2) alike.builds
  rw [App.service, App.service, ← alike.chain, ← middleware]
  cases chain : a.chain with
  | some service => exact ⟨rfl, alike⟩
  | none =>
    cases wrapped : Middleware.wrapAll Dispatcher.handle a.middleware.reverse with
    | mk result tags =>
      rw [wrapped] at builds
      cases result with
      | error fault => exact ⟨rfl, alike.dispatcher, rfl, rfl, builds⟩
      | ok service => exact ⟨rfl, alike.dispatcher, rfl, rfl, builds⟩

theorem call_opaque (app : App) (scope : Scope) (channel : Channel) (isOpaque : Opaque app) :
    Opaque (app.call scope channel).1 := by
  have after := service_opaque app isOpaque
  rw [App.call]
  split
  · exact isOpaque
  · cases made : app.service with
    | mk result next =>
      rw [made] at after
      cases result with
      | error fault => exact after
      | ok service => exact ⟨after.middleware, after.chain⟩

theorem call_alike (R : Dispatcher → Dispatcher → Prop) (a b : App) (scope : Scope) (channel : Channel)
    (respects : Respects R Dispatcher.handle) (isOpaque : Opaque a) (alike : Alike R a b) :
    (a.call scope channel).2 = (b.call scope channel).2 ∧ Alike R (a.call scope channel).1 (b.call scope channel).1 := by
  obtain ⟨same, after⟩ := service_alike R a b alike
  have made := service_cases a isOpaque
  rw [App.call, App.call]
  split
  · exact ⟨rfl, alike⟩
  · cases madeA : a.service with
    | mk result next =>
      cases madeB : b.service with
      | mk other last =>
        rw [madeA, madeB] at same after
        rw [madeA] at made
        obtain rfl : result = other := same
        cases result with
        | error fault => exact ⟨rfl, after⟩
        | ok service =>
          have transparent : Transparent service := by
            rcases made with ⟨fault, failed⟩ | ⟨found, done, transparent⟩
            · cases failed
            · exact Except.ok.inj done ▸ transparent
          obtain ⟨related, delivered⟩ := transparent R respects next.dispatcher last.dispatcher after.dispatcher scope channel
          exact ⟨delivered, related, after.middleware, after.chain, after.builds⟩

end App
end RestDispatch
