import RestDispatch.Proofs.App.Steps
import Mathlib.Data.List.Induction

set_option autoImplicit false

/-!
The middleware that a call goes through. What wraps a service is code from outside, which may do something else each time
it is applied. Main statement: whatever an application has been through, a call is answered by the dispatcher in all
middleware that was added before, the first outermost; and this service is made anew exactly where none was made since the
latest addition.
-/
namespace RestDispatch

namespace Middleware

-- The service that the first makes of what the second makes of what the others make of a service.
inductive Wraps (service : Service) : List Middleware → Service → Prop
  | bare : Wraps service [] service
  | around (middleware : Middleware) (rest : List Middleware) (inner outer : Service) (behind : Wraps service rest inner)
      (made : middleware.wrap inner = .ok outer) : Wraps service (middleware :: rest) outer

-- One of them fails on what those behind it made. Those have been tried before it, last one first, and none of those in
-- front of it.
def Breaks (service : Service) (chain : List Middleware) (fault : Fault) (tried : List Middleware) : Prop :=
  ∃ before middleware after inner, chain = before ++ middleware :: after ∧ Wraps service after inner ∧
    middleware.wrap inner = .error fault ∧ tried = after.reverse ++ [middleware]

theorem wraps_unique (service : Service) (chain : List Middleware) (one other : Service) (first : Wraps service chain one)
    (second : Wraps service chain other) : one = other := by
  induction first generalizing other with
  | bare =>
    cases second
    rfl
  | around middleware rest inner outer behind made ih =>
    cases second with
    | around _ _ otherInner _ otherBehind otherMade =>
      obtain rfl := ih otherInner otherBehind
      exact Except.ok.inj (made.symm.trans otherMade)

theorem breaks_unwrapped (service : Service) (chain : List Middleware) (fault : Fault) (tried : List Middleware) (outer : Service)
    (breaks : Breaks service chain fault tried) : ¬ Wraps service chain outer := by
  obtain ⟨before, middleware, after, inner, rfl, behind, failed, _⟩ := breaks
  induction before generalizing outer with
  | nil =>
    intro wraps
    cases wraps with
    | around _ _ otherInner _ otherBehind made =>
      obtain rfl := wraps_unique service after inner otherInner behind otherBehind
      cases failed.symm.trans made
  | cons first rest ih =>
    intro wraps
    cases wraps with
    | around _ _ otherInner _ otherBehind _ => exact ih otherInner otherBehind

theorem wrap_all_append (service : Service) (front back : List Middleware) :
    wrapAll service (front ++ back) =
      match wrapAll service front with
      | (.error fault, tags) => (.error fault, tags)
      | (.ok inner, tags) => ((wrapAll inner back).1, tags ++ (wrapAll inner back).2) := by
  induction front generalizing service with
  | nil => rfl
  | cons middleware rest ih =>
    rw [List.cons_append, wrapAll, wrapAll]
    cases middleware.wrap service with
    | error fault => rfl
    | ok wrapped =>
      simp only [ih wrapped]
      cases wrapAll wrapped rest with
      | mk result tags => cases result <;> rfl

-- Applying middleware to a service from the last to the first nests it, or stops at one that fails.
theorem wrap_all_reverse (service : Service) (chain : List Middleware) :
    (∃ outer, Wraps service chain outer ∧ wrapAll service chain.reverse = (.ok outer, chain.reverse.map (·.tag))) ∨
    (∃ fault tried, Breaks service chain fault tried ∧ wrapAll service chain.reverse = (.error fault, tried.map (·.tag))) := by
  induction chain with
  | nil => exact Or.inl ⟨service, .bare, rfl⟩
  | cons middleware rest ih =>
    rw [List.reverse_cons, wrap_all_append]
    rcases ih with ⟨inner, behind, applied⟩ | ⟨fault, tried, ⟨before, failing, after, inner, rfl, broken⟩, applied⟩
    · rw [applied]
      cases made : middleware.wrap inner with
      | ok outer => exact Or.inl ⟨outer, .around middleware rest inner outer behind made, by simp [wrapAll, made]⟩
      | error fault =>
        exact Or.inr ⟨fault, rest.reverse ++ [middleware], ⟨[], middleware, rest, inner, rfl, behind, made, rfl⟩, by simp [wrapAll, made]⟩
    · rw [applied]
      exact Or.inr ⟨fault, tried, ⟨middleware :: before, failing, after, inner, rfl, broken⟩, rfl⟩

end Middleware

-- What an application goes through: a step of its use, or a change of what one of its middleware does when it is applied
-- the next time.
inductive Occurrence where
  | step (step : AppStep)
  | refit (place : Nat) (wrap : Service → Except Fault Service)

namespace Occurrence

def adds : Occurrence → Bool
  | .step (.addMiddleware _) => true
  | _ => false

def added? : Occurrence → Option String
  | .step (.addMiddleware middleware) => some middleware.tag
  | _ => none

-- A call, unless it is about the life of the application.
def asks : Occurrence → Bool
  | .step (.call scope _) => scope.kind ≠ "lifespan"
  | _ => false

def enlist (enlisted : List Middleware) : Occurrence → List Middleware
  | .step (.addMiddleware middleware) => enlisted ++ [middleware]
  | .refit place wrap => enlisted.modify place fun middleware => { middleware with wrap }
  | _ => enlisted

theorem asks_iff (occurrence : Occurrence) :
    occurrence.asks = true ↔ ∃ scope channel, occurrence = .step (.call scope channel) ∧ scope.kind ≠ "lifespan" := by
  cases occurrence with
  | refit place wrap => simp [asks]
  | step step => cases step <;> simp [asks]

theorem adds_of_asks (occurrence : Occurrence) (asks : occurrence.asks = true) : occurrence.adds = false := by
  obtain ⟨scope, channel, rfl, _⟩ := (asks_iff occurrence).mp asks
  rfl

theorem added_none (occurrence : Occurrence) (unadded : occurrence.adds = false) : occurrence.added? = none := by
  cases occurrence with
  | refit place wrap => rfl
  | step step => cases step <;> first | rfl | cases unadded

theorem enlist_tags (enlisted : List Middleware) (occurrence : Occurrence) :
    (occurrence.enlist enlisted).map (·.tag) = enlisted.map (·.tag) ++ occurrence.added?.toList := by
  cases occurrence with
  | refit place wrap =>
    refine List.ext_getElem? fun i => ?_
    simp only [enlist, added?, Option.toList_none, List.append_nil, List.getElem?_map, List.getElem?_modify]
    cases enlisted[i]? with
    | none => rfl
    | some middleware => by_cases here : place = i <;> simp [here]
  | step step => cases step <;> simp [enlist, added?]

end Occurrence

-- The middleware that was added, in order, as it is by now.
def enlisted (occurrences : List Occurrence) : List Middleware := occurrences.foldl Occurrence.enlist []

theorem enlisted_append (occurrences : List Occurrence) (last : Occurrence) :
    enlisted (occurrences ++ [last]) = last.enlist (enlisted occurrences) := by
  simp [enlisted]

theorem enlisted_tags (occurrences : List Occurrence) :
    (enlisted occurrences).map (·.tag) = occurrences.filterMap Occurrence.added? := by
  induction occurrences using List.reverseRecOn with
  | nil => rfl
  | append_singleton occurrences last ih =>
    rw [enlisted_append, Occurrence.enlist_tags, ih, List.filterMap_append, List.filterMap_cons, List.filterMap_nil]
    cases last.added? <;> rfl

-- After the first of these occurrences there was a call, and no addition since.
def Asked (occurrences earlier : List Occurrence) : Prop :=
  ∃ call later, occurrences = earlier ++ call :: later ∧ call.asks = true ∧ ∀ occurrence ∈ later, occurrence.adds = false

-- A service stands if it was made at the first call since the latest addition at which no middleware failed.
def Standing (occurrences : List Occurrence) (service : Service) : Prop :=
  ∃ earlier, Asked occurrences earlier ∧ Middleware.Wraps Dispatcher.handle (enlisted earlier) service ∧
    ∀ sooner, Asked occurrences sooner → sooner.length < earlier.length →
      ∀ other, ¬ Middleware.Wraps Dispatcher.handle (enlisted sooner) other

theorem asked_shorter (occurrences earlier : List Occurrence) (asked : Asked occurrences earlier) :
    earlier.length < occurrences.length := by
  obtain ⟨call, later, rfl, _⟩ := asked
  simp

-- Nothing was added since.
theorem asked_tags (occurrences earlier : List Occurrence) (asked : Asked occurrences earlier) :
    earlier.filterMap Occurrence.added? = occurrences.filterMap Occurrence.added? := by
  obtain ⟨call, later, rfl, asks, unadded⟩ := asked
  have none : (call :: later).filterMap Occurrence.added? = [] := by
    refine List.filterMap_eq_nil_iff.mpr fun occurrence member => occurrence.added_none ?_
    rcases List.mem_cons.mp member with rfl | inside
    · exact occurrence.adds_of_asks asks
    · exact unadded occurrence inside
  rw [List.filterMap_append, none, List.append_nil]

theorem asked_append_iff (occurrences earlier : List Occurrence) (last : Occurrence) :
    Asked (occurrences ++ [last]) earlier ↔
      (last.asks = true ∧ earlier = occurrences) ∨ (last.adds = false ∧ Asked occurrences earlier) := by
  constructor
  · rintro ⟨call, later, split, asks, unadded⟩
    rcases List.eq_nil_or_concat later with rfl | ⟨front, final, rfl⟩
    · obtain ⟨rfl, same⟩ := List.append_inj' split rfl
      obtain rfl : last = call := by simpa using same
      exact Or.inl ⟨asks, rfl⟩
    · rw [List.concat_eq_append, ← List.cons_append, ← List.append_assoc] at split
      obtain ⟨rfl, same⟩ := List.append_inj' split rfl
      obtain rfl : last = final := by simpa using same
      rw [List.concat_eq_append] at unadded
      exact Or.inr ⟨unadded last (by simp), call, front, rfl, asks, fun occurrence member => unadded occurrence (by simp [member])⟩
  · rintro (⟨asks, rfl⟩ | ⟨unadded, call, later, rfl, asks, others⟩)
    · exact ⟨last, [], rfl, asks, by simp⟩
    · refine ⟨call, later ++ [last], by simp, asks, fun occurrence member => ?_⟩
      rcases List.mem_append.mp member with inside | final
      · exact others occurrence inside
      · exact List.mem_singleton.mp final ▸ unadded

-- Where some call since the latest addition could be answered, there is a first one.
theorem standing_of_asked (occurrences earlier : List Occurrence) (service : Service) (asked : Asked occurrences earlier)
    (wraps : Middleware.Wraps Dispatcher.handle (enlisted earlier) service) : ∃ other, Standing occurrences other := by
  induction size : earlier.length using Nat.strongRecOn generalizing earlier service with
  | ind n ih =>
    by_cases before : ∃ sooner other, Asked occurrences sooner ∧ sooner.length < earlier.length ∧
        Middleware.Wraps Dispatcher.handle (enlisted sooner) other
    · obtain ⟨sooner, other, soonerAsked, shorter, otherWraps⟩ := before
      exact ih sooner.length (size ▸ shorter) sooner other soonerAsked otherWraps rfl
    · refine ⟨service, earlier, asked, wraps, fun sooner soonerAsked shorter other otherWraps => ?_⟩
      exact before ⟨sooner, other, soonerAsked, shorter, otherWraps⟩

theorem standing_added (occurrences : List Occurrence) (last : Occurrence) (service : Service) (adds : last.adds = true) :
    ¬ Standing (occurrences ++ [last]) service := by
  rintro ⟨earlier, asked, _⟩
  rcases (asked_append_iff occurrences earlier last).mp asked with ⟨asks, _⟩ | ⟨unadded, _⟩
  · rw [last.adds_of_asks asks] at adds
    cases adds
  · rw [unadded] at adds
    cases adds

theorem standing_passed_iff (occurrences : List Occurrence) (last : Occurrence) (service : Service) (unadded : last.adds = false)
    (unasked : last.asks = false) : Standing (occurrences ++ [last]) service ↔ Standing occurrences service := by
  simp only [Standing, asked_append_iff, unadded, unasked, Bool.false_eq_true, false_and, false_or, true_and]

theorem standing_asked_iff (occurrences : List Occurrence) (last : Occurrence) (service : Service) (asks : last.asks = true) :
    Standing (occurrences ++ [last]) service ↔ Standing occurrences service ∨
      (∀ other, ¬ Standing occurrences other) ∧ Middleware.Wraps Dispatcher.handle (enlisted occurrences) service := by
  have reached : ∀ earlier, Asked (occurrences ++ [last]) earlier ↔ earlier = occurrences ∨ Asked occurrences earlier := by
    intro earlier
    simp only [asked_append_iff, asks, last.adds_of_asks asks, true_and]
  constructor
  · rintro ⟨earlier, asked, wraps, first⟩
    rcases (reached earlier).mp asked with rfl | before
    · refine Or.inr ⟨?_, wraps⟩
      rintro other ⟨sooner, soonerAsked, soonerWraps, _⟩
      exact first sooner ((reached sooner).mpr (Or.inr soonerAsked)) (asked_shorter _ sooner soonerAsked) other soonerWraps
    · exact Or.inl ⟨earlier, before, wraps, fun sooner soonerAsked => first sooner ((reached sooner).mpr (Or.inr soonerAsked))⟩
  · rintro (⟨earlier, asked, wraps, first⟩ | ⟨none, wraps⟩)
    · refine ⟨earlier, (reached earlier).mpr (Or.inr asked), wraps, fun sooner soonerAsked shorter => ?_⟩
      rcases (reached sooner).mp soonerAsked with rfl | before
      · exact absurd (asked_shorter sooner earlier asked) (Nat.lt_asymm shorter)
      · exact first sooner before shorter
    · refine ⟨occurrences, (reached occurrences).mpr (Or.inl rfl), wraps, fun sooner soonerAsked shorter other otherWraps => ?_⟩
      rcases (reached sooner).mp soonerAsked with rfl | before
      · exact Nat.lt_irrefl _ shorter
      · obtain ⟨standing, stands⟩ := standing_of_asked occurrences sooner other before otherWraps
        exact none standing stands

namespace App

-- An application keeps the service that stands, and keeps none where none stands.
structure Follows (app : App) (past : List Occurrence) : Prop where
  middleware : app.middleware = enlisted past
  chain : ∀ service, app.chain = some service ↔ Standing past service

-- What comes of a call that is not about the life of an application with this past: the service that stands answers it,
-- or one is made, or a middleware fails and nothing is kept.
inductive Passage (app : App) (past : List Occurrence) (scope : Scope) (channel : Channel) : App × Delivery → Prop
  | kept (service : Service) (stands : Standing past service) :
      Passage app past scope channel
        ({ app with dispatcher := (service app.dispatcher scope channel).1 }, (service app.dispatcher scope channel).2)
  | made (service : Service) (unmade : ∀ other, ¬ Standing past other)
      (wraps : Middleware.Wraps Dispatcher.handle (enlisted past) service) :
      Passage app past scope channel
        ({ app with
            dispatcher := (service app.dispatcher scope channel).1
            chain := some service
            builds := app.builds ++ (enlisted past).reverse.map (·.tag) },
          (service app.dispatcher scope channel).2)
  | broken (fault : Fault) (tried : List Middleware) (unmade : ∀ other, ¬ Standing past other)
      (breaks : Middleware.Breaks Dispatcher.handle (enlisted past) fault tried) :
      Passage app past scope channel ({ app with builds := app.builds ++ tried.map (·.tag) }, .error (.raised fault))

theorem call_life (app : App) (scope : Scope) (channel : Channel) (life : scope.kind = "lifespan") :
    app.call scope channel = (app, .error (.raised noMoreMessages)) := by
  rw [call, if_pos life]

theorem call_kept (app : App) (service : Service) (scope : Scope) (channel : Channel) (kept : app.chain = some service)
    (serving : scope.kind ≠ "lifespan") :
    app.call scope channel =
      ({ app with dispatcher := (service app.dispatcher scope channel).1 }, (service app.dispatcher scope channel).2) := by
  obtain ⟨dispatcher, middleware, chain, builds⟩ := app
  obtain rfl : chain = some service := kept
  rw [call, if_neg serving, App.service]

theorem call_passage (app : App) (past : List Occurrence) (scope : Scope) (channel : Channel) (follows : app.Follows past)
    (serving : scope.kind ≠ "lifespan") : Passage app past scope channel (app.call scope channel) := by
  cases kept : app.chain with
  | some service =>
    rw [app.call_kept service scope channel kept serving]
    exact .kept service ((follows.chain service).mp kept)
  | none =>
    have unmade : ∀ other, ¬ Standing past other := by
      intro other stands
      cases kept.symm.trans ((follows.chain other).mpr stands)
    obtain ⟨dispatcher, middleware, chain, builds⟩ := app
    obtain rfl : middleware = enlisted past := follows.middleware
    obtain rfl : chain = none := kept
    rw [call, if_neg serving, service]
    rcases Middleware.wrap_all_reverse Dispatcher.handle (enlisted past) with ⟨service, wraps, applied⟩ | ⟨fault, tried, breaks, applied⟩
    · rw [applied]
      exact .made service unmade wraps
    · rw [applied]
      exact .broken fault tried unmade breaks

-- After a call the application keeps what stands by then.
theorem passage_follows (app : App) (past : List Occurrence) (scope : Scope) (channel : Channel) (outcome : App × Delivery)
    (follows : app.Follows past) (serving : scope.kind ≠ "lifespan") (passage : Passage app past scope channel outcome) :
    outcome.1.Follows (past ++ [.step (.call scope channel)]) := by
  have asks : (Occurrence.step (.call scope channel)).asks = true := decide_eq_true serving
  have middleware : enlisted (past ++ [.step (.call scope channel)]) = enlisted past := enlisted_append past _
  cases passage with
  | kept service stands =>
    refine ⟨middleware ▸ follows.middleware, fun other => ?_⟩
    rw [standing_asked_iff past _ other asks]
    constructor
    · exact fun kept => Or.inl ((follows.chain other).mp kept)
    · rintro (standing | ⟨unmade, _⟩)
      · exact (follows.chain other).mpr standing
      · exact absurd stands (unmade service)
  | made service unmade wraps =>
    refine ⟨middleware ▸ follows.middleware, fun other => ?_⟩
    rw [standing_asked_iff past _ other asks]
    constructor
    · rintro ⟨⟩
      exact Or.inr ⟨unmade, wraps⟩
    · rintro (standing | ⟨_, otherWraps⟩)
      · exact absurd standing (unmade other)
      · rw [Middleware.wraps_unique Dispatcher.handle (enlisted past) service other wraps otherWraps]
  | broken fault tried unmade breaks =>
    refine ⟨middleware ▸ follows.middleware, fun other => ?_⟩
    rw [standing_asked_iff past _ other asks]
    constructor
    · exact fun kept => Or.inl ((follows.chain other).mp kept)
    · rintro (standing | ⟨_, wraps⟩)
      · exact absurd standing (unmade other)
      · exact absurd wraps (Middleware.breaks_unwrapped Dispatcher.handle (enlisted past) fault tried other breaks)

-- What neither adds middleware nor asks for a service leaves the service alone.
theorem passed_follows (app after : App) (past : List Occurrence) (last : Occurrence) (follows : app.Follows past)
    (unadded : last.adds = false) (unasked : last.asks = false) (middleware : after.middleware = last.enlist app.middleware)
    (chain : after.chain = app.chain) : after.Follows (past ++ [last]) := by
  constructor
  · rw [enlisted_append, middleware, follows.middleware]
  · intro service
    rw [standing_passed_iff past last service unadded unasked, chain]
    exact follows.chain service

end App

namespace AppState

def meet (state : AppState) : Occurrence → AppState
  | .step step => (state.step step).2
  | .refit place wrap =>
    { state with
      app := { state.app with middleware := state.app.middleware.modify place fun middleware => { middleware with wrap } } }

-- The state that a number of occurrences lead to.
def through (state : AppState) (occurrences : List Occurrence) : AppState := occurrences.foldl meet state

theorem through_append (state : AppState) (past : List Occurrence) (last : Occurrence) :
    state.through (past ++ [last]) = (state.through past).meet last := by
  simp [through]

-- What does not ask for a service applies no middleware; and only an addition takes the service away.
theorem meet_unasked (state : AppState) (occurrence : Occurrence) (unasked : occurrence.asks = false) :
    (state.meet occurrence).app.middleware = occurrence.enlist state.app.middleware ∧
      (state.meet occurrence).app.chain = (if occurrence.adds then none else state.app.chain) ∧
      (state.meet occurrence).app.builds = state.app.builds := by
  cases occurrence with
  | refit place wrap => exact ⟨rfl, rfl, rfl⟩
  | step step =>
    cases step with
    | setup step =>
      obtain ⟨registry, same⟩ := state.setup_app step
      have after : (state.meet (.step (.setup step))).app = state.app.withRegistry registry := same
      rw [after]
      exact ⟨rfl, rfl, rfl⟩
    | amendParser id change => exact ⟨rfl, rfl, rfl⟩
    | addMiddleware middleware => exact ⟨rfl, rfl, rfl⟩
    | call scope channel =>
      have life : scope.kind = "lifespan" := by simpa [Occurrence.asks] using unasked
      have after : (state.meet (.step (.call scope channel))).app = state.app :=
        congrArg Prod.fst (state.app.call_life scope channel life)
      rw [after]
      exact ⟨rfl, rfl, rfl⟩

theorem meet_follows (state : AppState) (past : List Occurrence) (last : Occurrence) (follows : state.app.Follows past) :
    (state.meet last).app.Follows (past ++ [last]) := by
  cases asks : last.asks with
  | true =>
    obtain ⟨scope, channel, rfl, serving⟩ := last.asks_iff.mp asks
    have passage := state.app.call_passage past scope channel follows serving
    exact state.app.passage_follows past scope channel _ follows serving passage
  | false =>
    obtain ⟨middleware, chain, _⟩ := state.meet_unasked last asks
    cases adds : last.adds with
    | false =>
      rw [adds] at chain
      exact state.app.passed_follows _ past last follows adds asks middleware chain
    | true =>
      rw [adds] at chain
      constructor
      · rw [enlisted_append, middleware, follows.middleware]
      · intro service
        rw [chain]
        exact iff_of_false (fun kept => nomatch kept) (standing_added past last service adds)

theorem through_follows (strict debug : Bool) (started : List (String × Nat)) (past : List Occurrence) :
    ((AppState.new strict debug started).through past).app.Follows past := by
  induction past using List.reverseRecOn with
  | nil =>
    constructor
    · rfl
    · intro service
      refine iff_of_false (fun kept => nomatch kept) ?_
      rintro ⟨earlier, ⟨call, later, split, _⟩, _⟩
      simp at split
  | append_singleton past last ih =>
    rw [through_append]
    exact meet_follows _ past last ih

-- Until the next addition the service stands, and no middleware is applied.
theorem standing_lasts (strict debug : Bool) (started : List (String × Nat)) (past later : List Occurrence) (service : Service)
    (stands : Standing past service) (unadded : ∀ occurrence ∈ later, occurrence.adds = false) :
    Standing (past ++ later) service ∧
      ((AppState.new strict debug started).through (past ++ later)).app.builds =
        ((AppState.new strict debug started).through past).app.builds := by
  induction later using List.reverseRecOn with
  | nil =>
    rw [List.append_nil]
    exact ⟨stands, rfl⟩
  | append_singleton later last ih =>
    obtain ⟨before, builds⟩ := ih fun occurrence member => unadded occurrence (List.mem_append_left _ member)
    rw [← List.append_assoc, through_append, ← builds]
    cases asks : last.asks with
    | false =>
      have lastUnadded := unadded last (by simp)
      exact ⟨(standing_passed_iff _ last service lastUnadded asks).mpr before, (meet_unasked _ last asks).2.2⟩
    | true =>
      obtain ⟨scope, channel, rfl, serving⟩ := last.asks_iff.mp asks
      have kept := ((through_follows strict debug started (past ++ later)).chain service).mpr before
      refine ⟨(standing_asked_iff _ _ service asks).mpr (Or.inl before), ?_⟩
      exact congrArg (fun outcome => outcome.1.builds) (App.call_kept _ service scope channel kept serving)

theorem setup_all_app (state : AppState) (steps : List SetupStep) :
    ∃ registry, (state.setupAll steps).app = state.app.withRegistry registry := by
  induction steps generalizing state with
  | nil => exact ⟨state.registry, rfl⟩
  | cons step rest ih =>
    obtain ⟨first, same⟩ := state.setup_app step
    obtain ⟨last, others⟩ := ih (state.setup step).2
    exact ⟨last, others.trans (by rw [same]; rfl)⟩

-- Every call that is not about the life of an application is answered by the dispatcher in all middleware that was added
-- before, in order. It is applied at such calls only, and only where no service was made since the latest addition; what
-- is made stands until the next one, and dispatches to whatever is registered by the time of a call.
theorem middleware_in_force (strict debug : Bool) (started : List (String × Nat)) (past : List Occurrence) :
    let state := (AppState.new strict debug started).through past
    state.app.middleware = enlisted past ∧
    (enlisted past).map (·.tag) = past.filterMap Occurrence.added? ∧
    (∀ occurrence, occurrence.asks = false → (state.meet occurrence).app.builds = state.app.builds) ∧
    (∀ scope channel, scope.kind = "lifespan" → state.app.call scope channel = (state.app, .error (.raised noMoreMessages))) ∧
    (∀ scope channel, scope.kind ≠ "lifespan" → state.app.Passage past scope channel (state.app.call scope channel)) ∧
    ∀ service, Standing past service →
      (∃ earlier, Middleware.Wraps Dispatcher.handle (enlisted earlier) service ∧
        (enlisted earlier).map (·.tag) = past.filterMap Occurrence.added?) ∧
      (∀ later, (∀ occurrence ∈ later, occurrence.adds = false) →
        Standing (past ++ later) service ∧
          ((AppState.new strict debug started).through (past ++ later)).app.builds = state.app.builds) ∧
      ∀ setups scope channel, scope.kind ≠ "lifespan" →
        let later := (state.setupAll setups).app
        later.call scope channel =
          ({ later with dispatcher := (service later.dispatcher scope channel).1 }, (service later.dispatcher scope channel).2) := by
  intro state
  have follows : state.app.Follows past := through_follows strict debug started past
  refine ⟨follows.middleware, enlisted_tags past, ?_, state.app.call_life, ?_, ?_⟩
  · exact fun occurrence unasked => (state.meet_unasked occurrence unasked).2.2
  · exact fun scope channel => state.app.call_passage past scope channel follows
  · intro service stands
    refine ⟨?_, fun later => standing_lasts strict debug started past later service stands, ?_⟩
    · obtain ⟨earlier, asked, wraps, _⟩ := stands
      exact ⟨earlier, wraps, (enlisted_tags earlier).trans (asked_tags past earlier asked)⟩
    · intro setups scope channel serving later
      obtain ⟨registry, same⟩ := state.setup_all_app setups
      have kept : later.chain = some service := (congrArg App.chain same).trans ((follows.chain service).mpr stands)
      exact later.call_kept service scope channel kept serving

-- The inner middleware fails at the first call and is mended then.
def mendedPast : List Occurrence :=
  [.step (.addMiddleware (Middleware.header "a")),
   .step (.addMiddleware { tag := "b", wrap := fun _ => .error (.of "RuntimeError" "not ready") }),
   .step (.call { method := some "GET", path := some "/" } {}),
   .refit 1 (Middleware.header "b").wrap,
   .step (.call { method := some "GET", path := some "/" } {})]

theorem mended_middleware_in_force :
    ∃ service, Standing mendedPast service ∧ ((new false false []).through mendedPast).app.builds = ["b", "b", "a"] ∧
      let later := (((new false false []).through mendedPast).setupAll [.add "/page" (.fresh { name := "Page" }) []]).app
      later.registry.router.table.length = 1 ∧
        (later.call { method := some "GET", path := some "/page" } {}).2 =
          (service later.dispatcher { method := some "GET", path := some "/page" } {}).2 := by
  obtain ⟨_, _, _, _, _, served⟩ := middleware_in_force false false [] mendedPast
  have stands := ((through_follows false false [] mendedPast).chain _).mp rfl
  have serving : ({ method := some "GET", path := some "/page" } : Scope).kind ≠ "lifespan" := by decide
  refine ⟨_, stands, rfl, rfl, ?_⟩
  rw [(served _ stands).2.2 _ _ _ serving]

end AppState
end RestDispatch
