import RestDispatch.Proofs.Http.Receiving

set_option autoImplicit false

/-!
Bodies that are cut into messages in different ways. Main statement: as long as the messages hold the same bytes, every
request gets the same answer and leaves the same behind, and its handler reads the same.
-/
namespace RestDispatch

namespace Request

section
variable (request : Request) (channel : Channel) (bytes : Bytes) (complete : request.body.1 = .ok bytes)
  (other : ({ request with channel } : Request).body.1 = .ok bytes)
include complete other

theorem json_rechanneled : ({ request with channel } : Request).json.1 = request.json.1 := by
  cases here : request.body with
  | mk result next =>
    cases there : ({ request with channel } : Request).body with
    | mk result last =>
      rw [here] at complete
      rw [there] at other
      obtain rfl : _ = Except.ok bytes := complete
      obtain rfl : _ = Except.ok bytes := other
      rw [json_body _ _ bytes here, json_body _ _ bytes there]

theorem view_rechanneled : ({ request with channel } : Request).view = request.view := by
  have json := request.json_rechanneled channel bytes complete other
  have others : ({ request with channel } : Request).view =
      { request.view with body := ({ request with channel } : Request).body.1, json := ({ request with channel } : Request).json.1 } := rfl
  rw [others, json, other, ← complete]
  rfl

theorem data_rechanneled : ({ request with channel } : Request).data.1 = request.data.1 := by
  rw [(data_read _ bytes other).1, (data_read _ bytes complete).1]
  rfl

theorem collect_rechanneled (signature : Signature) (parser : Option Parser) :
    (signature.collect signature.models parser { request with channel }).1 = (signature.collect signature.models parser request).1 := by
  rw [signature.collect_eq, signature.collect_eq, Signature.sought, Signature.sought, request.data_rechanneled channel bytes complete other]
  rfl

end

end Request

namespace Registry

theorem perform_rechanneled (registry : Registry) (resource : Resource) (handler : Handler) (parser : Option Parser) (request : Request)
    (channel : Channel) (bytes : Bytes) (complete : request.body.1 = .ok bytes)
    (other : ({ request with channel } : Request).body.1 = .ok bytes) :
    registry.perform resource handler parser { request with channel } = registry.perform resource handler parser request := by
  have same := request.collect_rechanneled channel bytes complete other handler.signature parser
  cases collected : (handler.signature.collect handler.signature.models parser request).1 with
  | error refusal =>
    rw [registry.perform_refused _ _ _ _ refusal collected, registry.perform_refused _ _ _ _ refusal (same.trans collected)]
  | ok arguments =>
    rw [registry.perform_complete _ _ _ _ bytes complete arguments collected,
      registry.perform_complete _ _ _ _ bytes other arguments (same.trans collected), outcome, outcome,
      request.view_rechanneled channel bytes complete other]

theorem serve_rechanneled (registry : Registry) (captures : Captures) (resource : Resource) (scope : Scope) (a b : Channel) (bytes : Bytes)
    (wholeA : a.Whole bytes) (wholeB : b.Whole bytes) :
    registry.serve captures resource scope a = registry.serve captures resource scope b := by
  rw [serve, serve]
  cases registry.endpoint? resource with
  | none => rfl
  | some endpoint =>
    rw [Request.ofScope, Request.ofScope]
    cases scope.method with
    | none => rfl
    | some method =>
      cases scope.path with
      | none => rfl
      | some path =>
        cases named : Verb.named? (Text.upper method) with
        | none => simp only [named]
        | some verb =>
          cases handled : endpoint.methods.lookup verb with
          | none => simp only [named, handled]
          | some handler =>
            simp only [named, handled]
            exact registry.perform_rechanneled resource handler _ ⟨_, _, _, _, _, b, none⟩ a bytes (Request.body_whole _ bytes rfl wholeB)
              (Request.body_whole _ bytes rfl wholeA)

theorem answer_rechanneled (registry : Registry) (scope : Scope) (a b : Channel) (bytes : Bytes) (wholeA : a.Whole bytes)
    (wholeB : b.Whole bytes) : registry.answer scope a = registry.answer scope b := by
  rw [answer, answer]
  cases scope.path with
  | none => rfl
  | some path =>
    cases found : registry.find? path with
    | none => simp only [found]
    | some hit =>
      simp only [found]
      exact registry.serve_rechanneled hit.1 hit.2 scope a b bytes wholeA wholeB

end Registry

-- A service to which it makes no difference how a body is cut.
def Uncut (service : Service) : Prop :=
  ∀ bytes a b, Channel.Whole a bytes → Channel.Whole b bytes → ∀ dispatcher scope, service dispatcher scope a = service dispatcher scope b

theorem Dispatcher.handle_uncut : Uncut handle := by
  intro bytes a b wholeA wholeB dispatcher scope
  rw [handle, handle, dispatcher.registry.answer_rechanneled scope a b bytes wholeA wholeB]

namespace Middleware

-- Middleware that does not look at bodies itself.
def Uncut (middleware : Middleware) : Prop :=
  ∀ service wrapped, middleware.wrap service = .ok wrapped → RestDispatch.Uncut service → RestDispatch.Uncut wrapped

theorem header_uncut (tag : String) : (header tag).Uncut := by
  intro service wrapped made uncut bytes a b wholeA wholeB dispatcher scope
  obtain rfl := Except.ok.inj made
  simp only [uncut bytes a b wholeA wholeB dispatcher scope]

theorem strip_uncut (tag start : String) : (strip tag start).Uncut := by
  intro service wrapped made uncut bytes a b wholeA wholeB dispatcher scope
  obtain rfl := Except.ok.inj made
  cases routed : scope.path with
  | none => simp only [routed]
  | some path => simp only [routed, uncut bytes a b wholeA wholeB dispatcher]

theorem stop_uncut (tag : String) : (stop tag).Uncut := by
  intro service wrapped made uncut bytes a b wholeA wholeB dispatcher scope
  obtain rfl := Except.ok.inj made
  rfl

theorem wrap_all_uncut (chain : List Middleware) (service wrapped : Service) (each : ∀ middleware ∈ chain, middleware.Uncut)
    (uncut : RestDispatch.Uncut service) (made : (wrapAll service chain).1 = .ok wrapped) : RestDispatch.Uncut wrapped := by
  induction chain generalizing service with
  | nil =>
    obtain rfl := Except.ok.inj made
    exact uncut
  | cons middleware rest ih =>
    obtain ⟨here, others⟩ := List.forall_mem_cons.mp each
    rw [wrapAll] at made
    cases first : middleware.wrap service with
    | error fault => simp [first] at made
    | ok inner =>
      rw [first] at made
      exact ih inner others (here service inner first uncut) made

end Middleware

namespace App

structure Uncut (app : App) : Prop where
  middleware : ∀ middleware ∈ app.middleware, middleware.Uncut
  chain : ∀ service, app.chain = some service → RestDispatch.Uncut service

theorem service_uncut (app : App) (uncut : app.Uncut) (service : Service) (made : app.service.1 = .ok service) :
    RestDispatch.Uncut service := by
  rw [App.service] at made
  cases chain : app.chain with
  | some kept =>
    rw [chain] at made
    obtain rfl := Except.ok.inj made
    exact uncut.chain _ chain
  | none =>
    rw [chain] at made
    have reversed : ∀ middleware ∈ app.middleware.reverse, middleware.Uncut := fun middleware member =>
      uncut.middleware middleware (List.mem_reverse.mp member)
    refine Middleware.wrap_all_uncut _ Dispatcher.handle service reversed Dispatcher.handle_uncut ?_
    cases wrapped : Middleware.wrapAll Dispatcher.handle app.middleware.reverse with
    | mk result tags =>
      rw [wrapped] at made
      cases result with
      | error fault => cases made
      | ok found => exact congrArg Except.ok (Except.ok.inj made)

theorem call_rechanneled (app : App) (uncut : app.Uncut) (scope : Scope) (a b : Channel) (bytes : Bytes) (wholeA : a.Whole bytes)
    (wholeB : b.Whole bytes) : app.call scope a = app.call scope b := by
  rw [App.call, App.call]
  split
  · rfl
  · cases made : app.service with
    | mk result next =>
      cases result with
      | error fault => rfl
      | ok service =>
        have same := app.service_uncut uncut service (by rw [made]) bytes a b wholeA wholeB next.dispatcher scope
        simp only [same]

theorem call_uncut (app : App) (uncut : app.Uncut) (scope : Scope) (channel : Channel) : (app.call scope channel).1.Uncut := by
  obtain ⟨_, middleware, chain⟩ := service_app app
  have after : app.service.2.Uncut :=
    ⟨fun other member => uncut.middleware other (middleware ▸ member),
      fun service found => app.service_uncut uncut service (chain service found)⟩
  rw [App.call]
  split
  · exact uncut
  · cases made : app.service with
    | mk result next =>
      rw [made] at after
      cases result with
      | error fault => exact after
      | ok service => exact ⟨after.middleware, after.chain⟩

end App

-- Middleware that is added does not look at bodies.
def AppStep.Uncut : AppStep → Prop
  | .addMiddleware middleware => middleware.Uncut
  | _ => True

namespace AppState

theorem step_uncut (state : AppState) (step : AppStep) (added : step.Uncut) (uncut : state.app.Uncut) : (state.step step).2.app.Uncut := by
  cases step with
  | setup step =>
    obtain ⟨registry, same⟩ := state.setup_app step
    rw [AppState.step, same]
    exact ⟨uncut.middleware, uncut.chain⟩
  | amendParser id change => exact ⟨uncut.middleware, uncut.chain⟩
  | addMiddleware middleware =>
    refine ⟨fun other member => ?_, fun service found => (Option.some_ne_none _ found.symm).elim⟩
    rcases List.mem_append.mp member with old | last
    · exact uncut.middleware other old
    · exact List.mem_singleton.mp last ▸ added
  | call scope channel => exact state.app.call_uncut uncut scope channel

theorem run_uncut (state : AppState) (steps : List AppStep) (added : ∀ step ∈ steps, step.Uncut) (uncut : state.app.Uncut) :
    (state.run steps).2.app.Uncut :=
  run_keeps (fun state => state.app.Uncut) steps (fun state step member here => step_uncut state step (added step member) here) state uncut

theorem body_cut_anyhow (strict debug : Bool) (started : List (String × Nat)) (steps : List AppStep) (added : ∀ step ∈ steps, step.Uncut)
    (scope : Scope) (a b : Channel) (bytes : Bytes) (wholeA : a.Whole bytes) (wholeB : b.Whole bytes) :
    let state := ((new strict debug started).run steps).2
    (∀ dispatcher : Dispatcher, dispatcher.handle scope a = dispatcher.handle scope b) ∧
      state.app.call scope a = state.app.call scope b ∧
      ∃ before last after, a.Cut before last after bytes ∧
        ∀ request : Request, request.kept = none → request.channel = a → ∀ signature parser reads,
          request.ReadsOnce before after bytes signature parser reads := by
  intro state
  have bare : (new strict debug started).app.Uncut :=
    ⟨fun _ never => (List.not_mem_nil never).elim, fun _ found => (Option.some_ne_none _ found.symm).elim⟩
  have uncut : state.app.Uncut := run_uncut _ steps added bare
  obtain ⟨before, last, after, cut⟩ := (a.whole_iff_cut bytes).mp wholeA
  refine ⟨fun dispatcher => Dispatcher.handle_uncut bytes a b wholeA wholeB dispatcher scope,
    state.app.call_rechanneled uncut scope a b bytes wholeA wholeB, before, last, after, cut, fun request unread same => ?_⟩
  exact request.reads_once before last after bytes unread (same ▸ cut)

-- An object without fields, in four messages of which two are empty, and in one with another behind it.
def bracesBody : Bytes := [123, 125]

def cutBraces : Channel := { pending := [{ more := true }, { body := [123], more := true }, { body := [125], more := true }, {}] }

def wholeBraces : Channel := { pending := [{ body := bracesBody }, { body := [1] }], receives := 3 }

theorem cut_braces_read :
    let state := ((new false false []).run (notePageSteps ++ [.addMiddleware (.header "page")])).2
    state.app.call bracketsScope cutBraces = state.app.call bracketsScope wholeBraces ∧
      ∀ request : Request, request.kept = none → request.channel = cutBraces →
        ((noteSignature.collect noteSignature.models none request).2.readAll [.body, .json, .body]).1 =
          [.bytes (.ok bracesBody), .value (.ok (.object [])), .bytes (.ok bracesBody)] := by
  intro state
  have added : ∀ step ∈ notePageSteps ++ [.addMiddleware (.header "page")], step.Uncut := by
    simp [notePageSteps, AppStep.Uncut, Middleware.header_uncut]
  have wholeA : cutBraces.Whole bracesBody :=
    ⟨[{ more := true }, { body := [123], more := true }, { body := [125], more := true }], {}, [], rfl, by simp, rfl, rfl⟩
  have wholeB : wholeBraces.Whole bracesBody := ⟨[], { body := bracesBody }, [{ body := [1] }], rfl, by simp, rfl, rfl⟩
  obtain ⟨_, same, before, last, after, _, once⟩ := body_cut_anyhow false false [] _ added bracketsScope cutBraces wholeBraces bracesBody
    wholeA wholeB
  exact ⟨same, fun request unread channel => (once request unread channel noteSignature none [.body, .json, .body]).readings⟩

end AppState
end RestDispatch
