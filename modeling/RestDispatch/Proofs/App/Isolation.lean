import RestDispatch.Proofs.App.Origins
import RestDispatch.Proofs.App.Finding

set_option autoImplicit false

/-!
What requests do to the objects behind the routes. A handler is shown what its own object keeps and changes nothing else.
Main statement: in every application the requests to one object are answered as if there were no others, a request that is
refused changes nothing, and only routes to one thing that was made share what it keeps.
-/
namespace RestDispatch

structure Call where
  scope : Scope
  channel : Channel

def Call.step (call : Call) : AppStep := .call call.scope call.channel

namespace Registry

def withKept (registry : Registry) (kept : List (Identity × List Content)) : Registry :=
  registry.withObjects { registry.router.objects with kept }

-- The routes, endpoints and parsers of a registry, and how many objects it has made. What they keep is left out.
def unkept (registry : Registry) : Registry := registry.withKept []

-- The object that a call is for. It stands behind the first route that matches the path.
def addressee? (registry : Registry) (call : Call) : Option Identity :=
  if call.scope.kind = "http" then (call.scope.path.bind registry.find?).map fun hit => hit.2.identity else none

theorem items_keep (registry : Registry) (identity other : Identity) (items : List Content) :
    (registry.keep identity items).items other = if other = identity then items else registry.items other := by
  simp only [Registry.items, keep, Objects.items, Objects.keep, lookup_put]
  split <;> rfl

theorem with_kept_of_unkept (a b : Registry) (same : a.unkept = b.unkept) : b = a.withKept b.router.objects.kept := by
  obtain ⟨strictA, ⟨tableA, ⟨startedA, keptA⟩⟩, parsersA, endpointsA⟩ := a
  obtain ⟨strictB, ⟨tableB, ⟨startedB, keptB⟩⟩, parsersB, endpointsB⟩ := b
  simp only [unkept, withKept, withObjects, Registry.mk.injEq, Router.mk.injEq, Objects.mk.injEq, and_true] at same
  obtain ⟨rfl, ⟨rfl, rfl⟩, rfl, rfl⟩ := same
  rfl

theorem addressee_unkept (a b : Registry) (same : a.unkept = b.unkept) (call : Call) : a.addressee? call = b.addressee? call := by
  rw [with_kept_of_unkept a b same]
  rfl

theorem addressee_eq_some_iff (registry : Registry) (call : Call) (identity : Identity) :
    registry.addressee? call = some identity ↔ call.scope.kind = "http" ∧
      ∃ path captures resource, call.scope.path = some path ∧ registry.find? path = some (captures, resource) ∧
        resource.identity = identity := by
  simp only [addressee?, Option.ite_none_right_eq_some, Option.map_eq_some_iff, Option.bind_eq_some_iff, Prod.exists]
  constructor
  · rintro ⟨http, captures, resource, ⟨path, routed, found⟩, same⟩
    exact ⟨http, path, captures, resource, routed, found, same⟩
  · rintro ⟨http, path, captures, resource, routed, found, same⟩
    exact ⟨http, captures, resource, ⟨path, routed, found⟩, same⟩

-- What comes of a call. No handler is called and nothing is changed, or one is called for the object that the call is for:
-- it is shown what the object keeps, and the object keeps what it leaves.
inductive Settled (registry : Registry) (call : Call) : Except Silence Answer → Registry → Prop where
  | uncalled (answer : Except Silence Answer) : Settled registry call answer registry
  | called (resource : Resource) (handler : Handler) (parser : Option Parser) (request later : Request)
      (arguments : List (String × Content)) (view : Option RequestView) (situation : Situation)
      (addressed : registry.addressee? call = some resource.identity)
      (reached : registry.Reaches call.scope call.channel resource handler parser request)
      (collected : handler.signature.collect handler.signature.models parser request = (.ok arguments, later))
      (found : situation = registry.situation resource view) (shown : situation.items = registry.items resource.identity) :
      Settled registry call (Answer.ofResult (handler.call arguments situation).result)
        (registry.keep resource.identity (handler.call arguments situation).items)

theorem serve_settled (registry : Registry) (call : Call) (http : call.scope.kind = "http") (path : String) (captures : Captures)
    (resource : Resource) (routed : call.scope.path = some path) (found : registry.find? path = some (captures, resource)) :
    registry.Settled call (registry.serve captures resource call.scope call.channel).1
      (registry.serve captures resource call.scope call.channel).2 := by
  have addressed := (registry.addressee_eq_some_iff call resource.identity).mpr ⟨http, path, captures, resource, routed, found, rfl⟩
  cases present : registry.endpoint? resource with
  | none =>
    simp only [serve, present]
    exact .uncalled _
  | some endpoint =>
    simp only [serve, present]
    generalize made : Request.ofScope call.scope call.channel _ = built
    cases built with
    | error fault => exact .uncalled _
    | ok request =>
      cases named : Verb.named? request.method with
      | none =>
        simp only [named]
        exact .uncalled _
      | some verb =>
        cases handled : endpoint.methods.lookup verb with
        | none =>
          simp only [named, handled]
          exact .uncalled _
        | some handler =>
          simp only [named, handled]
          cases collected : handler.signature.collect handler.signature.models (registry.parserFor endpoint verb) request with
          | mk result later =>
            cases result with
            | error refusal =>
              rw [registry.perform_refused _ _ _ _ refusal (by rw [collected])]
              exact .uncalled _
            | ok arguments =>
              rw [registry.perform_called _ _ _ _ _ _ collected]
              refine .called resource handler _ request later arguments _ _ addressed ?_ collected rfl ?_
              · exact ⟨path, captures, endpoint, verb, routed, found, present, made, named, handled, rfl⟩
              · cases resource <;> rfl

theorem answer_settled (registry : Registry) (call : Call) (http : call.scope.kind = "http") :
    registry.Settled call (registry.answer call.scope call.channel).1 (registry.answer call.scope call.channel).2 := by
  cases routed : call.scope.path with
  | none =>
    simp only [answer, routed]
    exact .uncalled _
  | some path =>
    cases found : registry.find? path with
    | none =>
      simp only [answer, routed, found]
      exact .uncalled _
    | some hit =>
      simp only [answer, routed, found]
      exact registry.serve_settled call http path hit.1 hit.2 routed found

-- A handler sees of the objects but its own one.
theorem perform_with_kept (registry : Registry) (kept : List (Identity × List Content)) (resource : Resource) (handler : Handler)
    (parser : Option Parser) (request : Request)
    (same : (registry.withKept kept).items resource.identity = registry.items resource.identity) :
    ((registry.withKept kept).perform resource handler parser request).1 = (registry.perform resource handler parser request).1 ∧
      ((registry.withKept kept).perform resource handler parser request).2.items resource.identity =
        (registry.perform resource handler parser request).2.items resource.identity := by
  have shown : ∀ view, (registry.withKept kept).situation resource view = registry.situation resource view := by
    intro view
    cases resource <;> simp only [situation, same]
  cases collected : handler.signature.collect handler.signature.models parser request with
  | mk result later =>
    cases result with
    | error refusal =>
      rw [perform_refused _ _ _ _ _ refusal (by rw [collected]), perform_refused _ _ _ _ _ refusal (by rw [collected])]
      exact ⟨rfl, same⟩
    | ok arguments =>
      rw [perform_called _ _ _ _ _ _ _ collected, perform_called _ _ _ _ _ _ _ collected, outcome, outcome, shown, items_keep, items_keep,
        if_pos rfl, if_pos rfl]
      exact ⟨rfl, rfl⟩

theorem answer_with_kept (registry : Registry) (kept : List (Identity × List Content)) (call : Call) (identity : Identity)
    (addressed : registry.addressee? call = some identity)
    (same : (registry.withKept kept).items identity = registry.items identity) :
    ((registry.withKept kept).answer call.scope call.channel).1 = (registry.answer call.scope call.channel).1 ∧
      ((registry.withKept kept).answer call.scope call.channel).2.items identity =
        (registry.answer call.scope call.channel).2.items identity := by
  obtain ⟨_, path, captures, resource, routed, found, rfl⟩ := (registry.addressee_eq_some_iff call identity).mp addressed
  have again : (registry.withKept kept).find? path = some (captures, resource) := found
  simp only [answer, routed, found, again, serve]
  rw [show (registry.withKept kept).endpoint? resource = registry.endpoint? resource from rfl]
  cases registry.endpoint? resource with
  | none => exact ⟨rfl, same⟩
  | some endpoint =>
    generalize Request.ofScope call.scope call.channel _ = built
    cases built with
    | error fault => exact ⟨rfl, same⟩
    | ok request =>
      cases named : Verb.named? request.method with
      | none => simpa only [named] using ⟨trivial, same⟩
      | some verb =>
        cases handled : endpoint.methods.lookup verb with
        | none => simpa only [named, handled] using ⟨trivial, same⟩
        | some handler =>
          simp only [named, handled]
          exact registry.perform_with_kept kept resource handler _ request same

end Registry

-- A handler that was called is not said to be missing, nor the request to be wrong.
theorem Answer.of_result_status (result : Except Silence Reply) (answer : Answer) (ended : ofResult result = .ok answer) :
    (∃ own, answer = .custom own) ∨ answer.status = 200 ∨ answer.status = 500 := by
  cases (concludes_iff result (.ok answer)).mpr ended with
  | raised fault caught => exact Or.inr (Or.inr rfl)
  | own response => exact Or.inl ⟨response, rfl⟩
  | written content body written => exact Or.inr (Or.inl rfl)
  | unwritten content fault unwritten => exact Or.inr (Or.inr rfl)

namespace Dispatcher

def next (dispatcher : Dispatcher) (call : Call) : Dispatcher := (dispatcher.handle call.scope call.channel).1

def reply (dispatcher : Dispatcher) (call : Call) : Delivery := (dispatcher.handle call.scope call.channel).2

-- What a dispatcher is when calls have been handled one after another.
def after (dispatcher : Dispatcher) (calls : List Call) : Dispatcher := calls.foldl next dispatcher

theorem after_append (dispatcher : Dispatcher) (a b : List Call) : dispatcher.after (a ++ b) = (dispatcher.after a).after b :=
  List.foldl_append

theorem handle_http (dispatcher : Dispatcher) (call : Call) (http : call.scope.kind = "http") :
    (dispatcher.next call).registry = (dispatcher.registry.answer call.scope call.channel).2 ∧
      dispatcher.reply call = send dispatcher.debug (dispatcher.registry.answer call.scope call.channel).1 := by
  rw [next, reply, handle, if_neg (not_not_intro http)]
  exact ⟨rfl, rfl⟩

theorem handle_other (dispatcher : Dispatcher) (call : Call) (other : call.scope.kind ≠ "http") :
    dispatcher.next call = dispatcher ∧ dispatcher.reply call = .ok [] := by
  rw [next, reply, handle, if_pos other]
  exact ⟨rfl, rfl⟩

-- Dispatchers that differ at most in what other objects keep.
structure SameFor (identity : Identity) (a b : Dispatcher) : Prop where
  debug : a.debug = b.debug
  unkept : a.registry.unkept = b.registry.unkept
  items : a.registry.items identity = b.registry.items identity

theorem next_debug (dispatcher : Dispatcher) (call : Call) : (dispatcher.next call).debug = dispatcher.debug := by
  rw [next, handle]
  split <;> rfl

theorem next_unkept (dispatcher : Dispatcher) (call : Call) : (dispatcher.next call).registry.unkept = dispatcher.registry.unkept := by
  by_cases http : call.scope.kind = "http"
  · rw [(dispatcher.handle_http call http).1]
    exact Registry.answer_keeps (fun registry => registry.unkept = dispatcher.registry.unkept) (fun _ _ _ same _ => same) _ _ _ rfl
  · rw [(dispatcher.handle_other call http).1]

theorem next_elsewhere (dispatcher : Dispatcher) (call : Call) (identity : Identity)
    (other : dispatcher.registry.addressee? call ≠ some identity) :
    (dispatcher.next call).registry.items identity = dispatcher.registry.items identity := by
  by_cases http : call.scope.kind = "http"
  · rw [(dispatcher.handle_http call http).1]
    have settled := dispatcher.registry.answer_settled call http
    generalize (dispatcher.registry.answer call.scope call.channel).1 = answer at settled
    generalize (dispatcher.registry.answer call.scope call.channel).2 = last at settled
    cases settled with
    | uncalled answer => rfl
    | called resource handler parser request later arguments view situation addressed =>
      have apart : identity ≠ resource.identity := fun same => other (same ▸ addressed)
      rw [Registry.items_keep, if_neg apart]
  · rw [(dispatcher.handle_other call http).1]

theorem same_for_next (identity : Identity) (a b : Dispatcher) (call : Call) (same : SameFor identity a b)
    (addressed : a.registry.addressee? call = some identity) : a.reply call = b.reply call ∧ SameFor identity (a.next call) (b.next call) := by
  have http := ((a.registry.addressee_eq_some_iff call identity).mp addressed).1
  have kept := Registry.with_kept_of_unkept a.registry b.registry same.unkept
  obtain ⟨answers, items⟩ := a.registry.answer_with_kept b.registry.router.objects.kept call identity addressed (kept ▸ same.items.symm)
  rw [← kept] at answers items
  refine ⟨?_, ?_, ?_, ?_⟩
  · rw [(a.handle_http call http).2, (b.handle_http call http).2, answers, same.debug]
  · rw [next_debug, next_debug, same.debug]
  · rw [next_unkept, next_unkept, same.unkept]
  · rw [(a.handle_http call http).1, (b.handle_http call http).1, items]

theorem after_debug (dispatcher : Dispatcher) (calls : List Call) : (dispatcher.after calls).debug = dispatcher.debug := by
  induction calls generalizing dispatcher with
  | nil => rfl
  | cons call rest ih => exact (ih (dispatcher.next call)).trans (dispatcher.next_debug call)

theorem after_unkept (dispatcher : Dispatcher) (calls : List Call) :
    (dispatcher.after calls).registry.unkept = dispatcher.registry.unkept := by
  induction calls generalizing dispatcher with
  | nil => rfl
  | cons call rest ih => exact (ih (dispatcher.next call)).trans (dispatcher.next_unkept call)

theorem addressee_after (dispatcher : Dispatcher) (calls : List Call) (call : Call) :
    (dispatcher.after calls).registry.addressee? call = dispatcher.registry.addressee? call :=
  Registry.addressee_unkept _ _ (dispatcher.after_unkept calls) call

theorem after_elsewhere (dispatcher : Dispatcher) (calls : List Call) (identity : Identity)
    (others : ∀ call ∈ calls, dispatcher.registry.addressee? call ≠ some identity) :
    (dispatcher.after calls).registry.items identity = dispatcher.registry.items identity := by
  induction calls generalizing dispatcher with
  | nil => rfl
  | cons call rest ih =>
    obtain ⟨first, later⟩ := List.forall_mem_cons.mp others
    have still : ∀ other ∈ rest, (dispatcher.next call).registry.addressee? other ≠ some identity := fun other member => by
      rw [Registry.addressee_unkept _ _ (dispatcher.next_unkept call)]
      exact later other member
    exact (ih (dispatcher.next call) still).trans (dispatcher.next_elsewhere call identity first)

def callsFor (dispatcher : Dispatcher) (identity : Identity) (calls : List Call) : List Call :=
  calls.filter fun call => dispatcher.registry.addressee? call = some identity

-- The calls for other objects may as well be left out.
theorem after_purged (identity : Identity) (a b : Dispatcher) (calls : List Call) (same : SameFor identity a b) :
    SameFor identity (a.after calls) (b.after (a.callsFor identity calls)) := by
  induction calls generalizing a b with
  | nil => exact same
  | cons call rest ih =>
    have chosen : (a.next call).callsFor identity rest = a.callsFor identity rest := by
      simp only [callsFor, Registry.addressee_unkept _ _ (a.next_unkept call)]
    by_cases addressed : a.registry.addressee? call = some identity
    · have later := ih _ _ (same_for_next identity a b call same addressed).2
      rw [chosen] at later
      rw [callsFor, List.filter_cons_of_pos (by simpa using addressed)]
      exact later
    · have later := ih (a.next call) b
        ⟨(a.next_debug call).trans same.debug, (a.next_unkept call).trans same.unkept,
          (a.next_elsewhere call identity addressed).trans same.items⟩
      rw [chosen] at later
      rw [callsFor, List.filter_cons_of_neg (by simpa using addressed)]
      exact later

theorem next_refused (dispatcher : Dispatcher) (call : Call) (status : Int) (headers : List (Bytes × Bytes)) (body : Bytes)
    (sent : dispatcher.reply call = .ok [.start status headers, .body body]) (refused : status = 404 ∨ status = 400 ∨ status = 403) :
    dispatcher.next call = dispatcher ∨
      ∃ own, (dispatcher.registry.answer call.scope call.channel).1 = .ok (.custom own) := by
  by_cases http : call.scope.kind = "http"
  · obtain ⟨registry, reply⟩ := dispatcher.handle_http call http
    have unchanged : (dispatcher.next call).registry = dispatcher.registry → dispatcher.next call = dispatcher := by
      intro same
      have debug := dispatcher.next_debug call
      generalize dispatcher.next call = last at same debug
      obtain ⟨_, _⟩ := last
      obtain rfl : _ = dispatcher.registry := same
      obtain rfl : _ = dispatcher.debug := debug
      rfl
    have settled := dispatcher.registry.answer_settled call http
    rw [reply] at sent
    rw [registry] at unchanged
    generalize (dispatcher.registry.answer call.scope call.channel).2 = last at settled unchanged
    generalize (dispatcher.registry.answer call.scope call.channel).1 = answer at settled sent ⊢
    cases settled with
    | uncalled answer => exact Or.inl (unchanged rfl)
    | called resource handler parser request later arguments view situation addressed =>
      cases ended : Answer.ofResult (handler.call arguments situation).result with
      | error fault =>
        rw [ended] at sent
        cases sent
      | ok answer =>
        rw [ended] at sent
        have same := Answer.send_status dispatcher.debug answer status headers body sent
        rcases Answer.of_result_status _ answer ended with ⟨own, rfl⟩ | plain
        · exact Or.inr ⟨own, rfl⟩
        · omega
  · exact Or.inl (dispatcher.handle_other call http).1

theorem handle_respects_calls (start : Dispatcher) : Respects (fun a b => a = b ∧ ∃ calls, a = start.after calls) handle := by
  rintro a b ⟨rfl, calls, rfl⟩ scope channel
  refine ⟨⟨rfl, calls ++ [⟨scope, channel⟩], ?_⟩, rfl⟩
  rw [after_append]
  rfl

end Dispatcher

namespace App

-- Middleware may hand on other calls than those that came, or none, but it can do no more.
theorem call_handled (app : App) (call : Call) (isOpaque : app.Opaque) :
    ∃ calls, (app.call call.scope call.channel).1.dispatcher = app.dispatcher.after calls := by
  have alike : App.Alike (fun a b => a = b ∧ ∃ calls, a = app.dispatcher.after calls) app app := ⟨⟨rfl, [], rfl⟩, rfl, rfl, rfl⟩
  exact (call_alike _ _ _ _ _ app.dispatcher.handle_respects_calls isOpaque alike).2.dispatcher.2

theorem call_bare_handled (debug : Bool) (app : App) (call : Call) (bare : Bare debug app) :
    (app.call call.scope call.channel).1.dispatcher = app.dispatcher.next call := by
  obtain ⟨handles, _⟩ := service_bare debug app bare
  have unchanged := (service_app app).1
  rw [App.call]
  split
  · rename_i lifespan
    have other : call.scope.kind ≠ "http" := by
      rw [lifespan]
      decide
    exact (app.dispatcher.handle_other call other).1.symm
  · cases made : app.service with
    | mk result next =>
      rw [made] at handles unchanged
      obtain rfl : result = .ok Dispatcher.handle := handles
      exact congrArg (fun dispatcher => Dispatcher.next dispatcher call) unchanged

end App

-- What requests do in an application whose routes stem from these registrations.
structure AppState.Isolates (state : AppState) (origins : List (String × Source)) : Prop where
  fixed : ∀ calls, (state.app.dispatcher.after calls).debug = state.app.dispatcher.debug ∧
    (state.app.dispatcher.after calls).registry.unkept = state.registry.unkept
  addressed : ∀ call identity, state.registry.addressee? call = some identity ↔ call.scope.kind = "http" ∧
    ∃ path captures, ∃ route ∈ state.registry.router.table, call.scope.path = some path ∧
      route.rule.match? (splitPath path) = some captures ∧
      (∀ other ∈ state.registry.router.table, other.index < route.index → other.rule.match? (splitPath path) = none) ∧
      route.resource.isNothing = false ∧ route.resource.identity = identity
  settled : ∀ calls call, call.scope.kind = "http" →
    let here := state.app.dispatcher.after calls
    let answer := (here.registry.answer call.scope call.channel).1
    here.registry.Settled call answer (state.app.dispatcher.after (calls ++ [call])).registry ∧
      here.reply call = Dispatcher.send state.app.dispatcher.debug answer
  idle : ∀ calls call, call.scope.kind ≠ "http" →
    state.app.dispatcher.after (calls ++ [call]) = state.app.dispatcher.after calls ∧
      (state.app.dispatcher.after calls).reply call = .ok []
  refused : ∀ calls call status headers body,
    (state.app.dispatcher.after calls).reply call = .ok [.start status headers, .body body] →
    status = 404 ∨ status = 400 ∨ status = 403 →
    state.app.dispatcher.after (calls ++ [call]) = state.app.dispatcher.after calls ∨
      ∃ own, ((state.app.dispatcher.after calls).registry.answer call.scope call.channel).1 = .ok (.custom own)
  untouched : ∀ calls between identity, (∀ call ∈ between, state.registry.addressee? call ≠ some identity) →
    (state.app.dispatcher.after (calls ++ between)).registry.items identity = (state.app.dispatcher.after calls).registry.items identity
  purged : ∀ calls call identity, state.registry.addressee? call = some identity →
    let others := state.app.dispatcher.callsFor identity calls
    (state.app.dispatcher.after calls).reply call = (state.app.dispatcher.after others).reply call ∧
      (state.app.dispatcher.after (calls ++ [call])).registry.items identity =
        (state.app.dispatcher.after (others ++ [call])).registry.items identity
  stems : List.Forall₂ (Route.Stems state.made) origins state.registry.router.table
  apart : ∀ (i j : Nat) text cls (a b : Route Resource), i ≠ j → origins[i]? = some (text, .fresh cls) →
    state.registry.router.table[i]? = some a → state.registry.router.table[j]? = some b →
    a.resource.identity ≠ b.resource.identity
  shared : ∀ (i j : Nat) text other place (a b : Route Resource), origins[i]? = some (text, .made place) →
    origins[j]? = some (other, .made place) → state.registry.router.table[i]? = some a → state.registry.router.table[j]? = some b →
    a.resource = b.resource
  handled : ∀ calls : List Call, ∃ handled,
    (state.run (calls.map Call.step)).2.app.dispatcher = state.app.dispatcher.after handled

namespace Registry

theorem founded_apart (made : List Resource) (origins : List (String × Source)) (registry : Registry) (founded : Founded made origins registry)
    (i j : Nat) (text : String) (cls : ResourceClass) (a b : Route Resource) (different : i ≠ j)
    (registered : origins[i]? = some (text, .fresh cls)) (foundA : registry.router.table[i]? = some a)
    (foundB : registry.router.table[j]? = some b) : a.resource.identity ≠ b.resource.identity := by
  obtain ⟨insideB, _⟩ := List.getElem?_eq_some_iff.mp foundB
  obtain ⟨other, stem⟩ : ∃ other, origins[j]? = some other :=
    ⟨_, List.getElem?_eq_getElem (founded.stems.length_eq ▸ insideB)⟩
  have pairA : (origins.zip registry.router.table)[i]? = some ((text, .fresh cls), a) :=
    List.getElem?_zip_eq_some.mpr ⟨registered, foundA⟩
  have pairB : (origins.zip registry.router.table)[j]? = some (other, b) := List.getElem?_zip_eq_some.mpr ⟨stem, foundB⟩
  obtain ⟨inA, sameA⟩ := List.getElem?_eq_some_iff.mp pairA
  obtain ⟨inB, sameB⟩ := List.getElem?_eq_some_iff.mp pairB
  have ordered := List.pairwise_iff_getElem.mp founded.apart
  rcases Nat.lt_or_gt_of_ne different with before | behind
  · have apart := ordered i j inA inB before
    rw [sameA, sameB] at apart
    exact apart (Or.inl trivial)
  · have apart := ordered j i inB inA behind
    rw [sameA, sameB] at apart
    exact (apart (Or.inr trivial)).symm

theorem founded_shared (made : List Resource) (origins : List (String × Source)) (registry : Registry) (founded : Founded made origins registry)
    (i j : Nat) (text other : String) (place : Nat) (a b : Route Resource) (registeredA : origins[i]? = some (text, .made place))
    (registeredB : origins[j]? = some (other, .made place)) (foundA : registry.router.table[i]? = some a)
    (foundB : registry.router.table[j]? = some b) : a.resource = b.resource := by
  have stems : ∀ entry route, (entry, route) ∈ origins.zip registry.router.table → Route.Stems made entry route := fun _ _ member =>
    (List.forall₂_iff_zip.mp founded.stems).2 member
  obtain ⟨_, _, ⟨first, accessA, rfl⟩, yieldsA⟩ := stems _ a (List.mem_of_getElem? (List.getElem?_zip_eq_some.mpr ⟨registeredA, foundA⟩))
  obtain ⟨_, _, ⟨second, accessB, rfl⟩, yieldsB⟩ := stems _ b (List.mem_of_getElem? (List.getElem?_zip_eq_some.mpr ⟨registeredB, foundB⟩))
  obtain rfl : first = second := Option.some.inj (accessA.symm.trans accessB)
  exact Eq.trans yieldsA yieldsB.symm

theorem addressee_iff_matched (made : List Resource) (registry : Registry) (sound : Sound made registry) (call : Call) (identity : Identity) :
    registry.addressee? call = some identity ↔ call.scope.kind = "http" ∧
      ∃ path captures, ∃ route ∈ registry.router.table, call.scope.path = some path ∧
        route.rule.match? (splitPath path) = some captures ∧
        (∀ other ∈ registry.router.table, other.index < route.index → other.rule.match? (splitPath path) = none) ∧
        route.resource.isNothing = false ∧ route.resource.identity = identity := by
  rw [addressee_eq_some_iff]
  refine and_congr_right fun _ => ?_
  constructor
  · rintro ⟨path, captures, resource, routed, found, same⟩
    obtain ⟨route, answering, rfl, something⟩ := (registry.find_eq_some_iff path captures resource).mp found
    obtain ⟨member, matched, first⟩ := (registry.router.table.answering_eq_some_iff path captures route sound.table).mp answering
    exact ⟨path, captures, route, member, routed, matched, first, something, same⟩
  · rintro ⟨path, captures, route, member, routed, matched, first, something, same⟩
    have answering := (registry.router.table.answering_eq_some_iff path captures route sound.table).mpr ⟨member, matched, first⟩
    exact ⟨path, captures, route.resource, routed, (registry.find_eq_some_iff path captures _).mpr ⟨route, answering, rfl, something⟩, same⟩

end Registry

namespace AppState

theorem run_handled (state : AppState) (calls : List Call) (isOpaque : state.app.Opaque) :
    ∃ handled, (state.run (calls.map Call.step)).2.app.dispatcher = state.app.dispatcher.after handled := by
  induction calls generalizing state with
  | nil => exact ⟨[], rfl⟩
  | cons call rest ih =>
    obtain ⟨first, here⟩ := state.app.call_handled call isOpaque
    obtain ⟨later, all⟩ := ih (state.step call.step).2 (App.call_opaque state.app call.scope call.channel isOpaque)
    refine ⟨first ++ later, ?_⟩
    rw [List.map_cons, run_cons, Dispatcher.after_append, ← here]
    exact all

theorem run_bare_handled (debug : Bool) (state : AppState) (calls : List Call) (bare : App.Bare debug state.app) :
    (state.run (calls.map Call.step)).2.app.dispatcher = state.app.dispatcher.after calls := by
  induction calls generalizing state with
  | nil => rfl
  | cons call rest ih =>
    have later := ih (state.step call.step).2 (App.call_bare debug state.app call.scope call.channel bare).1
    rw [List.map_cons, run_cons, later]
    exact congrArg (fun dispatcher => Dispatcher.after dispatcher rest) (state.app.call_bare_handled debug call bare)

theorem requests_isolated (strict debug : Bool) (started : List (String × Nat)) (steps : List AppStep)
    (guarded : ∀ step ∈ steps, step.Guarded) :
    let state := ((new strict debug started).run steps).2
    state.Isolates ((new strict debug started).origins steps) ∧
      ((∀ step ∈ steps, step.Plain) → ∀ calls,
        let later := (state.run (calls.map Call.step)).2
        later.app.dispatcher = state.app.dispatcher.after calls ∧
          ∀ call : Call, call.scope.kind = "http" →
            (later.app.call call.scope call.channel).2 = (state.app.dispatcher.after calls).reply call) := by
  intro state
  have sound : Sound state := run_sound _ steps guarded (new_sound strict debug started)
  have founded := new_founded strict debug started steps guarded
  have last : ∀ calls call, state.app.dispatcher.after (calls ++ [call]) = (state.app.dispatcher.after calls).next call := fun calls call =>
    state.app.dispatcher.after_append calls [call]
  refine ⟨?_, fun plain calls => ?_⟩
  · constructor
    case fixed => exact fun calls => ⟨state.app.dispatcher.after_debug calls, state.app.dispatcher.after_unkept calls⟩
    case addressed => exact state.registry.addressee_iff_matched state.made sound.registry
    case settled =>
      intro calls call http here answer
      obtain ⟨registry, reply⟩ := here.handle_http call http
      rw [last, registry, reply, state.app.dispatcher.after_debug]
      exact ⟨here.registry.answer_settled call http, rfl⟩
    case idle =>
      intro calls call other
      rw [last]
      exact Dispatcher.handle_other _ call other
    case refused =>
      intro calls call status headers body sent refused
      rw [last]
      exact Dispatcher.next_refused _ call status headers body sent refused
    case untouched =>
      intro calls between identity others
      rw [Dispatcher.after_append]
      refine Dispatcher.after_elsewhere _ between identity fun call member => ?_
      rw [Dispatcher.addressee_after]
      exact others call member
    case purged =>
      intro calls call identity addressed others
      have same := Dispatcher.after_purged identity state.app.dispatcher state.app.dispatcher calls ⟨rfl, rfl, rfl⟩
      rw [last, last]
      have here : (state.app.dispatcher.after calls).registry.addressee? call = some identity :=
        (state.app.dispatcher.addressee_after calls call).trans addressed
      obtain ⟨reply, next⟩ := Dispatcher.same_for_next identity _ _ call same here
      exact ⟨reply, next.items⟩
    case stems => exact founded.stems
    case apart => exact state.registry.founded_apart _ _ founded
    case shared => exact state.registry.founded_shared _ _ founded
    case handled => exact fun calls => state.run_handled calls sound.isOpaque
  · have bare : App.Bare debug state.app := run_bare debug _ steps plain ⟨rfl, rfl, Or.inl rfl⟩
    have handled := state.run_bare_handled debug calls bare
    refine ⟨handled, fun call http => ?_⟩
    have callsPlain : ∀ step ∈ calls.map Call.step, step.Plain := by
      intro step member middleware same
      obtain ⟨call, _, rfl⟩ := List.mem_map.mp member
      cases same
    have still : App.Bare debug (state.run (calls.map Call.step)).2.app := run_bare debug state _ callsPlain bare
    rw [(App.call_bare debug _ call.scope call.channel still).2 http, ← handled, (Dispatcher.handle_http _ call http).2, still.debug]
    rfl

-- A class whose objects tell how often they were asked. It stands behind two rules, and one object of it behind two others.
def counter : ResourceClass :=
  { name := "Counter"
    methods := [("get",
      { label := "Counter.get"
        signature := { parameters := [] }
        run := fun situation => ⟨.ok (.content (.data (.int situation.items.length))), .data .null :: situation.items⟩ })] }

def counterSteps : List AppStep :=
  [.setup (.construct counter), .setup (.add "/a" (.fresh counter) []), .setup (.add "/b" (.fresh counter) []),
   .setup (.add "/c" (.made 0) []), .setup (.add "/d" (.made 0) []), .addMiddleware (.header "counter")]

def asked (path : String) : Call := { scope := { method := some "GET", path := some path }, channel := {} }

theorem counters_isolated :
    let state := ((new false false []).run counterSteps).2
    let dispatcher := state.app.dispatcher
    (∀ n, (dispatcher.after (List.replicate n (asked "/a"))).reply (asked "/b") = dispatcher.reply (asked "/b")) ∧
      ∀ c d, state.registry.router.table[2]? = some c → state.registry.router.table[3]? = some d →
        c.resource = d.resource ∧ ((dispatcher.after [asked "/c"]).registry.items d.resource.identity).length = 1 := by
  intro state dispatcher
  have guarded : ∀ step ∈ counterSteps, step.Guarded := by
    simp [counterSteps, AppStep.Guarded, Middleware.header_opaque]
  obtain ⟨isolates, _⟩ := requests_isolated false false [] counterSteps guarded
  have first : state.registry.addressee? (asked "/a") = some (.object "Counter" 1) := rfl
  have second : state.registry.addressee? (asked "/b") = some (.object "Counter" 2) := rfl
  refine ⟨fun n => ?_, fun c d foundC foundD => ?_⟩
  · have others : dispatcher.callsFor (.object "Counter" 2) (List.replicate n (asked "/a")) = [] := by
      refine List.filter_eq_nil_iff.mpr fun call member => ?_
      rw [List.eq_of_mem_replicate member, show dispatcher.registry.addressee? (asked "/a") = _ from first]
      decide
    have purged := (isolates.purged (List.replicate n (asked "/a")) (asked "/b") _ second).1
    rw [show state.app.dispatcher.callsFor _ _ = [] from others] at purged
    exact purged
  · refine ⟨isolates.shared 2 3 "/c" "/d" 0 c d rfl rfl foundC foundD, ?_⟩
    obtain rfl := Option.some.inj foundD
    rfl

end AppState
end RestDispatch
