import RestDispatch.App.Basic

set_option autoImplicit false

/-!
Calls about the life of an application. A message is answered, if at all, when it has been received and before the next one
is. Main statement: so startups are acknowledged one by one, and the first shutdown is acknowledged and ends the call,
whatever is registered on the application.
-/
namespace RestDispatch

-- What a message is answered with.
def LifeEvent.replies : LifeEvent → List LifeReply
  | .startup => [.startupComplete]
  | .shutdown => [.shutdownComplete]
  | .other _ => []

-- What a call does because of a message.
def LifeEvent.turn (event : LifeEvent) : List LifeAct := .received event :: event.replies.map .sent

namespace LifeCall

theorem run_cons (event : LifeEvent) (events : List LifeEvent) (continues : event ≠ .shutdown) :
    run (event :: events) = (run events).after event.turn := by
  cases event with
  | startup => rfl
  | shutdown => exact absurd rfl continues
  | other name => rfl

-- Messages before a shutdown have their turns, and then the call goes on with those behind them.
theorem run_append (before events : List LifeEvent) (continues : LifeEvent.shutdown ∉ before) :
    run (before ++ events) = (run events).after (before.flatMap LifeEvent.turn) := by
  induction before with
  | nil => rfl
  | cons event rest ih =>
    have here : event ≠ .shutdown := fun same => continues (same ▸ List.mem_cons_self)
    have later : LifeEvent.shutdown ∉ rest := fun member => continues (List.mem_cons_of_mem event member)
    rw [List.cons_append, run_cons event _ here, ih later, after, after, after, List.flatMap_cons, List.append_assoc]

theorem run_stopped (before left : List LifeEvent) (continues : LifeEvent.shutdown ∉ before) :
    run (before ++ .shutdown :: left) = ⟨(before ++ [LifeEvent.shutdown]).flatMap LifeEvent.turn, .ok left⟩ := by
  rw [run_append before _ continues, List.flatMap_append, List.flatMap_singleton]
  rfl

theorem received_turns (events : List LifeEvent) (result : Except Fault (List LifeEvent)) :
    received ⟨events.flatMap LifeEvent.turn, result⟩ = events := by
  have own : ∀ event : LifeEvent, received ⟨event.turn, result⟩ = [event] := fun event => by cases event <;> rfl
  rw [received, List.filterMap_flatMap]
  exact (congrArg events.flatMap (funext own)).trans (List.flatMap_singleton' events)

theorem sent_turns (events : List LifeEvent) (result : Except Fault (List LifeEvent)) :
    sent ⟨events.flatMap LifeEvent.turn, result⟩ = events.flatMap LifeEvent.replies := by
  have own : ∀ event : LifeEvent, sent ⟨event.turn, result⟩ = event.replies := fun event => by cases event <;> rfl
  rw [sent, List.filterMap_flatMap]
  exact congrArg events.flatMap (funext own)

-- At any time, what has been sent answers something that has been received.
theorem turns_caused (events : List LifeEvent) (past : List LifeAct) (begins : past <+: events.flatMap LifeEvent.turn)
    (reply : LifeReply) (sent : .sent reply ∈ past) : ∃ event, .received event ∈ past ∧ reply ∈ event.replies := by
  induction events generalizing past with
  | nil =>
    obtain rfl := List.prefix_nil.mp begins
    cases sent
  | cons event rest ih =>
    rw [List.flatMap_cons, LifeEvent.turn, List.cons_append] at begins
    cases past with
    | nil => cases sent
    | cons first later =>
      obtain ⟨rfl, onwards⟩ := List.cons_prefix_cons.mp begins
      have member : .sent reply ∈ later := (List.mem_cons.mp sent).resolve_left LifeAct.noConfusion
      rw [List.prefix_iff_eq_take, List.take_append] at onwards
      rw [onwards] at member ⊢
      rcases List.mem_append.mp member with own | behind
      · obtain ⟨answer, answers, same⟩ := List.mem_map.mp (List.mem_of_mem_take own)
        obtain rfl := LifeAct.sent.inj same
        exact ⟨event, List.mem_cons_self, answers⟩
      · obtain ⟨cause, known, answers⟩ := ih _ (List.take_prefix _ _) behind
        exact ⟨cause, List.mem_cons_of_mem _ (List.mem_append_right _ known), answers⟩

theorem startups_replied (events : List LifeEvent) :
    (events.flatMap LifeEvent.replies).count .startupComplete = events.count .startup := by
  induction events with
  | nil => rfl
  | cons event rest ih =>
    rw [List.flatMap_cons, List.count_append, ih, List.count_cons, Nat.add_comm]
    cases event <;> rfl

theorem shutdowns_replied (events : List LifeEvent) :
    (events.flatMap LifeEvent.replies).count .shutdownComplete = events.count .shutdown := by
  induction events with
  | nil => rfl
  | cons event rest ih =>
    rw [List.flatMap_cons, List.count_append, ih, List.count_cons, Nat.add_comm]
    cases event <;> rfl

-- A call that is ended by the first shutdown among its messages: it stands behind `before`, and `left` is not received.
structure Acknowledges (events before left : List LifeEvent) (call : LifeCall) : Prop where
  messages : events = before ++ .shutdown :: left
  first : LifeEvent.shutdown ∉ before
  returned : call.result = .ok left
  received : call.received = before ++ [.shutdown]
  acts : call.acts = before.flatMap LifeEvent.turn ++ [.received .shutdown, .sent .shutdownComplete]
  sent : call.sent = before.flatMap LifeEvent.replies ++ [.shutdownComplete]
  startups : call.sent.count .startupComplete = before.count .startup
  shutdowns : call.sent.count .shutdownComplete = 1
  caused : ∀ past, past <+: call.acts → .sent .shutdownComplete ∈ past → .received .shutdown ∈ past

theorem run_acknowledges (before left : List LifeEvent) (first : LifeEvent.shutdown ∉ before) :
    Acknowledges (before ++ .shutdown :: left) before left (run (before ++ .shutdown :: left)) := by
  rw [run_stopped before left first]
  have replied := sent_turns (before ++ [.shutdown]) (.ok left)
  constructor
  case messages => rfl
  case first => exact first
  case returned => rfl
  case received => exact received_turns _ _
  case acts => exact List.flatMap_append
  case sent => rw [replied, List.flatMap_append]; rfl
  case startups => rw [replied, startups_replied, List.count_append]; rfl
  case shutdowns => rw [replied, shutdowns_replied, List.count_append, List.count_eq_zero.mpr first]; rfl
  case caused =>
    intro past begins sent
    obtain ⟨event, known, answers⟩ := turns_caused _ past begins .shutdownComplete sent
    cases event with
    | shutdown => exact known
    | startup => cases List.mem_singleton.mp answers
    | other name => cases answers

end LifeCall

namespace App

theorem life_acknowledged (app : App) (events : List LifeEvent) (stops : .shutdown ∈ events) :
    (app.live events).1 = app ∧ ∃ before left, LifeCall.Acknowledges events before left (app.live events).2 := by
  obtain ⟨before, left, rfl, first⟩ := List.eq_append_cons_of_mem stops
  exact ⟨rfl, before, left, LifeCall.run_acknowledges before left first⟩

-- An application with a route is started twice, and again after its end.
def servedApp : App := ((App.new true false).add "/page" (.fresh { name := "Page" }) []).2

def restarts : List LifeEvent := [.other "lifespan.pause", .startup, .startup, .shutdown, .startup]

theorem restarts_acknowledged :
    .shutdown ∈ restarts ∧ (servedApp.live restarts).2.result = .ok [.startup] ∧
      (servedApp.live restarts).2.sent = [.startupComplete, .startupComplete, .shutdownComplete] := by
  have stops : .shutdown ∈ restarts := by decide
  obtain ⟨_, before, left, acknowledged⟩ := life_acknowledged servedApp restarts stops
  obtain rfl : [LifeEvent.startup] = left := Except.ok.inj acknowledged.returned
  obtain rfl : [.other "lifespan.pause", .startup, .startup] = before := List.append_cancel_right acknowledged.messages
  exact ⟨stops, acknowledged.returned, acknowledged.sent⟩

end App
end RestDispatch
