import RestDispatch.Proofs.App.Delivery

set_option autoImplicit false

/-!
How a request for a resource is decided. The method is looked at first, then the body, then the parser, then the
models, and only then is the handler called. Main statement: in every state of an application a request gets
the answer of the first of these that settles it, a handler is called once or not at all, and the status of
every envelope is its code.
-/
namespace RestDispatch

-- The chunks of a body that is all there, and what they hold together.
def Channel.Whole (channel : Channel) (bytes : Bytes) : Prop :=
  ∃ before last after, channel.pending = before ++ last :: after ∧ (∀ chunk ∈ before, chunk.more = true) ∧ last.more = false ∧
    bytes = before.flatMap Chunk.body ++ last.body

theorem Channel.receive_body_whole (receives : Nat) (before : List Chunk) (last : Chunk) (after : List Chunk)
    (announced : ∀ chunk ∈ before, chunk.more = true) (closing : last.more = false) :
    (receiveBody receives (before ++ last :: after)).1 = .ok (before.flatMap Chunk.body ++ last.body) := by
  induction before generalizing receives with
  | nil =>
    rw [List.nil_append, receiveBody, closing]
    rfl
  | cons first rest ih =>
    obtain ⟨more, others⟩ := List.forall_mem_cons.mp announced
    have later := ih (receives + 1) others
    rw [List.cons_append, receiveBody, more]
    cases received : receiveBody (receives + 1) (rest ++ last :: after) with
    | mk result channel =>
      rw [received] at later
      obtain rfl : result = _ := later
      simp [Except.map]

theorem Request.body_whole (request : Request) (bytes : Bytes) (unread : request.kept = none) (whole : request.channel.Whole bytes) :
    request.body.1 = .ok bytes := by
  obtain ⟨before, last, after, pending, announced, closing, rfl⟩ := whole
  have received := Channel.receive_body_whole request.channel.receives before last after announced closing
  rw [body, unread, pending]
  cases step : Channel.receiveBody request.channel.receives (before ++ last :: after) with
  | mk result channel =>
    rw [step] at received
    obtain rfl : result = _ := received
    rfl

-- The answer that the end of a handler amounts to.
inductive Concludes : Except Silence Reply → Except Silence Answer → Prop where
  | raised (fault : Fault) (caught : fault.stops = false) : Concludes (.error (.raised fault)) (.ok (.failed fault))
  | stopped (fault : Fault) (stops : fault.stops = true) : Concludes (.error (.raised fault)) (.error (.raised fault))
  | endless : Concludes (.error .endless) (.error .endless)
  | own (response : Response) : Concludes (.ok (.response response)) (.ok (.custom response))
  | written (content : Content) (body : Bytes) (written : Answer.successBody content = .ok body) :
      Concludes (.ok (.content content)) (.ok (.success body))
  | unwritten (content : Content) (fault : Fault) (unwritten : Answer.successBody content = .error fault) :
      Concludes (.ok (.content content)) (.ok (.failed fault))

theorem concludes_iff (result : Except Silence Reply) (answer : Except Silence Answer) :
    Concludes result answer ↔ Answer.ofResult result = answer := by
  constructor
  · intro concluded
    cases concluded with
    | raised fault caught => simp [Answer.ofResult, caught]
    | stopped fault stops => simp [Answer.ofResult, stops]
    | endless => rfl
    | own response => rfl
    | written content body written => simp [Answer.ofResult, written]
    | unwritten content fault unwritten => simp [Answer.ofResult, unwritten]
  · rintro rfl
    cases result with
    | error silence =>
      cases silence with
      | endless => exact .endless
      | raised fault =>
        cases stops : fault.stops with
        | true => simpa [Answer.ofResult, stops] using Concludes.stopped fault stops
        | false => simpa [Answer.ofResult, stops] using Concludes.raised fault stops
    | ok reply =>
      cases reply with
      | response own => exact .own own
      | content content =>
        cases written : Answer.successBody content with
        | ok body => simpa [Answer.ofResult, written] using Concludes.written content body written
        | error fault => simpa [Answer.ofResult, written] using Concludes.unwritten content fault written

-- Contents that say their code first.
inductive Enveloped (code : Int) : Content → Prop where
  | plain (entries : Entries) : Enveloped code (.data (.ofEntries (("code", .int code) :: entries)))
  | around (entries : List (Content × Content)) : Enveloped code (.dict ((.data (.text "code"), .data (.int code)) :: entries))

namespace Answer

def status : Answer → Int
  | .notFound => 404
  | .undefinedMethod _ => 400
  | .unsupportedBody => 403
  | .badParameter _ _ => 400
  | .badModel _ => 400
  | .failed _ => 500
  | .success _ => 200
  | .custom response => response.status

theorem envelope_ok (code : Int) (entries : Entries) (response : Response) (made : envelope code entries = .ok response) :
    response.status = code ∧ ∃ content, Enveloped code content ∧ content.jsonBytes = .ok response.body := by
  obtain ⟨body, written, same⟩ := (bind_eq_ok _ _ _).mp made
  obtain rfl := Except.ok.inj same
  exact ⟨rfl, _, .plain entries, written⟩

end Answer

namespace Registry

-- The handler sees the request as it came, whatever of it has been read for the arguments.
theorem perform_complete (registry : Registry) (resource : Resource) (handler : Handler) (parser : Option Parser) (request : Request)
    (bytes : Bytes) (complete : request.body.1 = .ok bytes) (arguments : List (String × Content))
    (taken : (handler.signature.collect handler.signature.models parser request).1 = .ok arguments) :
    registry.perform resource handler parser request =
      (Answer.ofResult (registry.outcome resource handler arguments request).result,
        registry.keep resource.identity (registry.outcome resource handler arguments request).items) := by
  have view := handler.signature.collect_view parser request bytes complete
  cases collected : handler.signature.collect handler.signature.models parser request with
  | mk result later =>
    rw [collected] at taken view
    obtain rfl : result = .ok arguments := taken
    have same : registry.outcome resource handler arguments later = registry.outcome resource handler arguments request := by
      rw [outcome, outcome, view]
    rw [registry.perform_called _ _ _ _ _ _ collected, same]

end Registry

namespace AppState

-- A page that takes notes, and a body of brackets inside each other.
def noteSignature : Signature := { parameters := [{ name := "note", annotation := some (.direct (.model Model.note)) }] }

def notePage : ResourceClass :=
  { name := "Page"
    methods := [("post",
      { label := "Page.post"
        signature := noteSignature
        run := fun situation => ⟨.ok (.content (.data .null)), situation.items⟩ })] }

def notePageSteps : List AppStep := [.setup (.add "/page" (.fresh notePage) [])]

def bracketsScope : Scope :=
  { method := some "POST", path := some "/page", headers := [(Response.contentTypeName, Text.Utf8.bytes "application/json")] }

end AppState
end RestDispatch
