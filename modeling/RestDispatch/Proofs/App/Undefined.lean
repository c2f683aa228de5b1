import RestDispatch.Proofs.App.Finding
import RestDispatch.Proofs.Http.Sending
import RestDispatch.Proofs.Json.Validity
import RestDispatch.Proofs.Text.Pieces
import Mathlib.Data.List.Basic

set_option autoImplicit false

/-!
Requests with an undefined method. Main statement: a request that comes to a route is answered as one exactly if its method in
capitals is no verb that the resource serves. What is sent then is sent for no other answer but a handler's own response.
-/
namespace RestDispatch

namespace Answer

-- The messages of the answer to a request with an undefined method.
def undefinedSent (method : String) : Delivery :=
  ((envelope 400 (errorEntries [("message", .text (Text.lower method ++ " method is undefined."))])).bind Response.messages).mapError .raised

theorem send_undefined (debug : Bool) (method : String) : Dispatcher.send debug (.ok (.undefinedMethod method)) = undefinedSent method := rfl

theorem undefined_complete (method : String) (whole : Text.holdsHalf (Text.lower method) = false) :
    Delivery.Complete (undefinedSent method) := by
  refine send_complete false (.undefinedMethod method) (fun _ _ => Answer.noConfusion) ?_
  rw [writable, whole]
  rfl

-- The text of a refusal up to the name of what it tells first.
def refusalStart (key : String) : List Letter :=
  .char '\x7b' :: (Json.stringText (Text.lettersOf "code") ++ .char ':' :: Text.lettersOf "400") ++
    .char ',' :: (Json.stringText (Text.lettersOf "error") ++ .char ':' :: .char '\x7b' :: Json.stringText (Text.lettersOf key))

theorem encode_refused : Json.encode Json.Bounds.ofBody.inside (.int 400) = .ok (Text.lettersOf "400") := by
  rw [Json.encode, Json.int_text_ok_iff]
  decide

theorem refusal_begins (key : String) (v : Value) (entries : Entries) (text : List Letter)
    (written : Json.encode .ofBody (.ofEntries (("code", .int 400) :: errorEntries ((key, v) :: entries))) = .ok text) :
    refusalStart key <+: text := by
  obtain ⟨_, fields, encoded, rfl⟩ := (Json.nested_ok_iff .ofBody _ _ _ text).mp written
  obtain ⟨number, later, counted, other, rfl⟩ := Json.encode_fields_cons _ _ _ _ fields encoded
  obtain ⟨inner, none, object, done, rfl⟩ := Json.encode_fields_cons _ _ _ _ later other
  obtain ⟨_, members, named, rfl⟩ := (Json.nested_ok_iff _ _ _ _ inner).mp object
  obtain ⟨first, behind, _, _, rfl⟩ := Json.encode_fields_cons _ _ _ _ members named
  obtain rfl : Text.lettersOf "400" = number := Except.ok.inj (encode_refused.symm.trans counted)
  obtain rfl : [] = none := Except.ok.inj done
  simp only [refusalStart, Json.bracketed, Text.join, Text.join_eq_flatten, List.append_assoc, List.cons_append,
    List.prefix_append_right_inj, List.prefix_cons_inj, List.prefix_append]

theorem refusal_body (key : String) (v : Value) (entries : Entries) (response : Response)
    (made : envelope 400 (errorEntries ((key, v) :: entries)) = .ok response) :
    ∃ cs, response.body = Text.Utf8.encode cs ∧ refusalStart key <+: Text.letters cs := by
  obtain ⟨bytes, _⟩ := Response.json_made _ _ _ response made
  obtain ⟨text, encoded, carried⟩ := (bind_eq_ok _ _ _).mp bytes
  have begins := refusal_begins key v entries text encoded
  cases written : Text.Utf8.encodeLetters text with
  | error e => simp [written] at carried
  | ok body =>
    simp only [written, Except.ok.injEq] at carried
    obtain ⟨cs, rfl, rfl⟩ := Json.encoded_chars text body written
    exact ⟨cs, carried.symm, begins⟩

-- A refusal with a number is told from one without by the name of what it tells first.
theorem refusal_told (numbered plain : Response) (v w : Value) (entries others : Entries)
    (madeNumbered : envelope 400 (errorEntries (("type", v) :: entries)) = .ok numbered)
    (madePlain : envelope 400 (errorEntries (("message", w) :: others)) = .ok plain) : numbered.body ≠ plain.body := by
  intro same
  obtain ⟨cs, body, begins⟩ := refusal_body "type" v entries numbered madeNumbered
  obtain ⟨ds, other, also⟩ := refusal_body "message" w others plain madePlain
  obtain rfl := Text.Utf8.encode_injective cs ds (by rw [← body, ← other, same])
  rcases List.prefix_or_prefix_of_prefix begins also with shorter | longer
  · exact absurd shorter (by decide)
  · exact absurd longer (by decide)

-- No other answer that the application makes is sent as that to an undefined method.
theorem undefined_told (debug : Bool) (answer : Answer) (method : String) (whole : Text.holdsHalf (Text.lower method) = false)
    (defined : ∀ other, answer ≠ .undefinedMethod other) (own : ∀ response, answer ≠ .custom response) :
    Dispatcher.send debug (.ok answer) ≠ undefinedSent method := by
  intro same
  obtain ⟨status, headers, body, sent⟩ := undefined_complete method whole
  have refused : status = 400 := send_status debug (.undefinedMethod method) status headers body sent
  obtain ⟨plain, madePlain, _, bodyPlain⟩ := send_response debug (.undefinedMethod method) status headers body sent
  rw [sent] at same
  have status := send_status debug answer status headers body same
  obtain ⟨response, made, _, bodyMade⟩ := send_response debug answer _ headers body same
  have equal : response.body = plain.body := bodyMade.trans bodyPlain.symm
  cases answer with
  | undefinedMethod other => exact defined other rfl
  | custom response => exact own response rfl
  | badParameter code message => exact refusal_told response plain _ _ _ _ made madePlain equal
  | badModel report => exact refusal_told response plain _ _ _ _ made madePlain equal
  | _ =>
    rw [refused] at status
    exact absurd status (by simp [Answer.status])

end Answer

-- The names of the verbs that a resource serves, in order.
structure Resource.Serves (resource : Resource) (names : List String) : Prop where
  sorted : names.Pairwise (· < ·)
  served : ∀ name, name ∈ names ↔ ∃ verb handler, verb.name = name ∧ resource.handler? verb = some handler

-- What the names of verbs tell of a request with a method, of how it is answered and of what is delivered.
structure Answer.Told (answer : Except Silence Answer) (delivery : Delivery) (names : List String) (method : String) : Prop where
  answered : Text.upper method ∈ names ↔ ∀ other, answer ≠ .ok (.undefinedMethod other)
  unlisted : Text.upper method ∉ names → delivery = undefinedSent (Text.upper method)
  listed : Text.upper method ∈ names → delivery = undefinedSent (Text.upper method) → ∃ own, answer = .ok (.custom own)
  complete : Text.holdsHalf (Text.lower (Text.upper method)) = false → Delivery.Complete (undefinedSent (Text.upper method))

theorem Verb.lower_name_whole (verb : Verb) : Text.holdsHalf (Text.lower verb.name) = false := by
  cases verb <;> decide

namespace Registry

theorem answer_told (made : List Resource) (registry : Registry) (debug : Bool) (scope : Scope) (channel : Channel) (path method : String)
    (sound : Sound made registry) (captures : Captures) (route : Route Resource)
    (answering : registry.router.table.answering? path = some (captures, route)) (routed : scope.path = some path)
    (named : scope.method = some method) (something : route.resource.isNothing = false) (names : List String)
    (serves : route.resource.Serves names) :
    Answer.Told (registry.answer scope channel).1 (Dispatcher.send debug (registry.answer scope channel).1) names method := by
  have complete := Answer.undefined_complete (Text.upper method)
  by_cases member : Text.upper method ∈ names
  · obtain ⟨verb, handler, upper, handled⟩ := (serves.served _).mp member
    obtain ⟨request, _, answered⟩ := registry.answer_served made scope channel path method sound captures route answering routed named
      something verb handler upper handled
    rw [answered]
    have defined := (registry.perform_found route.resource handler (registry.boundParser route.resource verb) request).2
    refine ⟨iff_of_true member defined, fun absent => absurd member absent, fun _ same => ?_, complete⟩
    have whole : Text.holdsHalf (Text.lower (Text.upper method)) = false := upper ▸ verb.lower_name_whole
    by_contra own
    cases performed : (registry.perform route.resource handler (registry.boundParser route.resource verb) request).1 with
    | error fault =>
      obtain ⟨status, headers, body, sent⟩ := complete whole
      rw [performed, sent] at same
      cases same
    | ok answer =>
      rw [performed] at same defined own
      refine Answer.undefined_told debug answer (Text.upper method) whole (fun other equal => ?_) (fun response equal => ?_) same
      · exact defined other (congrArg Except.ok equal)
      · exact own ⟨response, congrArg Except.ok equal⟩
  · have silent : ∀ verb, verb.name = Text.upper method → route.resource.handler? verb = none := by
      intro verb upper
      by_contra handled
      obtain ⟨handler, found⟩ := Option.ne_none_iff_exists'.mp handled
      exact member ((serves.served _).mpr ⟨verb, handler, upper, found⟩)
    rw [registry.answer_unserved made scope channel path method sound captures route answering routed named something silent]
    refine ⟨iff_of_false member fun defined => defined _ rfl, fun _ => ?_, fun present => absurd present member, complete⟩
    rw [Answer.send_undefined]

end Registry
end RestDispatch
