import RestDispatch.App.Dispatch
import RestDispatch.Proofs.Json.Halves
import RestDispatch.Proofs.Json.Written

set_option autoImplicit false

/-!
Sending answers. Main statement: an answer is sent as one start and one body if what it carries can be
written, and otherwise sending it is a fault and nothing is sent.
-/
namespace RestDispatch

open Text (holdsHalf)

theorem latin_bytes_is_ok (text : String) : (latinBytes text).isOk = text.toList.all Text.isLatin := by
  rw [← Text.latin_bytes_is_ok, latinBytes]
  cases Text.latinBytes? text <;> rfl

namespace Response

def encodableHeader (header : String × String) : Bool :=
  (Text.lower header.1).toList.all Text.isLatin && header.2.toList.all Text.isLatin

-- Headers and the media type are written in one byte a character.
def encodable (response : Response) : Bool :=
  response.mediaType.toList.all Text.isLatin && response.headers.all encodableHeader

theorem own_headers_is_ok (headers : List (String × String)) : (ownHeaders headers).isOk = headers.all encodableHeader := by
  induction headers with
  | nil => rfl
  | cons header rest ih =>
    obtain ⟨name, value⟩ := header
    rw [List.all_cons, encodableHeader, ← latin_bytes_is_ok, ← latin_bytes_is_ok, ← ih, ownHeaders]
    cases latinBytes (Text.lower name) with
    | error fault => rfl
    | ok name =>
      cases latinBytes value with
      | error fault => rfl
      | ok value => cases ownHeaders rest <;> rfl

end Response

namespace Delivery

variable {ε η : Type}

-- A start and a body, and nothing else.
def Complete (delivery : Except ε (List Message)) : Prop := ∃ status headers body, delivery = .ok [.start status headers, .body body]

def Failed (delivery : Except ε (List Message)) : Prop := ∃ e, delivery = .error e

theorem complete_map_error {delivery : Except ε (List Message)} (complete : Complete delivery) (change : ε → η) :
    Complete (delivery.mapError change) := by
  obtain ⟨status, headers, body, rfl⟩ := complete
  exact ⟨status, headers, body, rfl⟩

theorem failed_map_error {delivery : Except ε (List Message)} (failed : Failed delivery) (change : ε → η) :
    Failed (delivery.mapError change) := by
  obtain ⟨e, rfl⟩ := failed
  exact ⟨change e, rfl⟩

end Delivery

theorem Response.messages_cases (response : Response) :
    (response.encodable = true ∧ Delivery.Complete response.messages) ∨
    (response.encodable = false ∧ Delivery.Failed response.messages) := by
  rw [encodable, ← latin_bytes_is_ok, ← own_headers_is_ok, messages]
  cases latinBytes response.mediaType with
  | error fault => exact Or.inr ⟨rfl, fault, rfl⟩
  | ok mediaType =>
    cases ownHeaders response.headers with
    | error fault => exact Or.inr ⟨rfl, fault, rfl⟩
    | ok own => exact Or.inl ⟨rfl, response.status, _, response.body, rfl⟩

namespace Json

def Writable (bounds : Bounds) (v : Value) : Prop := ∃ text, encode bounds v = .ok text

-- What is said in the envelopes of errors: texts and small numbers, which every writer with room for numbers can write.
inductive Short : Value → Prop where
  | text (t : List Letter) : Short (.text t)
  | number (i : Int) (small : i.natAbs < 10000) : Short (.int i)

theorem writable_short (bounds : Bounds) (roomy : bounds.Roomy) (v : Value) (short : Short v) : Writable bounds v := by
  cases short with
  | text t => exact ⟨stringText t, rfl⟩
  | number i small =>
    have digits : (Nat.toDigits 10 i.natAbs).length ≤ 4 := (Nat.length_toDigits_le_iff (by omega) (by omega)).mpr small
    have portable : (Value.int i).portable = true := decide_eq_true (Nat.le_trans digits (by decide))
    exact ⟨_, (int_text_ok_iff bounds i _).mpr ⟨bounds.roomy_int roomy i portable, rfl⟩⟩

theorem writable_fields (bounds : Bounds) (fields : Fields) (each : ∀ field ∈ fields, Writable bounds field.2) :
    ∃ texts, encodeFields bounds fields = .ok texts := by
  induction fields with
  | nil => exact ⟨[], rfl⟩
  | cons field rest ih =>
    obtain ⟨text, first⟩ := each field List.mem_cons_self
    obtain ⟨texts, later⟩ := ih fun other member => each other (List.mem_cons_of_mem _ member)
    rw [encodeFields, first, later]
    exact ⟨_, rfl⟩

theorem writable_object (bounds : Bounds) (room : bounds.exhausted = false) (fields : Fields)
    (each : ∀ field ∈ fields, Writable bounds.inside field.2) : Writable bounds (.object fields) := by
  obtain ⟨texts, written⟩ := writable_fields bounds.inside fields each
  exact ⟨_, (nested_ok_iff bounds _ _ _ _).mpr ⟨room, texts, written, rfl⟩⟩

theorem writable_entries (bounds : Bounds) (room : bounds.exhausted = false) (entries : Entries)
    (each : ∀ entry ∈ entries, Writable bounds.inside entry.2) : Writable bounds (.ofEntries entries) := by
  refine writable_object bounds room _ fun field member => ?_
  obtain ⟨entry, inside, rfl⟩ := List.mem_map.mp member
  exact each entry inside

end Json

theorem Response.json_is_ok (v : Value) (status : Int) (headers : List (String × String)) (writable : Json.Writable .ofBody v) :
    (Response.json (.data v) status headers).isOk = !v.holdsHalf := by
  obtain ⟨text, written⟩ := writable
  rw [← Json.encode_half _ v text written, ← Text.Utf8.encode_letters_is_ok, Response.json, Content.jsonBytes, Content.encode, written]
  simp only [bind, Except.bind]
  cases Text.Utf8.encodeLetters text <;> rfl

theorem Value.of_entries_half (entries : Entries) :
    (Value.ofEntries entries).holdsHalf = entries.any fun entry => Text.holdsHalf entry.1 || entry.2.holdsHalf := by
  rw [Value.ofEntries, Value.holdsHalf]
  induction entries with
  | nil => rfl
  | cons entry rest ih => rw [List.map_cons, Value.fieldsHoldHalf, Text.letters_of_any_half, ih, List.any_cons]

theorem Value.text_half (text : String) : (Value.text text).holdsHalf = Text.holdsHalf text := by
  rw [Value.holdsHalf, Text.letters_of_any_half]

namespace Answer

-- The headers of an envelope are always written, so it is only its texts that matter.
theorem envelope_cases (code : Int) (entries : Entries) (small : code.natAbs < 10000)
    (writable : ∀ entry ∈ entries, Json.Writable Json.Bounds.ofBody.inside entry.2) (half : Bool)
    (texts : (Value.ofEntries (("code", .int code) :: entries)).holdsHalf = half) :
    (half = false ∧ Delivery.Complete ((envelope code entries).bind Response.messages)) ∨
    (half = true ∧ Delivery.Failed ((envelope code entries).bind Response.messages)) := by
  have whole : Json.Writable .ofBody (.ofEntries (("code", .int code) :: entries)) := by
    refine Json.writable_entries _ rfl _ fun entry member => ?_
    rcases List.mem_cons.mp member with rfl | other
    · exact Json.writable_short _ (Json.Bounds.roomy_inside _ Json.Bounds.roomy_body) _ (.number code small)
    · exact writable entry other
  have made := Response.json_is_ok _ code [] whole
  rw [texts] at made
  rw [envelope]
  cases result : Response.json (.data (.ofEntries (("code", .int code) :: entries))) code [] with
  | error fault =>
    rw [result] at made
    cases half with
    | false => cases made
    | true => exact Or.inr ⟨rfl, fault, rfl⟩
  | ok response =>
    rw [result] at made
    cases half with
    | true => cases made
    | false =>
      refine Or.inl ⟨rfl, ?_⟩
      have framed : response.mediaType = "application/json" ∧ response.headers = [] := by
        rw [Response.json] at result
        cases body : (Content.data (.ofEntries (("code", .int code) :: entries))).jsonBytes with
        | error fault => simp [body, bind, Except.bind] at result
        | ok bytes =>
          simp only [body, bind, Except.bind, Except.ok.injEq] at result
          rw [← result]
          exact ⟨rfl, rfl⟩
      rcases response.messages_cases with ⟨_, complete⟩ | ⟨refused, _⟩
      · exact complete
      · rw [Response.encodable, framed.1, framed.2] at refused
        exact absurd refused (by decide)

-- Whether what an answer carries can be written.
def writable (debug : Bool) : Answer → Bool
  | .notFound => true
  | .unsupportedBody => true
  | .success _ => true
  | .undefinedMethod method => !holdsHalf (Text.lower method)
  | .badParameter _ message => !holdsHalf message
  | .badModel report => !holdsHalf report
  | .failed fault => !(debug && holdsHalf fault.traceback)
  | .custom response => response.encodable

theorem message_half (text : List Letter) :
    (Value.ofEntries [("message", .text text)]).holdsHalf = text.any Text.Utf8.isHalf := by
  have key : holdsHalf "message" = false := by decide
  simp only [Value.of_entries_half, List.any_cons, List.any_nil, Value.holdsHalf, key, Bool.false_or, Bool.or_false]

theorem error_cases (code : Int) (entries : Entries) (small : code.natAbs < 10000) (short : ∀ entry ∈ entries, Json.Short entry.2)
    (half : Bool) (texts : (Value.ofEntries entries).holdsHalf = half) :
    (half = false ∧ Delivery.Complete ((envelope code (errorEntries entries)).bind Response.messages)) ∨
    (half = true ∧ Delivery.Failed ((envelope code (errorEntries entries)).bind Response.messages)) := by
  refine envelope_cases code _ small (fun entry member => ?_) half ?_
  · obtain rfl := List.mem_singleton.mp member
    have roomy := Json.Bounds.roomy_inside _ (Json.Bounds.roomy_inside _ Json.Bounds.roomy_body)
    exact Json.writable_entries _ rfl entries fun inner listed => Json.writable_short _ roomy _ (short inner listed)
  · have keys : holdsHalf "code" = false ∧ holdsHalf "error" = false := by decide
    rw [Value.of_entries_half, errorEntries, List.any_cons, List.any_cons, List.any_nil, texts, keys.1, keys.2]
    cases half <;> rfl

theorem not_cases {ε : Type} (delivery : Except ε (List Message)) (half : Bool)
    (cases : half = false ∧ Delivery.Complete delivery ∨ half = true ∧ Delivery.Failed delivery) :
    (!half) = true ∧ Delivery.Complete delivery ∨ (!half) = false ∧ Delivery.Failed delivery := by
  rcases cases with ⟨rfl, complete⟩ | ⟨rfl, failed⟩
  · exact Or.inl ⟨rfl, complete⟩
  · exact Or.inr ⟨rfl, failed⟩

theorem short_message (text : List Letter) (entry : String × Value) (member : entry ∈ [("message", Value.text text)]) :
    Json.Short entry.2 := by
  obtain rfl := List.mem_singleton.mp member
  exact .text text

theorem writable_message (text : List Letter) (entry : String × Value) (member : entry ∈ [("message", Value.text text)]) :
    Json.Writable Json.Bounds.ofBody.inside entry.2 :=
  Json.writable_short _ (Json.Bounds.roomy_inside _ Json.Bounds.roomy_body) _ (short_message text entry member)

-- Parameters and models are refused in the same way, with a number and a message.
theorem refusal_cases (code : Int) (message : String) (small : code.natAbs < 10000) :
    let entries : Entries := [("type", .int code), ("message", .text message)]
    (!holdsHalf message) = true ∧ Delivery.Complete ((envelope 400 (errorEntries entries)).bind Response.messages) ∨
    (!holdsHalf message) = false ∧ Delivery.Failed ((envelope 400 (errorEntries entries)).bind Response.messages) := by
  intro entries
  refine not_cases _ _ (error_cases 400 _ (by decide) (fun entry member => ?_) _ ?_)
  · rcases List.mem_cons.mp member with rfl | other
    · exact .number code small
    · exact short_message message entry other
  · have keys : holdsHalf "type" = false ∧ holdsHalf "message" = false := by decide
    rw [Value.of_entries_half, List.any_cons, List.any_cons, List.any_nil, keys.1, keys.2, Value.text_half]
    exact Bool.or_false _

-- The envelopes differ in their texts, and in nothing else that could keep them from being sent.
theorem written_cases (debug : Bool) (answer : Answer) (coded : ∀ code message, answer = .badParameter code message → code < 10000) :
    (answer.writable debug = true ∧ Delivery.Complete ((answer.response debug).bind Response.messages)) ∨
    (answer.writable debug = false ∧ Delivery.Failed ((answer.response debug).bind Response.messages)) := by
  cases answer with
  | notFound =>
    refine not_cases _ false (envelope_cases 404 _ (by decide) (writable_message _) false ?_)
    decide
  | undefinedMethod method =>
    rw [response, writable]
    refine not_cases _ _ (error_cases 400 _ (by decide) (short_message _) _ ?_)
    have rest : holdsHalf " method is undefined." = false := by decide
    rw [message_half, List.any_append, Text.letters_of_any_half, Text.letters_of_any_half, rest, Bool.or_false]
  | unsupportedBody =>
    rw [response, writable]
    refine not_cases _ false (error_cases 403 _ (by decide) (short_message _) false ?_)
    rw [message_half]
    decide
  | badParameter code message => exact refusal_cases code message (coded code message rfl)
  | badModel report => exact refusal_cases 2 report (by decide)
  | failed fault =>
    rw [response, writable]
    refine not_cases _ _ (envelope_cases 500 _ (by decide) (fun entry member => ?_) _ ?_)
    · rcases List.mem_append.mp member with first | shown
      · exact writable_message _ entry first
      · cases debug with
        | false => cases shown
        | true =>
          obtain rfl := List.mem_singleton.mp shown
          exact Json.writable_short _ (Json.Bounds.roomy_inside _ Json.Bounds.roomy_body) _ (.text _)
    · have keys : holdsHalf "code" = false ∧ holdsHalf "message" = false ∧ holdsHalf "traceback" = false ∧
          holdsHalf "Internal Server Error" = false := by decide
      have number : (Value.int 500).holdsHalf = false := rfl
      rw [Value.of_entries_half]
      cases debug with
      | false =>
        simp only [List.any_cons, List.any_nil, List.singleton_append, Bool.false_eq_true, if_false, Value.text_half, keys, number,
          Bool.false_or, Bool.false_and]
      | true =>
        simp only [List.any_cons, List.any_nil, List.singleton_append, if_true, Value.text_half, keys, number, Bool.false_or,
          Bool.or_false, Bool.true_and]
  | success body =>
    refine Or.inl ⟨rfl, ?_⟩
    rw [response]
    rcases (jsonResponse 200 body).messages_cases with ⟨_, complete⟩ | ⟨refused, _⟩
    · exact complete
    · have plain : (jsonResponse 200 body).encodable = true := (by decide : (jsonResponse 200 []).encodable = true)
      rw [plain] at refused
      cases refused
  | custom response => exact response.messages_cases

theorem send_cases (debug : Bool) (answer : Answer) (coded : ∀ code message, answer = .badParameter code message → code < 10000) :
    (answer.writable debug = true ∧ Delivery.Complete (Dispatcher.send debug (.ok answer))) ∨
    (answer.writable debug = false ∧ Delivery.Failed (Dispatcher.send debug (.ok answer))) :=
  (written_cases debug answer coded).imp (fun written => ⟨written.1, Delivery.complete_map_error written.2 _⟩)
    fun unwritten => ⟨unwritten.1, Delivery.failed_map_error unwritten.2 _⟩

theorem send_eq_ok (debug : Bool) (answer : Answer) (messages : List Message) :
    Dispatcher.send debug (.ok answer) = .ok messages ↔
      ∃ response, answer.response debug = .ok response ∧ response.messages = .ok messages :=
  (map_error_eq_ok _ Silence.raised messages).trans (bind_eq_ok _ _ messages)

end Answer
end RestDispatch
