import RestDispatch.Http.Response
import RestDispatch.Proofs.Text.Writing
import RestDispatch.Proofs.Text.Lowering

set_option autoImplicit false

/-!
The headers that a response is sent with. The media type and the length of the body come first, then the headers of the
caller with their names in small letters. Main statement: so the media type and the length stand there once exactly if the
caller does not give a header of that name, however it is spelled.
-/
namespace RestDispatch

theorem latin_bytes_sent (text : String) (latin : text.toList.all Text.isLatin = true) :
    ∃ bytes, latinBytes text = .ok bytes ∧ Text.latinText bytes = text := by
  obtain ⟨bytes, written, back⟩ := Text.latin_bytes_read text latin
  exact ⟨bytes, by rw [latinBytes, written], back⟩

namespace Response

-- A header as it is read by whom it is sent to.
def readHeader (header : Bytes × Bytes) : String × String := (Text.latinText header.1, Text.latinText header.2)

def lowered (header : String × String) : String × String := (Text.lower header.1, header.2)

def isLatinHeader (header : String × String) : Bool :=
  header.1.toList.all Text.isLatin && header.2.toList.all Text.isLatin

structure Latin (response : Response) : Prop where
  mediaType : response.mediaType.toList.all Text.isLatin = true
  headers : response.headers.all isLatinHeader = true

def occurrences (name : String) (sent : List (String × String)) : Nat := sent.countP (·.1 = name)

-- What the headers of a response are when they are read, and when those that frame its body stand alone.
structure Framed (response : Response) (sent : List (String × String)) : Prop where
  listed : sent = [("content-type", response.mediaType), ("content-length", toString response.body.length)] ++ response.headers.map lowered
  typed : occurrences "content-type" sent = 1 + occurrences "content-type" (response.headers.map lowered)
  measured : occurrences "content-length" sent = 1 + occurrences "content-length" (response.headers.map lowered)
  typedOnce : occurrences "content-type" sent = 1 ↔ ∀ header ∈ response.headers, Text.lower header.1 ≠ "content-type"
  measuredOnce : occurrences "content-length" sent = 1 ↔ ∀ header ∈ response.headers, Text.lower header.1 ≠ "content-length"

theorem decimal_bytes_read (n : Nat) : Text.latinText (decimalBytes n) = toString n := by
  have latin : (Nat.toDigits 10 n).all Text.isLatin = true := by
    rw [List.all_eq_true]
    intro c member
    have digit : c.isDigit = true := Nat.isDigit_of_mem_toDigits (by decide) (by decide) member
    have low : c.toNat ≤ 57 := (Char.isDigit_iff_toNat.mp digit).2
    simp only [Text.isLatin, decide_eq_true_eq]
    omega
  exact Text.latin_chars_back _ latin

theorem own_headers_read (headers : List (String × String)) (latin : headers.all isLatinHeader = true) :
    ∃ own, ownHeaders headers = .ok own ∧ own.map readHeader = headers.map lowered := by
  induction headers with
  | nil => exact ⟨[], rfl, rfl⟩
  | cons header rest ih =>
    obtain ⟨first, later⟩ := Bool.and_eq_true_iff.mp latin
    obtain ⟨nameLatin, valueLatin⟩ := Bool.and_eq_true_iff.mp first
    obtain ⟨name, nameSent, nameRead⟩ := latin_bytes_sent _ (Text.lower_latin header.1 nameLatin)
    obtain ⟨value, valueSent, valueRead⟩ := latin_bytes_sent header.2 valueLatin
    obtain ⟨others, othersSent, othersRead⟩ := ih later
    refine ⟨(name, value) :: others, ?_, ?_⟩
    · rw [ownHeaders, nameSent, valueSent, othersSent]
      rfl
    · rw [List.map_cons, List.map_cons, othersRead, readHeader, lowered, nameRead, valueRead]

theorem messages_read (response : Response) (latin : response.Latin) :
    ∃ raw, response.messages = .ok [.start response.status raw, .body response.body] ∧
      raw.map readHeader =
        [("content-type", response.mediaType), ("content-length", toString response.body.length)] ++ response.headers.map lowered := by
  obtain ⟨mediaType, typeSent, typeRead⟩ := latin_bytes_sent response.mediaType latin.mediaType
  obtain ⟨own, ownSent, ownRead⟩ := own_headers_read response.headers latin.headers
  refine ⟨_, by rw [messages, typeSent, ownSent]; rfl, ?_⟩
  have named : Text.latinText contentTypeName = "content-type" ∧ Text.latinText contentLengthName = "content-length" := by decide
  rw [List.map_append, ownRead, List.map_cons, List.map_cons, List.map_nil, readHeader, readHeader, typeRead, named.1, named.2,
    decimal_bytes_read]

theorem framed_of_listed (response : Response) (sent : List (String × String))
    (listed : sent = [("content-type", response.mediaType), ("content-length", toString response.body.length)] ++
      response.headers.map lowered) : response.Framed sent := by
  have absent : ∀ name, occurrences name (response.headers.map lowered) = 0 ↔ ∀ header ∈ response.headers, Text.lower header.1 ≠ name := by
    intro name
    simp only [occurrences, List.countP_eq_zero, List.forall_mem_map, lowered, decide_eq_true_eq, ne_eq]
  have typed : occurrences "content-type" sent = 1 + occurrences "content-type" (response.headers.map lowered) := by
    simp [listed, occurrences, Nat.add_comm]
  have measured : occurrences "content-length" sent = 1 + occurrences "content-length" (response.headers.map lowered) := by
    simp [listed, occurrences, Nat.add_comm]
  refine ⟨listed, typed, measured, ?_, ?_⟩
  · rw [typed, ← absent]
    omega
  · rw [measured, ← absent]
    omega

theorem json_made (content : Content) (status : Int) (headers : List (String × String)) (response : Response)
    (made : json content status headers = .ok response) :
    content.jsonBytes = .ok response.body ∧ response.status = status ∧ response.headers = headers ∧
      response.mediaType = "application/json" := by
  rw [json] at made
  cases written : content.jsonBytes with
  | error fault =>
    rw [written] at made
    cases made
  | ok body =>
    rw [written] at made
    obtain rfl := Except.ok.inj made
    exact ⟨rfl, rfl, rfl, rfl⟩

-- A response whose headers can be written is sent as one start and one body. Of what frames the body, the first is right;
-- there are as many more as the caller has headers of these names.
theorem framed_once_unless_named :
    (∀ response : Response, response.Latin →
      ∃ raw, response.messages = .ok [.start response.status raw, .body response.body] ∧ response.Framed (raw.map readHeader)) ∧
    ∀ content status headers response, json content status headers = .ok response → headers.all isLatinHeader = true →
      content.jsonBytes = .ok response.body ∧ response.mediaType = "application/json" ∧ response.headers = headers ∧
        ∃ raw, response.messages = .ok [.start status raw, .body response.body] ∧ response.Framed (raw.map readHeader) := by
  have framed : ∀ response : Response, response.Latin →
      ∃ raw, response.messages = .ok [.start response.status raw, .body response.body] ∧ response.Framed (raw.map readHeader) := by
    intro response latin
    obtain ⟨raw, sent, read⟩ := messages_read response latin
    exact ⟨raw, sent, framed_of_listed response _ read⟩
  refine ⟨framed, fun content status headers response made latin => ?_⟩
  obtain ⟨written, rfl, rfl, mediaType⟩ := json_made content status headers response made
  have whole : response.Latin := ⟨by rw [mediaType]; decide, latin⟩
  exact ⟨written, mediaType, rfl, framed response whole⟩

-- A page of hypertext, declared as such in a header of its own.
def page : Response := { body := Text.Utf8.bytes "hi", headers := [("Content-Type", "text/html"), ("X-Author", "Ada")] }

theorem page_typed_twice :
    page.Latin ∧ ∃ raw, page.messages = .ok [.start 200 raw, .body page.body] ∧
      occurrences "content-type" (raw.map readHeader) ≠ 1 := by
  refine ⟨⟨by decide, by decide⟩, _, rfl, ?_⟩
  decide

theorem page_measured_once :
    page.Latin ∧ ∃ raw, page.messages = .ok [.start 200 raw, .body page.body] ∧
      occurrences "content-length" (raw.map readHeader) = 1 ∧ ("x-author", "Ada") ∈ raw.map readHeader := by
  have latin : page.Latin := ⟨by decide, by decide⟩
  obtain ⟨raw, sent, framed⟩ := framed_once_unless_named.1 page latin
  refine ⟨latin, raw, sent, framed.measuredOnce.mpr (by decide), ?_⟩
  rw [framed.listed]
  decide

end Response
end RestDispatch
