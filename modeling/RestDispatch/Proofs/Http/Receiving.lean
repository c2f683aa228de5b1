import RestDispatch.Proofs.App.Deciding

set_option autoImplicit false

/-!
Reading the body of a request. It comes cut into messages, of which the first that announces no other is the last. Main
statement: however often it is read, and whether the arguments of a handler are collected before or not, the messages are
received once up to the last one, and every time the same bytes are read.
-/
namespace RestDispatch

-- The messages of a body: those that announce another, the one that closes it, and those that are none of it.
structure Channel.Cut (channel : Channel) (before : List Chunk) (last : Chunk) (after : List Chunk) (bytes : Bytes) : Prop where
  pending : channel.pending = before ++ last :: after
  announced : ∀ chunk ∈ before, chunk.more = true
  closing : last.more = false
  joined : bytes = before.flatMap Chunk.body ++ last.body

theorem Channel.whole_iff_cut (channel : Channel) (bytes : Bytes) :
    channel.Whole bytes ↔ ∃ before last after, channel.Cut before last after bytes := by
  constructor
  · rintro ⟨before, last, after, pending, announced, closing, joined⟩
    exact ⟨before, last, after, pending, announced, closing, joined⟩
  · rintro ⟨before, last, after, cut⟩
    exact ⟨before, last, after, cut.pending, cut.announced, cut.closing, cut.joined⟩

theorem Channel.receive_body_cut (receives : Nat) (before : List Chunk) (last : Chunk) (after : List Chunk)
    (announced : ∀ chunk ∈ before, chunk.more = true) (closing : last.more = false) :
    receiveBody receives (before ++ last :: after) =
      (.ok (before.flatMap Chunk.body ++ last.body), ⟨after, receives + before.length + 1⟩) := by
  induction before generalizing receives with
  | nil =>
    rw [List.nil_append, receiveBody, closing]
    rfl
  | cons first rest ih =>
    obtain ⟨more, others⟩ := List.forall_mem_cons.mp announced
    rw [List.cons_append, receiveBody, more, if_pos rfl, ih (receives + 1) others, List.flatMap_cons, List.append_assoc,
      List.length_cons]
    simp only [Except.map, Nat.add_assoc, Nat.add_comm 1]

namespace Request

-- A request whose body has been received: its messages are gone, and what they held is kept.
def received (request : Request) (before after : List Chunk) (bytes : Bytes) : Request :=
  { request with channel := ⟨after, request.channel.receives + before.length + 1⟩, kept := some bytes }

inductive Read where
  | body
  | json

inductive Reading where
  | bytes (result : Except Fault Bytes)
  | value (result : Except Fault Value)

def read (request : Request) : Read → Reading × Request
  | .body => (.bytes request.body.1, request.body.2)
  | .json => (.value request.json.1, request.json.2)

def readAll (request : Request) : List Read → List Reading × Request
  | [] => ([], request)
  | first :: rest =>
    let (reading, next) := request.read first
    let (readings, last) := next.readAll rest
    (reading :: readings, last)

-- What is read of a body of these bytes.
def Reading.ofBytes (bytes : Bytes) : Read → Reading
  | .body => .bytes (.ok bytes)
  | .json => .value ((Json.decodeBytes .ofBody bytes).mapError Json.ReadError.fault)

theorem json_body (request next : Request) (bytes : Bytes) (whole : request.body = (.ok bytes, next)) :
    request.json = ((Json.decodeBytes .ofBody bytes).mapError Json.ReadError.fault, next) := by
  rw [json, whole]
  cases decoded : Json.decodeBytes .ofBody bytes with
  | ok value =>
    simp only [decoded]
    rfl
  | error e =>
    simp only [decoded]
    rfl

theorem read_body (request next : Request) (bytes : Bytes) (whole : request.body = (.ok bytes, next)) (kind : Read) :
    request.read kind = (.ofBytes bytes kind, next) := by
  cases kind with
  | body => rw [read, whole, Reading.ofBytes]
  | json => rw [read, request.json_body next bytes whole, Reading.ofBytes]

theorem read_all_kept (request : Request) (bytes : Bytes) (kept : request.kept = some bytes) (reads : List Read) :
    request.readAll reads = (reads.map (Reading.ofBytes bytes), request) := by
  have whole : request.body = (.ok bytes, request) := by rw [body, kept]
  induction reads with
  | nil => rfl
  | cons first rest ih => simp only [readAll, request.read_body request bytes whole, ih, List.map_cons]

section
variable (request : Request) (before : List Chunk) (last : Chunk) (after : List Chunk) (bytes : Bytes) (unread : request.kept = none)
  (cut : request.channel.Cut before last after bytes)
include unread cut

theorem body_cut : request.body = (.ok bytes, request.received before after bytes) := by
  rw [body, unread, cut.pending, cut.joined]
  simp only [Channel.receive_body_cut request.channel.receives before last after cut.announced cut.closing, received]

theorem read_all_cut (reads : List Read) :
    request.readAll reads =
      (reads.map (Reading.ofBytes bytes), if reads.isEmpty then request else request.received before after bytes) := by
  cases reads with
  | nil => rfl
  | cons first rest =>
    have whole := request.body_cut before last after bytes unread cut
    simp only [readAll, request.read_body _ bytes whole, (request.received before after bytes).read_all_kept bytes rfl rest,
      List.map_cons, List.isEmpty_cons, Bool.false_eq_true, if_false]

-- The data of a request are not looked up in its body unless its method carries one.
theorem data_cut : request.data.2 = if request.carriesBody then request.received before after bytes else request := by
  rw [data]
  cases request.carriesBody with
  | false => rfl
  | true =>
    have read := request.body_cut before last after bytes unread cut
    cases bytes with
    | nil => simp [read]
    | cons byte rest =>
      have payload := body_data_read (request.received before after (byte :: rest)) (byte :: rest) rfl
      simp only [read, payload, Bool.not_true, Bool.false_eq_true, List.isEmpty_cons, if_false, if_true]
      cases (request.received before after (byte :: rest)).payload (byte :: rest) <;> rfl

theorem collect_cut (signature : Signature) (parser : Option Parser) :
    (signature.Looks parser ∧ request.carriesBody = true →
      (signature.collect signature.models parser request).2 = request.received before after bytes) ∧
    (¬ (signature.Looks parser ∧ request.carriesBody = true) →
      (signature.collect signature.models parser request).2 = request) := by
  have data := request.data_cut before last after bytes unread cut
  refine ⟨fun ⟨looks, carries⟩ => ?_, fun idle => ?_⟩
  · rw [signature.collect_left_looking parser request looks, data, if_pos carries]
  · by_cases looks : signature.Looks parser
    · have bodiless : request.carriesBody = false := by simpa [looks] using idle
      rw [signature.collect_left_looking parser request looks, data, bodiless]
      rfl
    · exact signature.collect_left_blind parser request looks

end

-- How a request is read whose body is whole: whatever collecting the arguments of a handler does to it, all readings of it
-- then give the same, and its messages are received once or, if nobody asks for them, not at all.
structure ReadsOnce (request : Request) (before after : List Chunk) (bytes : Bytes) (signature : Signature) (parser : Option Parser)
    (reads : List Read) : Prop where
  readings : ((signature.collect signature.models parser request).2.readAll reads).1 = reads.map (Reading.ofBytes bytes)
  received : (signature.Looks parser ∧ request.carriesBody = true) ∨ reads ≠ [] →
    ((signature.collect signature.models parser request).2.readAll reads).2 = request.received before after bytes
  unasked : ¬ (signature.Looks parser ∧ request.carriesBody = true) → reads = [] →
    ((signature.collect signature.models parser request).2.readAll reads).2 = request
  seen : (signature.collect signature.models parser request).2.view.body = .ok bytes ∧
    (signature.collect signature.models parser request).2.view.json = (Json.decodeBytes .ofBody bytes).mapError Json.ReadError.fault

theorem reads_once (request : Request) (before : List Chunk) (last : Chunk) (after : List Chunk) (bytes : Bytes)
    (unread : request.kept = none) (cut : request.channel.Cut before last after bytes) (signature : Signature) (parser : Option Parser)
    (reads : List Read) : request.ReadsOnce before after bytes signature parser reads := by
  obtain ⟨looked, idle⟩ := request.collect_cut before last after bytes unread cut signature parser
  have kept : (request.received before after bytes).body = (.ok bytes, request.received before after bytes) := rfl
  have whole := request.body_cut before last after bytes unread cut
  by_cases looks : signature.Looks parser ∧ request.carriesBody = true
  · have all := (request.received before after bytes).read_all_kept bytes rfl reads
    constructor
    case readings => rw [looked looks, all]
    case received => exact fun _ => by rw [looked looks, all]
    case unasked => exact fun blind => absurd looks blind
    case seen =>
      rw [looked looks]
      exact ⟨rfl, congrArg Prod.fst (json_body _ _ bytes kept)⟩
  · have all := request.read_all_cut before last after bytes unread cut reads
    constructor
    case readings => rw [idle looks, all]
    case received =>
      rintro (again | asked)
      · exact absurd again looks
      · rw [idle looks, all, if_neg (by simpa using asked)]
    case unasked => exact fun _ none => by rw [idle looks, all, none, List.isEmpty_nil, if_pos rfl]
    case seen =>
      rw [idle looks]
      exact ⟨congrArg Prod.fst whole, congrArg Prod.fst (json_body _ _ bytes whole)⟩

end Request
end RestDispatch
