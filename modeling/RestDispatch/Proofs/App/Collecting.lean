import RestDispatch.App.Collection
import RestDispatch.App.Dispatch
import RestDispatch.Proofs.Value.Entries
import RestDispatch.Proofs.Value.Sequence
import Mathlib.Data.List.Forall2

set_option autoImplicit false

/-!
Collecting arguments. A body is received if it ends, and read if it does not lie too deep. Main statement:
collecting fails for a body that is not read, for what the parser refuses, or for what a model refuses, in
this order, and for nothing else.
-/
namespace RestDispatch

namespace Request

theorem of_scope_ok (scope : Scope) (channel : Channel) (captures : Entries) (request : Request)
    (built : Request.ofScope scope channel captures = .ok request) :
    ∃ method path, scope.method = some method ∧ scope.path = some path ∧
      request = { method := Text.upper method, path, captures, rawQuery := scope.query, rawHeaders := scope.headers, channel } := by
  rw [ofScope] at built
  cases method : scope.method with
  | none => simp [method] at built
  | some m =>
    cases path : scope.path with
    | none => simp [method, path] at built
    | some p =>
      simp only [method, path, Except.ok.injEq] at built
      exact ⟨m, p, rfl, rfl, built.symm⟩

-- The body lies deeper than it is read.
def TooDeep (request : Request) : Prop :=
  request.carriesBody = true ∧ request.contentType = "application/json" ∧
    ∃ bytes nest, request.body.1 = .ok bytes ∧ bytes ≠ [] ∧ Json.decodeBytes .ofBody bytes = .error (.tooDeep nest)

theorem body_kept (request next : Request) (bytes : Bytes) (read : request.body = (.ok bytes, next)) :
    ∃ channel, next = { request with channel, kept := some bytes } := by
  rw [body] at read
  cases kept : request.kept with
  | some old =>
    simp only [kept, Prod.mk.injEq, Except.ok.injEq] at read
    obtain ⟨rfl, rfl⟩ := read
    exact ⟨request.channel, by rw [← kept]⟩
  | none =>
    cases received : Channel.receiveBody request.channel.receives request.channel.pending with
    | mk result channel =>
      cases result with
      | error fault => simp [kept, received] at read
      | ok all =>
        simp only [kept, received, Prod.mk.injEq, Except.ok.injEq] at read
        obtain ⟨rfl, rfl⟩ := read
        exact ⟨channel, rfl⟩

end Request

namespace Request

-- What a body that is there amounts to.
def payload (request : Request) (bytes : Bytes) : Except Refusal Fields :=
  if request.contentType ≠ "application/json" then .error .unsupportedBody
  else
    match Json.decodeBytes .ofBody bytes with
    | .ok (.object fields) => .ok fields
    | .ok _ => .error .unsupportedBody
    | .error e => .error (if e.fault.kind ∈ Json.ReadError.valueKinds then .unsupportedBody else .fault e.fault)

theorem body_data_read (request : Request) (bytes : Bytes) (read : request.body = (.ok bytes, request)) :
    request.bodyData = (request.payload bytes, request) := by
  rw [bodyData, payload, json, read]
  by_cases typed : request.contentType = "application/json"
  · cases decoded : Json.decodeBytes .ofBody bytes with
    | error e => simp [typed, decoded]
    | ok value => cases value <;> simp [typed, decoded]
  · simp [typed]

theorem data_read (request : Request) (bytes : Bytes) (complete : request.body.1 = .ok bytes) :
    request.data.1 =
        (if request.carriesBody = false ∨ bytes = [] then .ok request.queryData
        else (request.payload bytes).map (putAll request.queryData)) ∧
      (request.data.2 = request ∨ ∃ channel, request.data.2 = { request with channel, kept := some bytes }) := by
  rw [data]
  cases carries : request.carriesBody with
  | false => exact ⟨rfl, Or.inl rfl⟩
  | true =>
    cases read : request.body with
    | mk result next =>
      obtain rfl : result = .ok bytes := by rw [← complete, read]
      obtain ⟨channel, rfl⟩ := body_kept request next bytes read
      cases bytes with
      | nil => exact ⟨rfl, Or.inr ⟨channel, rfl⟩⟩
      | cons byte rest =>
        have payload : bodyData { request with channel, kept := some (byte :: rest) } = (request.payload (byte :: rest), _) :=
          body_data_read { request with channel, kept := some (byte :: rest) } (byte :: rest) rfl
        simp only [payload, Bool.not_true, Bool.false_eq_true, Bool.true_eq_false, List.isEmpty_cons, if_false, reduceCtorEq, or_self]
        cases request.payload (byte :: rest) <;> exact ⟨rfl, Or.inr ⟨channel, rfl⟩⟩

-- Reading a request leaves it as it looks: what was received is kept, and read again from there.
theorem data_view (request : Request) (bytes : Bytes) (complete : request.body.1 = .ok bytes) :
    request.data.2.view = request.view := by
  rcases (request.data_read bytes complete).2 with same | ⟨channel, same⟩
  · rw [same]
  · generalize received : { request with channel, kept := some bytes } = kept at same
    have body : kept.body.1 = request.body.1 := by rw [complete, ← received, Request.body]
    have json : kept.json.1 = request.json.1 := by
      have again : kept.body = (.ok bytes, kept) := by rw [← received, Request.body]
      rw [Request.json, Request.json, again]
      cases read : request.body with
      | mk result next =>
        obtain rfl : result = .ok bytes := by rw [← complete, read]
        cases decoded : Json.decodeBytes .ofBody bytes <;> simp [decoded]
    have others : kept.view = { request.view with body := kept.body.1, json := kept.json.1 } := by
      rw [← received]
      rfl
    rw [same, others, body, json]
    rfl

end Request

def ParseFailure.refusal : ParseFailure → Refusal
  | .rejected rejection message => .badParameter rejection message
  | .raised fault => .fault fault

theorem parsed_arguments_ok_iff (parser : Option Parser) (data : Fields) (parsed : Entries) :
    parsedArguments parser data = .ok parsed ↔
      (parser = none ∧ parsed = []) ∨ ∃ found, parser = some found ∧ found.parse data = .ok parsed := by
  cases parser with
  | none => simp [parsedArguments, eq_comm]
  | some found =>
    cases outcome : found.parse data with
    | ok delivered => simp [parsedArguments, outcome]
    | error failure => cases failure <;> simp [parsedArguments, outcome]

-- Models are made in order up to the first that refuses.
theorem model_arguments_error_iff (data : Fields) (models : List (String × Model)) (refusal : Refusal) :
    modelArguments data models = .error refusal ↔
      ∃ before name m after errors, models = before ++ (name, m) :: after ∧
        (∀ entry ∈ before, ∃ made, entry.2.validate data = .ok made) ∧ m.validate data = .error errors ∧
        refusal = .badModel m errors := by
  induction models with
  | nil => simp [modelArguments]
  | cons entry rest ih =>
    obtain ⟨name, m⟩ := entry
    rw [modelArguments]
    constructor
    · intro refused
      cases read : m.validate data with
      | error errors =>
        simp only [read, Except.error.injEq] at refused
        exact ⟨[], name, m, rest, errors, rfl, by simp, read, refused.symm⟩
      | ok made =>
        rw [read] at refused
        rcases (bind_eq_error _ _ _).mp refused with later | ⟨_, _, never⟩
        · obtain ⟨before, other, n, after, errors, rfl, passed, stopped, same⟩ := ih.mp later
          refine ⟨(name, m) :: before, other, n, after, errors, rfl, ?_, stopped, same⟩
          exact List.forall_mem_cons.mpr ⟨⟨made, read⟩, passed⟩
        · cases never
    · rintro ⟨before, other, n, after, errors, split, passed, stopped, same⟩
      cases before with
      | nil =>
        obtain ⟨⟨rfl, rfl⟩, rfl⟩ : (name = other ∧ m = n) ∧ rest = after := by simpa using split
        simp only [stopped, same]
      | cons first others =>
        obtain ⟨rfl, rfl⟩ : (name, m) = first ∧ rest = others ++ (other, n) :: after := by simpa using split
        obtain ⟨⟨made, read⟩, passed⟩ := List.forall_mem_cons.mp passed
        have later := ih.mpr ⟨others, other, n, after, errors, rfl, passed, stopped, same⟩
        simp only [read, later]
        rfl

-- A model that accepts the data makes an argument of its parameter.
def Makes (data : Fields) (entry : String × Model) (argument : String × Content) : Prop :=
  ∃ made, entry.2.validate data = .ok made ∧ argument = (entry.1, .model entry.2.name made)

theorem model_arguments_ok_iff (data : Fields) (models : List (String × Model)) (built : List (String × Content)) :
    modelArguments data models = .ok built ↔ List.Forall₂ (Makes data) models built := by
  induction models generalizing built with
  | nil => simp [modelArguments, eq_comm]
  | cons entry rest ih =>
    obtain ⟨name, m⟩ := entry
    rw [modelArguments, List.forall₂_cons_left_iff]
    cases read : m.validate data with
    | error errors => simp [Makes, read]
    | ok made =>
      simp only [bind_eq_ok, Except.ok.injEq, ih]
      constructor
      · rintro ⟨others, later, rfl⟩
        exact ⟨_, others, ⟨made, read, rfl⟩, later, rfl⟩
      · rintro ⟨_, others, ⟨other, same, rfl⟩, later, rfl⟩
        obtain rfl : made = other := Except.ok.inj (read.symm.trans same)
        exact ⟨others, later, rfl⟩

theorem model_arguments_valid_iff (data : Fields) (models : List (String × Model)) :
    (∃ built, modelArguments data models = .ok built) ↔ ∀ entry ∈ models, ∃ made, entry.2.validate data = .ok made := by
  simp only [model_arguments_ok_iff]
  induction models with
  | nil => simp
  | cons entry rest ih =>
    simp only [List.forall_mem_cons, ← ih, List.forall₂_cons_left_iff]
    constructor
    · rintro ⟨_, argument, others, ⟨made, valid, _⟩, later, _⟩
      exact ⟨⟨made, valid⟩, others, later⟩
    · rintro ⟨⟨made, valid⟩, others, later⟩
      exact ⟨_, _, others, ⟨made, valid, rfl⟩, later, rfl⟩

theorem model_arguments_names (data : Fields) (models : List (String × Model)) (built : List (String × Content))
    (made : modelArguments data models = .ok built) : built.map Prod.fst = models.map Prod.fst := by
  have each := (model_arguments_ok_iff data models built).mp made
  clear made
  induction each with
  | nil => rfl
  | cons first others ih =>
    obtain ⟨value, _, rfl⟩ := first
    rw [List.map_cons, List.map_cons, ih]

theorem model_arguments_lookup (data : Fields) (models : List (String × Model)) (built : List (String × Content))
    (made : modelArguments data models = .ok built) (name : String) (content : Content) :
    built.lookup name = some content ↔
      ∃ m value, models.lookup name = some m ∧ m.validate data = .ok value ∧ content = .model m.name value := by
  have each := (model_arguments_ok_iff data models built).mp made
  clear made
  induction each with
  | nil => simp
  | @cons entry argument rest others first _ ih =>
    obtain ⟨key, m⟩ := entry
    obtain ⟨value, valid, rfl⟩ := first
    by_cases same : name = key
    · subst same
      simp [show m.validate data = .ok value from valid, eq_comm]
    · rw [lookup_cons_other others key name _ same, lookup_cons_other rest key name m same]
      exact ih

-- What is supplied to a handler: captures, overlaid by what a parser delivered, and that by models.
def Request.overlaid (request : Request) (parsed : Entries) (built : List (String × Content)) : List (String × Content) :=
  putAll (putAll (request.captures.map fun (name, v) => (name, .data v)) (parsed.map fun (name, v) => (name, .data v))) built

theorem Request.mem_overlaid (request : Request) (parsed : Entries) (built : List (String × Content)) (name : String) :
    name ∈ (request.overlaid parsed built).map Prod.fst ↔
      (name ∈ request.captures.map Prod.fst ∨ name ∈ parsed.map Prod.fst) ∨ name ∈ built.map Prod.fst := by
  rw [overlaid, mem_keys_put_all, mem_keys_put_all, keys_map_values request.captures, keys_map_values parsed]

namespace Signature

-- A handler looks at the data of its request if something is made of it.
def Looks (signature : Signature) (parser : Option Parser) : Prop := parser.isSome = true ∨ signature.models ≠ []

-- The data that something is made of.
def sought (signature : Signature) (parser : Option Parser) (request : Request) : Except Refusal Fields :=
  if parser.isNone && signature.models.isEmpty then .ok [] else request.data.1

-- A table of the signature's models, in whatever order it is.
theorem looks_iff_tested (signature : Signature) (parser : Option Parser) (models : List (String × Model))
    (listed : models.Perm signature.models) :
    signature.Looks parser ↔ (parser.isNone && models.isEmpty) = false := by
  have bare : models = [] ↔ signature.models = [] := ⟨fun none => (none ▸ listed).nil_eq.symm, fun none => (none ▸ listed).eq_nil⟩
  cases parser <;> simp [Looks, bare]

theorem sought_looking (signature : Signature) (parser : Option Parser) (request : Request) (looks : signature.Looks parser) :
    signature.sought parser request = request.data.1 := by
  rw [sought, (signature.looks_iff_tested parser signature.models (.refl _)).mp looks]
  rfl

theorem sought_blind (signature : Signature) (parser : Option Parser) (request : Request) (blind : ¬ signature.Looks parser) :
    parser = none ∧ signature.models = [] ∧ signature.sought parser request = .ok [] := by
  obtain ⟨unattached, bare⟩ := not_or.mp blind
  obtain rfl : parser = none := by simpa using unattached
  have bare := Classical.not_not.mp bare
  exact ⟨rfl, bare, by rw [sought, bare]; rfl⟩

theorem supplied_arguments_next (signature : Signature) (parser : Option Parser) (request : Request)
    (models : List (String × Model)) (listed : models.Perm signature.models) :
    (signature.Looks parser → (suppliedArguments models parser request).2 = request.data.2) ∧
    (¬ signature.Looks parser → (suppliedArguments models parser request).2 = request) := by
  rw [signature.looks_iff_tested parser models listed, suppliedArguments]
  cases parser.isNone && models.isEmpty with
  | true => simp
  | false =>
    refine ⟨fun _ => ?_, fun blind => absurd rfl blind⟩
    cases request.data with
    | mk result later => cases result <;> rfl

-- Supplying takes three steps that may refuse: reading, parsing, and making models.
theorem supplied_arguments_eq (signature : Signature) (parser : Option Parser) (request : Request)
    (models : List (String × Model)) (listed : models.Perm signature.models) :
    (suppliedArguments models parser request).1 = (do
      let data ← signature.sought parser request
      let parsed ← parsedArguments parser data
      let built ← modelArguments data models
      .ok (request.overlaid parsed built)) := by
  by_cases looks : signature.Looks parser
  · rw [signature.sought_looking parser request looks, suppliedArguments, (signature.looks_iff_tested parser models listed).mp looks]
    cases read : request.data with
    | mk result later => cases result <;> rfl
  · obtain ⟨rfl, bare, empty⟩ := signature.sought_blind parser request looks
    rw [bare] at listed
    rw [empty, listed.eq_nil]
    rfl

theorem collect_supplied (signature : Signature) (parser : Option Parser) (request : Request) (models : List (String × Model)) :
    signature.collect models parser request =
      ((suppliedArguments models parser request).1.map signature.select, (suppliedArguments models parser request).2) := by
  rw [collect]
  cases suppliedArguments models parser request with
  | mk result later => cases result <;> rfl

-- What collecting leaves of a request.
theorem collect_left_looking (signature : Signature) (parser : Option Parser) (request : Request) (looks : signature.Looks parser) :
    (signature.collect signature.models parser request).2 = request.data.2 := by
  rw [collect_supplied]
  exact (signature.supplied_arguments_next parser request signature.models (.refl _)).1 looks

theorem collect_left_blind (signature : Signature) (parser : Option Parser) (request : Request) (blind : ¬ signature.Looks parser) :
    (signature.collect signature.models parser request).2 = request := by
  rw [collect_supplied]
  exact (signature.supplied_arguments_next parser request signature.models (.refl _)).2 blind

theorem collect_eq (signature : Signature) (parser : Option Parser) (request : Request) :
    (signature.collect signature.models parser request).1 = (do
      let data ← signature.sought parser request
      let parsed ← parsedArguments parser data
      let built ← modelArguments data signature.models
      .ok (signature.select (request.overlaid parsed built))) := by
  rw [collect_supplied, signature.supplied_arguments_eq parser request signature.models (.refl _)]
  simp only [map_bind]
  rfl

theorem collect_view (signature : Signature) (parser : Option Parser) (request : Request) (bytes : Bytes)
    (complete : request.body.1 = .ok bytes) :
    (signature.collect signature.models parser request).2.view = request.view := by
  by_cases looks : signature.Looks parser
  · rw [signature.collect_left_looking parser request looks, request.data_view bytes complete]
  · rw [signature.collect_left_blind parser request looks]

theorem collect_ok_iff (signature : Signature) (parser : Option Parser) (request : Request) (arguments : List (String × Content)) :
    (signature.collect signature.models parser request).1 = .ok arguments ↔
      ∃ data, (signature.Looks parser → request.data.1 = .ok data) ∧ ∃ parsed, parsedArguments parser data = .ok parsed ∧
        ∃ built, modelArguments data signature.models = .ok built ∧ arguments = signature.select (request.overlaid parsed built) := by
  simp only [collect_eq, bind_eq_ok, Except.ok.injEq, @eq_comm _ _ arguments]
  by_cases looks : signature.Looks parser
  · simp only [sought_looking signature parser request looks, looks, true_imp_iff]
  · obtain ⟨rfl, bare, empty⟩ := sought_blind signature parser request looks
    constructor
    · rintro ⟨data, _, made⟩
      exact ⟨data, fun looking => absurd looking looks, made⟩
    · rintro ⟨data, _, parsed, delivered, built, made, same⟩
      rw [bare] at made
      exact ⟨[], empty, parsed, delivered, built, by rw [bare]; exact made, same⟩

end Signature

end RestDispatch
