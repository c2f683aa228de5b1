import RestDispatch.Proofs.App.Acceptance
import RestDispatch.Proofs.Handler.ModelParameters

set_option autoImplicit false

/-!
What the arguments of a call are made of. One name may be met by a model, by the parser and by the path, and the request
has a name of its own. Main statement: under every name that a handler takes it is given what the model makes, else what
the parser delivers, else what the path captured, and the request under its name exactly if a parameter has that name;
parser and models read the same data, and nothing is read without them.
-/
namespace RestDispatch

theorem parsed_arguments_distinct (parser : Option Parser) (data : Fields) (parsed : Entries)
    (delivered : parsedArguments parser data = .ok parsed) : (parsed.map Prod.fst).Nodup := by
  rcases (parsed_arguments_ok_iff parser data parsed).mp delivered with ⟨_, rfl⟩ | ⟨found, _, outcome⟩
  · exact List.nodup_nil
  · obtain ⟨_, rfl⟩ := (found.parse_ok_iff data parsed).mp outcome
    exact keys_put_all_nodup [] _ List.nodup_nil

theorem Request.lookup_overlaid (request : Request) (parsed : Entries) (built : List (String × Content)) (name : String)
    (distinctParsed : (parsed.map Prod.fst).Nodup) (distinctBuilt : (built.map Prod.fst).Nodup) :
    (request.overlaid parsed built).lookup name =
      (built.lookup name).or (((parsed.lookup name).or (request.captures.lookup name)).map .data) := by
  rw [overlaid, lookup_put_all, lookup_put_all,
    lookup_perm _ _ name (List.reverse_perm built) (by rwa [List.map_reverse, List.nodup_reverse]),
    lookup_perm _ _ name (List.reverse_perm _) (by rwa [List.map_reverse, List.nodup_reverse, keys_map_values parsed]),
    lookup_map_values parsed, lookup_map_values request.captures, Option.map_or]

namespace Signature

-- Where the argument of a name comes from. A model hides what the parser delivers, and that hides what the path captured.
inductive Supplies (signature : Signature) (data : Fields) (parsed captured : Entries) (name : String) : Content → Prop where
  | model (m : Model) (made : Value) (annotated : signature.models.lookup name = some m) (valid : m.validate data = .ok made) :
      Supplies signature data parsed captured name (.model m.name made)
  | parsed (v : Value) (plain : name ∉ signature.models.map Prod.fst) (delivered : parsed.lookup name = some v) :
      Supplies signature data parsed captured name (.data v)
  | captured (v : Value) (plain : name ∉ signature.models.map Prod.fst) (undelivered : name ∉ parsed.map Prod.fst)
      (held : captured.lookup name = some v) : Supplies signature data parsed captured name (.data v)

-- A parameter asks for the request by its name, of whatever kind it is.
def Asks (signature : Signature) : Prop := ∃ p ∈ signature.parameters, p.name = requestName

-- Arguments that are made of the sources: what is supplied under the names that are taken, and the request.
structure Gathers (signature : Signature) (data : Fields) (parsed captured : Entries) (arguments : List (String × Content)) :
    Prop where
  request : arguments.lookup requestName = some .request ↔ signature.Asks
  others : ∀ name, ¬ (name = requestName ∧ signature.Asks) → ∀ content,
    arguments.lookup name = some content ↔ signature.Takes name ∧ signature.Supplies data parsed captured name content

theorem wants_request_iff (signature : Signature) : signature.wantsRequest = true ↔ signature.Asks := by
  simp [wantsRequest, Asks]

theorem lookup_overlaid_iff (signature : Signature) (data : Fields) (parsed : Entries) (built : List (String × Content))
    (request : Request) (distinct : (signature.parameters.map (·.name)).Nodup) (distinctParsed : (parsed.map Prod.fst).Nodup)
    (made : modelArguments data signature.models = .ok built) (name : String) (content : Content) :
    (request.overlaid parsed built).lookup name = some content ↔
      signature.Supplies data parsed request.captures name content := by
  have names := model_arguments_names data signature.models built made
  have distinctBuilt : (built.map Prod.fst).Nodup := names ▸ signature.models_distinct distinct
  rw [request.lookup_overlaid parsed built name distinctParsed distinctBuilt]
  constructor
  · intro found
    cases modelled : built.lookup name with
    | some argument =>
      obtain ⟨m, value, annotated, valid, rfl⟩ := (model_arguments_lookup data signature.models built made name argument).mp modelled
      obtain rfl : Content.model m.name value = content := by simpa [modelled] using found
      exact .model m value annotated valid
    | none =>
      have plain : name ∉ signature.models.map Prod.fst := names ▸ (lookup_eq_none_iff built name).mp modelled
      cases delivered : parsed.lookup name with
      | some v =>
        obtain rfl : Content.data v = content := by simpa [modelled, delivered] using found
        exact .parsed v plain delivered
      | none =>
        obtain ⟨v, held, rfl⟩ : ∃ v, request.captures.lookup name = some v ∧ Content.data v = content := by
          simpa [modelled, delivered] using found
        exact .captured v plain ((lookup_eq_none_iff parsed name).mp delivered) held
  · intro supplied
    cases supplied with
    | model m value annotated valid =>
      rw [(model_arguments_lookup data signature.models built made name _).mpr ⟨m, value, annotated, valid, rfl⟩]
      rfl
    | parsed v plain delivered =>
      rw [(lookup_eq_none_iff built name).mpr (names ▸ plain), delivered]
      rfl
    | captured v plain undelivered held =>
      rw [(lookup_eq_none_iff built name).mpr (names ▸ plain), (lookup_eq_none_iff parsed name).mpr undelivered, held]
      rfl

theorem select_gathers (signature : Signature) (data : Fields) (parsed : Entries) (built : List (String × Content))
    (request : Request) (distinct : (signature.parameters.map (·.name)).Nodup) (distinctParsed : (parsed.map Prod.fst).Nodup)
    (made : modelArguments data signature.models = .ok built) :
    signature.Gathers data parsed request.captures (signature.select (request.overlaid parsed built)) := by
  have others : ∀ name, ¬ (name = requestName ∧ signature.Asks) → ∀ content,
      (signature.select (request.overlaid parsed built)).lookup name = some content ↔
        signature.Takes name ∧ signature.Supplies data parsed request.captures name content := by
    intro name unasked content
    -- Without a parameter that has the name of the request, that name is one as any other.
    have takes : signature.takesKeywords = true ∨ name ∈ signature.argumentNames ↔ signature.Takes name := by
      rw [Takes, or_comm, mem_argument_names]
      refine or_congr_left ⟨And.right, fun ⟨p, member, named, byName⟩ => ⟨?_, p, member, named, byName⟩⟩
      rintro rfl
      exact unasked ⟨rfl, p, member, named⟩
    rw [lookup_select, if_neg (mt (And.imp_right signature.wants_request_iff.mp) unasked), ← takes,
      ← signature.lookup_overlaid_iff data parsed built request distinct distinctParsed made name content]
    split
    · rename_i accepted
      simp only [accepted, true_and]
    · rename_i refused
      simp [refused]
  refine ⟨⟨fun found => ?_, fun asks => ?_⟩, others⟩
  · by_contra unasked
    obtain ⟨_, supplied⟩ := (others requestName (unasked ·.2) .request).mp found
    cases supplied
  · rw [lookup_select, if_pos ⟨rfl, signature.wants_request_iff.mpr asks⟩]

theorem select_distinct (signature : Signature) (supplied : List (String × Content))
    (distinct : (signature.parameters.map (·.name)).Nodup) (distinctSupplied : (supplied.map Prod.fst).Nodup) :
    ((signature.select supplied).map Prod.fst).Nodup := by
  have names : signature.argumentNames.Nodup := (List.filter_sublist.map _).nodup distinct
  have taken : ((if signature.takesKeywords then supplied
      else signature.argumentNames.filterMap fun name => (supplied.lookup name).map fun c => (name, c)).map Prod.fst).Nodup := by
    split
    · exact distinctSupplied
    · exact (keys_filter_map_sublist signature.argumentNames id fun name => supplied.lookup name).nodup (by rwa [List.map_id])
  rw [select]
  split
  · exact keys_put_nodup _ requestName .request taken
  · exact taken

theorem collect_blind (signature : Signature) (parser : Option Parser) (request : Request) (blind : ¬ signature.Looks parser) :
    signature.collect signature.models parser request = (.ok (signature.select (request.overlaid [] [])), request) := by
  obtain ⟨rfl, bare, _⟩ := signature.sought_blind parser request blind
  rw [collect, suppliedArguments, bare]
  rfl

theorem collected_from_sources (signature : Signature) (parser : Option Parser) (request next : Request)
    (arguments : List (String × Content)) (distinct : (signature.parameters.map (·.name)).Nodup)
    (collected : signature.collect signature.models parser request = (.ok arguments, next)) :
    (∃ data parsed, (signature.Looks parser → request.data = (.ok data, next)) ∧
      ((parser = none ∧ parsed = []) ∨ ∃ found, parser = some found ∧ found.parse data = .ok parsed) ∧
      (∀ entry ∈ signature.models, ∃ made, entry.2.validate data = .ok made) ∧
      signature.Gathers data parsed request.captures arguments) ∧
    ((request.captures.map Prod.fst).Nodup → (arguments.map Prod.fst).Nodup) ∧
    (¬ signature.Asks → requestName ∈ arguments.map Prod.fst → signature.takesKeywords = true) ∧
    (¬ signature.Looks parser → next = request ∧ ∀ other : Request, other.captures = request.captures →
      signature.collect signature.models parser other = (.ok arguments, other)) := by
  obtain ⟨data, read, parsed, delivered, built, made, rfl⟩ :=
    (collect_ok_iff signature parser request arguments).mp (by rw [collected])
  have distinctParsed := parsed_arguments_distinct parser data parsed delivered
  have gathers := signature.select_gathers data parsed built request distinct distinctParsed made
  have valid := (model_arguments_valid_iff data signature.models).mp ⟨built, made⟩
  refine ⟨⟨data, parsed, fun looks => ?_, (parsed_arguments_ok_iff parser data parsed).mp delivered, valid, gathers⟩, ?_, ?_, ?_⟩
  · have left := signature.collect_left_looking parser request looks
    rw [collected] at left
    exact Prod.ext (read looks) left.symm
  · intro distinctCaptures
    refine signature.select_distinct _ distinct (keys_put_all_nodup _ _ (keys_put_all_nodup _ _ ?_))
    rwa [keys_map_values request.captures]
  · intro unasked member
    obtain ⟨content, found⟩ := Option.isSome_iff_exists.mp ((lookup_is_some_iff _ requestName).mpr member)
    obtain ⟨⟨p, inside, named, _⟩ | keywords, _⟩ := (gathers.others requestName (unasked ·.2) content).mp found
    · exact absurd ⟨p, inside, named⟩ unasked
    · exact keywords
  · intro blind
    rw [signature.collect_blind parser request blind] at collected
    obtain ⟨same, rfl⟩ := Prod.mk.inj collected
    refine ⟨rfl, fun other captures => ?_⟩
    rw [signature.collect_blind parser other blind, ← same, Request.overlaid, Request.overlaid, captures]

-- A note that is filed under names which the path and the parser use as well.
def filedNote : Signature :=
  { parameters :=
      [{ name := "note", annotation := some (.direct (.model .note)) }, { name := "id" }, { name := requestName },
        { name := "rest", kind := .keywords }] }

def filedParser : Parser := ({} : Parser).run [.declare "note" [], .declare "id" [], .declare requestName []]

def filedRequest : Request :=
  { method := "GET"
    path := "/filed/a/7/b/c"
    captures := ["note", "id", requestName, "more"].zip (["a", "7", "b", "c"].map fun text => .text (Text.lettersOf text))
    rawQuery := "text=hi&id=9&note=n&request=r".toList.map fun c => c.toNat.toUInt8 }

theorem filed_note_supplied :
    ∃ arguments, filedNote.collect filedNote.models (some filedParser) filedRequest = (.ok arguments, filedRequest) ∧
      arguments.lookup "note" = some (.model "Note" (.ofEntries [("text", .text (Text.lettersOf "hi"))])) ∧
      arguments.lookup "id" = some (.data (.text (Text.lettersOf "9"))) ∧ arguments.lookup requestName = some .request ∧
      arguments.lookup "more" = some (.data (.text (Text.lettersOf "c"))) ∧ (arguments.map Prod.fst).Nodup := by
  have collected : filedNote.collect filedNote.models (some filedParser) filedRequest = (.ok _, filedRequest) := rfl
  obtain ⟨⟨_, _, _, _, _, gathers⟩, distinct, _⟩ := collected_from_sources filedNote _ filedRequest _ _ (by decide) collected
  have asks : filedNote.Asks := ⟨_, .tail _ (.tail _ (.head _)), rfl⟩
  exact ⟨_, collected, rfl, rfl, gathers.request.mpr asks, rfl, distinct (by decide)⟩

end Signature
end RestDispatch
