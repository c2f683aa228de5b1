import RestDispatch.Proofs.App.Collecting
import RestDispatch.Proofs.Handler.Binding
import RestDispatch.Proofs.Handler.Checking
import RestDispatch.Proofs.Param.Keys
import RestDispatch.Proofs.Route.Alignment

set_option autoImplicit false

/-!
Calls of handlers that passed the strict check. The check compares names only: that a parameter is given by
position, that the request's name may belong to the rest, and that the object has been given already are
not seen by it. Main statement: the arguments that are collected for a checked handler bind to its signature
exactly if it asks for none of these.
-/
namespace RestDispatch

namespace Signature

-- What the strict check does not look at.
structure Callable (signature : Signature) (rule : Rule) (parser : Option Parser) : Prop where
  optional : ∀ p ∈ signature.parameters, p.kind = .positional → p.default.isSome = true
  request : signature.wantsRequest = true → signature.Takes requestName
  own : signature.selfByPosition = false →
    selfName ∉ signature.argumentNames ∧ (signature.takesKeywords = true → selfName ∉ supplied rule parser)

theorem models_take_arguments (signature : Signature) (name : String) (member : name ∈ signature.models.map Prod.fst) :
    name ∈ signature.argumentNames := by
  obtain ⟨entry, inside, rfl⟩ := List.mem_map.mp member
  simpa using (List.mem_filter.mp inside).2

theorem lookup_select (signature : Signature) (supplied : List (String × Content)) (name : String) :
    (signature.select supplied).lookup name =
      if name = requestName ∧ signature.wantsRequest = true then some .request
      else if signature.takesKeywords = true ∨ name ∈ signature.argumentNames then supplied.lookup name else none := by
  have taken : (if signature.takesKeywords then supplied
        else signature.argumentNames.filterMap fun name => (supplied.lookup name).map fun c => (name, c)).lookup name =
      if signature.takesKeywords = true ∨ name ∈ signature.argumentNames then supplied.lookup name else none := by
    cases signature.takesKeywords with
    | true => simp
    | false => simp only [Bool.false_eq_true, if_false, false_or, lookup_restricted]
  rw [select, ← taken]
  cases wants : signature.wantsRequest with
  | true => simp only [if_true, and_true, lookup_put]
  | false => simp

theorem mem_select (signature : Signature) (supplied : List (String × Content)) (name : String) :
    name ∈ (signature.select supplied).map Prod.fst ↔
      (name = requestName ∧ signature.wantsRequest = true) ∨
        (name ∈ supplied.map Prod.fst ∧ (signature.takesKeywords = true ∨ name ∈ signature.argumentNames)) := by
  rw [← lookup_is_some_iff, lookup_select, ← lookup_is_some_iff]
  by_cases asked : name = requestName ∧ signature.wantsRequest = true
  · simp [asked]
  · rw [if_neg asked]
    split
    · rename_i accepted
      simp only [asked, accepted, false_or, and_true]
    · rename_i refused
      simp [asked, refused]

-- A checked parameter is supplied under its name, or made as a model.
theorem checked_argument_supplied (signature : Signature) (rule : Rule) (parser : Option Parser)
    (checked : signature.check rule parser = .ok ()) (name : String) (member : name ∈ signature.argumentNames) :
    name ∈ supplied rule parser ∨ name ∈ signature.models.map Prod.fst := by
  obtain ⟨hints, resolved, _, typed⟩ := (check_ok_iff signature rule parser).mp checked
  obtain ⟨other, p, inside, rfl, byName⟩ := (mem_argument_names signature name).mp member
  have isChecked : isChecked p = true := by
    rcases byName with normal | keyword <;> simp [Signature.isChecked, *]
  obtain ⟨hint, known, supply | model⟩ := typed p inside isChecked
  · exact Or.inl supply
  · obtain ⟨m, same⟩ := Option.isSome_iff_exists.mp model
    refine Or.inr (List.mem_map.mpr ⟨(p.name, m), List.mem_filter.mpr ⟨?_, by simpa using member⟩, rfl⟩)
    rw [allModels, resolved]
    exact List.mem_filterMap.mpr ⟨(p.name, hint), mem_of_lookup hints p.name hint known, by simp [same]⟩

theorem parsed_names (parser : Option Parser) (data : Fields) (parsed : Entries) (delivered : parsedArguments parser data = .ok parsed)
    (name : String) : name ∈ parsed.map Prod.fst ↔ name ∈ (parser.map Parser.keys).getD [] := by
  rcases (parsed_arguments_ok_iff parser data parsed).mp delivered with ⟨rfl, rfl⟩ | ⟨found, rfl, outcome⟩
  · rfl
  · exact found.delivered_keys data parsed outcome name

theorem collected_names (signature : Signature) (rule : Rule) (parser : Option Parser) (found : List String) (captures : Captures)
    (request next : Request) (arguments : List (String × Content)) (matched : rule.match? found = some captures)
    (captured : request.captures = captures.map fun (name, text) => (name, .text text))
    (collected : signature.collect signature.models parser request = (.ok arguments, next)) (name : String) :
    name ∈ arguments.map Prod.fst ↔
      (name = requestName ∧ signature.wantsRequest = true) ∨
        ((name ∈ supplied rule parser ∨ name ∈ signature.models.map Prod.fst) ∧
          (signature.takesKeywords = true ∨ name ∈ signature.argumentNames)) := by
  obtain ⟨data, _, parsed, delivered, built, made, rfl⟩ :=
    (collect_ok_iff signature parser request arguments).mp (by rw [collected])
  have fromPath : request.captures.map Prod.fst = rule.variableNames := by
    rw [captured, List.map_map]
    exact Segment.align_names rule.segments found captures matched
  rw [mem_select, Request.mem_overlaid, fromPath, parsed_names parser data parsed delivered, model_arguments_names data _ built made,
    supplied, List.mem_append]
  rfl

theorem checked_arguments_bind_iff (signature : Signature) (rule : Rule) (parser : Option Parser) (path : String)
    (captures : Captures) (scope : Scope) (channel : Channel) (request next : Request) (arguments : List (String × Content))
    (checked : signature.check rule parser = .ok ()) (matched : rule.match? (splitPath path) = some captures)
    (built : Request.ofScope scope channel (captures.map fun (name, text) => (name, .text text)) = .ok request)
    (collected : signature.collect signature.models parser request = (.ok arguments, next)) :
    (∃ bound, signature.bind arguments = .ok bound) ↔ signature.Callable rule parser := by
  obtain ⟨method, target, _, _, rfl⟩ := Request.of_scope_ok scope channel _ request built
  have names := collected_names signature rule parser _ captures _ next arguments matched rfl collected
  have supplies := checked_argument_supplied signature rule parser checked
  rw [bind_ok_iff]
  constructor
  · rintro ⟨accepted, given⟩
    refine ⟨fun p member positional => ?_, fun wants => ?_, fun byName => ⟨fun argument => ?_, fun keywords inside => ?_⟩⟩
    · have held := given p member (p.single_iff.mpr (Or.inl positional))
      exact ((supplied_is_some_iff arguments p).mp held).resolve_right fun named => named.1 positional
    · exact (accepted requestName ((names requestName).mpr (Or.inl ⟨rfl, wants⟩))).taken
    · have own := (accepted selfName ((names selfName).mpr (Or.inr ⟨supplies selfName argument, Or.inr argument⟩))).own rfl
      rw [byName] at own
      cases own
    · have own := (accepted selfName ((names selfName).mpr (Or.inr ⟨Or.inl inside, Or.inl keywords⟩))).own rfl
      rw [byName] at own
      cases own
  · intro callable
    refine ⟨fun name member => ?_, fun p member single => (supplied_is_some_iff arguments p).mpr ?_⟩
    · rcases (names name).mp member with ⟨rfl, wants⟩ | ⟨source, taken⟩
      · exact ⟨callable.request wants, fun equal => absurd equal (by decide)⟩
      · refine ⟨taken.symm.imp (fun argument => ((mem_argument_names signature name).mp argument).2) id, ?_⟩
        rintro rfl
        cases byPosition : signature.selfByPosition with
        | true => rfl
        | false =>
          obtain ⟨unnamed, unsupplied⟩ := callable.own byPosition
          have keywords := taken.resolve_right unnamed
          rcases source with supply | model
          · exact absurd supply (unsupplied keywords)
          · exact absurd (models_take_arguments signature selfName model) unnamed
    · rcases p.single_iff.mp single with positional | byName
      · exact Or.inl (callable.optional p member positional)
      · have unplaced : p.kind ≠ .positional := by
          rcases byName with normal | keyword <;> simp [*]
        refine Or.inr ⟨unplaced, (names p.name).mpr ?_⟩
        by_cases asked : p.name = requestName
        · exact Or.inl ⟨asked, List.any_eq_true.mpr ⟨p, member, by simpa using asked⟩⟩
        · have argument := (mem_argument_names signature p.name).mpr ⟨asked, p, member, rfl, byName⟩
          exact Or.inr ⟨supplies p.name argument, Or.inr argument⟩

-- A page that takes its number by position, as calls of handlers never give it.
def numberedPage : Signature :=
  { parameters := [{ name := "id", kind := .positional, annotation := some (.direct (.cls "str")) }]
    returns := some (.direct (.cls "dict")) }

def numberedRule : Rule := ⟨"/page/<id>", [.literal "page", .placeholder "id" .part]⟩

theorem numbered_page_unbound :
    let scope : Scope := { method := some "GET", path := some "/page/7" }
    let captures : Captures := [("id", "7")]
    ∃ request arguments, Rule.compile "/page/<id>" = .ok numberedRule ∧ numberedPage.check numberedRule none = .ok () ∧
      numberedRule.match? (splitPath "/page/7") = some captures ∧
      Request.ofScope scope {} (captures.map fun (name, text) => (name, .text text)) = .ok request ∧
      numberedPage.collect numberedPage.models none request = (.ok arguments, request) ∧
      ¬ ∃ bound, numberedPage.bind arguments = .ok bound := by
  intro scope captures
  have checked : numberedPage.check numberedRule none = .ok () := rfl
  have matched : numberedRule.match? (splitPath "/page/7") = some captures := rfl
  refine ⟨_, [], rfl, checked, matched, rfl, rfl, fun bound => ?_⟩
  have callable := (checked_arguments_bind_iff numberedPage numberedRule none "/page/7" captures scope {} _ _ []
    checked matched rfl rfl).mp bound
  exact absurd (callable.optional _ (List.mem_singleton.mpr rfl) rfl) (by decide)

end Signature
end RestDispatch
