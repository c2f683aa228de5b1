import RestDispatch.Proofs.App.Deciding
import RestDispatch.Proofs.App.Obstruction
import RestDispatch.Proofs.App.Supplying
import Mathlib.Data.List.Perm.Basic

set_option autoImplicit false

/-!
Orders of parameter names. The names that a handler takes are a set, and the table of its models is made along it, so
neither has an order that can be relied on. Main statement: whatever the order, a handler is given the same arguments, the
state after the request is the same, and so is the answer, except that of the models which refuse the data the first one is
reported; the reports that some order sends are those of all refusing models, so every order sends the same one exactly
if their reports agree.
-/
namespace RestDispatch

namespace Signature

-- The names and the models of a signature in some order. A process has the models in the order of the names, as
-- `along` puts them; what is the same in all orders does not need that.
structure Enumeration (signature : Signature) where
  names : List String
  models : List (String × Model)
  allNames : names.Perm signature.argumentNames
  allModels : models.Perm signature.models

def asWritten (signature : Signature) : Enumeration signature := ⟨signature.argumentNames, signature.models, .refl _, .refl _⟩

-- The table of models as it is made along an order of the names.
def modelsAlong (signature : Signature) (names : List String) : List (String × Model) :=
  names.filterMap fun name => (signature.models.lookup name).map fun m => (name, m)

theorem models_along_perm (signature : Signature) (names : List String) (distinct : (signature.parameters.map (·.name)).Nodup)
    (all : names.Perm signature.argumentNames) : (signature.modelsAlong names).Perm signature.models := by
  have distinctModels := signature.models_distinct distinct
  have distinctNames : names.Nodup := all.nodup_iff.mpr ((List.filter_sublist.map _).nodup distinct)
  have distinctAlong : ((signature.modelsAlong names).map Prod.fst).Nodup :=
    (keys_filter_map_sublist names id fun name => signature.models.lookup name).nodup (by rwa [List.map_id])
  refine (List.perm_ext_iff_of_nodup distinctAlong.of_map distinctModels.of_map).mpr fun ⟨name, m⟩ => ?_
  rw [mem_iff_lookup _ name m distinctAlong, mem_iff_lookup _ name m distinctModels, modelsAlong, lookup_restricted]
  split
  · rfl
  · rename_i unlisted
    refine ⟨(nomatch ·), fun found => absurd ?_ unlisted⟩
    exact all.mem_iff.mpr (signature.models_take_arguments name ((lookup_is_some_iff _ name).mp (found ▸ rfl)))

def along (signature : Signature) (names : List String) (distinct : (signature.parameters.map (·.name)).Nodup)
    (all : names.Perm signature.argumentNames) : Enumeration signature :=
  ⟨names, signature.modelsAlong names, all, signature.models_along_perm names distinct all⟩

-- The arguments that are taken when they are picked in some order of the names.
def takenAlong (signature : Signature) (names : List String) (supplied : List (String × Content)) : List (String × Content) :=
  if signature.takesKeywords then supplied else names.filterMap fun name => (supplied.lookup name).map fun c => (name, c)

def selectAlong (signature : Signature) (names : List String) (supplied : List (String × Content)) : List (String × Content) :=
  let taken := signature.takenAlong names supplied
  if signature.wantsRequest then put requestName .request taken else taken

theorem argument_keyword (signature : Signature) (name : String) (argument : name ∈ signature.argumentNames) :
    name ∈ signature.keywordNames :=
  (mem_keyword_names signature name).mpr (Or.inr ((mem_argument_names signature name).mp argument).2)

-- Without a parameter for the rest only names of parameters are taken.
theorem taken_along_arguments (signature : Signature) (names : List String) (supplied : List (String × Content))
    (single : signature.takesKeywords = false) (arguments : ∀ name ∈ names, name ∈ signature.argumentNames) (name : String)
    (member : name ∈ (signature.takenAlong names supplied).map Prod.fst) : name ∈ signature.argumentNames := by
  rw [takenAlong, single] at member
  exact arguments name ((mem_keys_restricted supplied names name).mp member).1

theorem check_taken_along (signature : Signature) (names : List String) (supplied : List (String × Content)) (all : List String)
    (arguments : ∀ name ∈ names, name ∈ signature.argumentNames) :
    signature.checkKeywords all ((signature.takenAlong names supplied).map Prod.fst) =
      if selfName ∈ (signature.takenAlong names supplied).map Prod.fst ∧ signature.selfByPosition = false then
        .error (.multipleValues selfName)
      else .ok () := by
  refine signature.check_keywords_taken all _ fun name member => ?_
  cases keywords : signature.takesKeywords with
  | true => exact Or.inr rfl
  | false => exact Or.inl (signature.argument_keyword name (signature.taken_along_arguments names supplied keywords arguments name member))

theorem taken_along_rest (signature : Signature) (names : List String) (supplied : List (String × Content))
    (single : signature.takesKeywords = false) (arguments : ∀ name ∈ names, name ∈ signature.argumentNames) :
    (signature.takenAlong names supplied).filter (fun entry => entry.1 ∉ signature.keywordNames) = [] := by
  refine List.filter_eq_nil_iff.mpr fun entry member => ?_
  have argument := signature.taken_along_arguments names supplied single arguments entry.1 (List.mem_map_of_mem member)
  simpa using signature.argument_keyword entry.1 argument

-- The request may be the only name without a place to go to, and then it comes last.
theorem select_along_keys (signature : Signature) (names : List String) (supplied : List (String × Content))
    (wants : signature.wantsRequest = true) (single : signature.takesKeywords = false)
    (arguments : ∀ name ∈ names, name ∈ signature.argumentNames) :
    (signature.selectAlong names supplied).map Prod.fst = (signature.takenAlong names supplied).map Prod.fst ++ [requestName] := by
  have fresh : requestName ∉ (signature.takenAlong names supplied).map Prod.fst := fun member =>
    ((mem_argument_names signature requestName).mp
      (signature.taken_along_arguments names supplied single arguments requestName member)).1 rfl
  simp only [selectAlong, wants, if_true]
  rw [put_fresh _ requestName .request fresh, List.map_append]
  rfl

section
variable (signature : Signature) (names others : List String) (left right : List (String × Content))
  (all : names.Perm others) (arguments : ∀ name ∈ names, name ∈ signature.argumentNames)
  (found : ∀ name, left.lookup name = right.lookup name)
include all found

theorem taken_along_found (name : String) :
    (signature.takenAlong names left).lookup name = (signature.takenAlong others right).lookup name := by
  rw [takenAlong, takenAlong]
  split
  · exact found name
  · simp only [lookup_restricted, all.mem_iff, found]

theorem select_along_found (name : String) :
    (signature.selectAlong names left).lookup name = (signature.selectAlong others right).lookup name := by
  have taken := signature.taken_along_found names others left right all found name
  rw [selectAlong, selectAlong]
  split
  · rw [lookup_put, lookup_put, taken]
  · exact taken

include arguments

theorem taken_along_agree
    (rest : (left.filter fun entry => entry.1 ∉ signature.keywordNames) = right.filter fun entry => entry.1 ∉ signature.keywordNames) :
    signature.Agree (signature.takenAlong names left) (signature.takenAlong others right) := by
  have taken := signature.taken_along_found names others left right all found
  have argumentsToo : ∀ name ∈ others, name ∈ signature.argumentNames := fun name member => arguments name (all.mem_iff.mpr member)
  refine ⟨taken, ?_, ?_⟩
  · rw [signature.check_taken_along names left _ arguments, signature.check_taken_along others right _ argumentsToo]
    simp only [← lookup_is_some_iff, taken]
  · cases keywords : signature.takesKeywords with
    | true => simpa only [takenAlong, keywords, if_true] using rest
    | false =>
      rw [signature.taken_along_rest names left keywords arguments, signature.taken_along_rest others right keywords argumentsToo]

theorem select_along_agree
    (rest : (left.filter fun entry => entry.1 ∉ signature.keywordNames) = right.filter fun entry => entry.1 ∉ signature.keywordNames) :
    signature.Agree (signature.selectAlong names left) (signature.selectAlong others right) := by
  have taken := signature.taken_along_agree names others left right all arguments found rest
  have same := signature.select_along_found names others left right all found
  have argumentsToo : ∀ name ∈ others, name ∈ signature.argumentNames := fun name member => arguments name (all.mem_iff.mpr member)
  have members : ∀ name, name ∈ (signature.selectAlong names left).map Prod.fst ↔
      name ∈ (signature.selectAlong others right).map Prod.fst := by
    intro name
    rw [← lookup_is_some_iff, ← lookup_is_some_iff, same]
  cases wants : signature.wantsRequest with
  | false => simpa only [selectAlong, wants, Bool.false_eq_true, if_false] using taken
  | true =>
    refine ⟨same, ?_, ?_⟩
    · cases keywords : signature.takesKeywords with
      | true =>
        rw [signature.check_keywords_taken _ _ fun _ _ => Or.inr keywords, signature.check_keywords_taken _ _ fun _ _ => Or.inr keywords]
        simp only [members]
      | false =>
        rw [signature.check_keywords_members _ _ _ members, signature.select_along_keys names left wants keywords arguments,
          signature.select_along_keys others right wants keywords argumentsToo, check_keywords_append, check_keywords_append,
          signature.check_taken_along names left _ arguments, signature.check_taken_along others right _ argumentsToo]
        simp only [← lookup_is_some_iff, taken.found]
    · have kept := fun table => filter_put table requestName Content.request fun name => decide (name ∉ signature.keywordNames)
      simp only [selectAlong, wants, if_true]
      rw [kept, kept, taken.rest]

end

-- Collecting in some order.
def Enumeration.collect {signature : Signature} (order : Enumeration signature) (parser : Option Parser) (request : Request) :
    Except Refusal (List (String × Content)) × Request :=
  ((suppliedArguments order.models parser request).1.map (signature.selectAlong order.names),
    (suppliedArguments order.models parser request).2)

theorem collect_as_written (signature : Signature) (parser : Option Parser) (request : Request) :
    signature.asWritten.collect parser request = signature.collect signature.models parser request :=
  (signature.collect_supplied parser request signature.models).symm

-- A model of the signature refuses the data of a request, and this is its report.
def Reports (signature : Signature) (parser : Option Parser) (request : Request) (report : String) : Prop :=
  ∃ data parsed, request.data.1 = .ok data ∧ parsedArguments parser data = .ok parsed ∧
    ∃ name m errors, (name, m) ∈ signature.models ∧ m.validate data = .error errors ∧ report = m.report errors

end Signature

theorem model_arguments_perm (data : Fields) (models others : List (String × Model)) (built : List (String × Content))
    (reordered : models.Perm others) (made : modelArguments data others = .ok built) :
    ∃ left, modelArguments data models = .ok left ∧ left.Perm built := by
  obtain ⟨left, each, same⟩ := List.perm_comp_forall₂ reordered ((model_arguments_ok_iff data others built).mp made)
  exact ⟨left, (model_arguments_ok_iff data models left).mpr each, same⟩

theorem model_arguments_refused (data : Fields) (models : List (String × Model)) (refusal : Refusal)
    (refused : modelArguments data models = .error refusal) :
    ∃ name m errors, (name, m) ∈ models ∧ m.validate data = .error errors ∧ refusal = .badModel m errors := by
  obtain ⟨before, name, m, after, errors, rfl, _, stopped, same⟩ := (model_arguments_error_iff data models refusal).mp refused
  exact ⟨name, m, errors, by simp, stopped, same⟩

theorem Request.overlaid_perm (request : Request) (parsed : Entries) (left right : List (String × Content)) (same : left.Perm right)
    (distinct : (left.map Prod.fst).Nodup) (name : String) :
    (request.overlaid parsed left).lookup name = (request.overlaid parsed right).lookup name := by
  have reversed : left.reverse.Perm right.reverse := (List.reverse_perm left).trans (same.trans (List.reverse_perm right).symm)
  rw [overlaid, overlaid, lookup_put_all, lookup_put_all _ right,
    lookup_perm _ _ name reversed (by rwa [List.map_reverse, List.nodup_reverse])]

namespace Signature

-- Models are given to parameters, so what is left for the rest does not come from them.
theorem overlaid_rest (signature : Signature) (request : Request) (parsed : Entries) (built : List (String × Content))
    (arguments : ∀ name ∈ built.map Prod.fst, name ∈ signature.argumentNames) :
    (request.overlaid parsed built).filter (fun entry => entry.1 ∉ signature.keywordNames) =
      (request.overlaid parsed []).filter fun entry => entry.1 ∉ signature.keywordNames := by
  refine filter_put_all _ built (fun name => decide (name ∉ signature.keywordNames)) fun name member => ?_
  simpa using signature.argument_keyword name (arguments name member)

namespace Enumeration

variable {signature : Signature} (order other : Enumeration signature) (parser : Option Parser) (request : Request)

theorem collect_along_eq :
    (order.collect parser request).1 = (do
      let data ← signature.sought parser request
      let parsed ← parsedArguments parser data
      let built ← modelArguments data order.models
      .ok (signature.selectAlong order.names (request.overlaid parsed built))) := by
  rw [collect, signature.supplied_arguments_eq parser request order.models order.allModels]
  simp only [map_bind]
  rfl

theorem collect_along_next : (order.collect parser request).2 = (other.collect parser request).2 := by
  have left := signature.supplied_arguments_next parser request order.models order.allModels
  have right := signature.supplied_arguments_next parser request other.models other.allModels
  rw [collect, collect]
  by_cases looks : signature.Looks parser
  · exact (left.1 looks).trans (right.1 looks).symm
  · exact (left.2 looks).trans (right.2 looks).symm

theorem models_perm : order.models.Perm other.models := order.allModels.trans other.allModels.symm

theorem built_names (data : Fields) (built : List (String × Content)) (made : modelArguments data order.models = .ok built) :
    (built.map Prod.fst).Perm (signature.models.map Prod.fst) := by
  rw [model_arguments_names data order.models built made]
  exact order.allModels.map Prod.fst

theorem built_arguments (data : Fields) (built : List (String × Content)) (made : modelArguments data order.models = .ok built)
    (name : String) (member : name ∈ built.map Prod.fst) : name ∈ signature.argumentNames :=
  signature.models_take_arguments name ((order.built_names data built made).mem_iff.mp member)

theorem collect_along_agree (distinct : (signature.parameters.map (·.name)).Nodup) (arguments : List (String × Content))
    (next : Request) (collected : order.collect parser request = (.ok arguments, next)) :
    ∃ others, other.collect parser request = (.ok others, next) ∧ signature.Agree others arguments := by
  have result : (order.collect parser request).1 = .ok arguments := by rw [collected]
  simp only [collect_along_eq, bind_eq_ok, Except.ok.injEq] at result
  obtain ⟨data, sought, parsed, delivered, built, made, rfl⟩ := result
  obtain ⟨left, madeToo, same⟩ := model_arguments_perm data other.models order.models built (other.models_perm order) made
  have distinctLeft : (left.map Prod.fst).Nodup :=
    (other.built_names data left madeToo).nodup_iff.mpr (signature.models_distinct distinct)
  refine ⟨signature.selectAlong other.names (request.overlaid parsed left), Prod.ext ?_ ?_, ?_⟩
  · simp only [collect_along_eq, bind_eq_ok]
    exact ⟨data, sought, parsed, delivered, left, madeToo, rfl⟩
  · rw [other.collect_along_next order, collected]
  · refine signature.select_along_agree other.names order.names _ _ (other.allNames.trans order.allNames.symm)
      (fun name member => other.allNames.mem_iff.mp member) (request.overlaid_perm parsed left built same distinctLeft) ?_
    rw [signature.overlaid_rest request parsed left (other.built_arguments data left madeToo),
      signature.overlaid_rest request parsed built (order.built_arguments data built made)]

theorem reports_of_refused (data : Fields) (parsed : Entries) (refusal : Refusal) (sought : signature.sought parser request = .ok data)
    (delivered : parsedArguments parser data = .ok parsed) (refused : modelArguments data order.models = .error refusal) :
    ∃ m errors, refusal = .badModel m errors ∧ signature.Reports parser request (m.report errors) := by
  obtain ⟨name, m, errors, member, stopped, rfl⟩ := model_arguments_refused data order.models refusal refused
  have listed := order.allModels.mem_iff.mp member
  rw [signature.sought_looking parser request (Or.inr (List.ne_nil_of_mem listed))] at sought
  exact ⟨m, errors, rfl, data, parsed, sought, delivered, name, m, errors, listed, stopped, rfl⟩

-- Of what refuses a request only the model that is reported may differ.
theorem collect_along_refused (refusal : Refusal) (refused : (order.collect parser request).1 = .error refusal) :
    (other.collect parser request).1 = .error refusal ∨
      ∃ m errors n others, refusal = .badModel m errors ∧ (other.collect parser request).1 = .error (.badModel n others) ∧
        signature.Reports parser request (m.report errors) ∧ signature.Reports parser request (n.report others) := by
  simp only [collect_along_eq, bind_eq_error, reduceCtorEq, and_false, exists_false, or_false] at refused ⊢
  obtain unread | ⟨data, sought, unparsed | ⟨parsed, delivered, unmade⟩⟩ := refused
  · exact Or.inl (Or.inl unread)
  · exact Or.inl (Or.inr ⟨data, sought, Or.inl unparsed⟩)
  · obtain ⟨m, errors, rfl, reports⟩ := order.reports_of_refused parser request data parsed refusal sought delivered unmade
    cases unmadeToo : modelArguments data other.models with
    | ok built =>
      obtain ⟨_, made, _⟩ := model_arguments_perm data order.models other.models built (order.models_perm other) unmadeToo
      rw [unmade] at made
      cases made
    | error second =>
      obtain ⟨n, others, rfl, reportsToo⟩ := other.reports_of_refused parser request data parsed second sought delivered unmadeToo
      exact Or.inr ⟨m, errors, n, others, rfl, Or.inr ⟨data, sought, Or.inr ⟨parsed, delivered, unmadeToo⟩⟩, reports, reportsToo⟩

end Enumeration

-- Every report of a model that refuses is the first one in some order.
theorem reports_first (signature : Signature) (parser : Option Parser) (request : Request) (report : String)
    (distinct : (signature.parameters.map (·.name)).Nodup) (reports : signature.Reports parser request report) :
    ∃ order : Enumeration signature, order.models = signature.modelsAlong order.names ∧
      ∃ m errors, (order.collect parser request).1 = .error (.badModel m errors) ∧ report = m.report errors := by
  obtain ⟨data, parsed, read, delivered, name, m, errors, member, stopped, rfl⟩ := reports
  have argument := signature.models_take_arguments name (List.mem_map_of_mem member)
  have looks : signature.Looks parser := Or.inr (List.ne_nil_of_mem member)
  refine ⟨signature.along (name :: signature.argumentNames.erase name) distinct (List.perm_cons_erase argument).symm, rfl,
    m, errors, ?_, rfl⟩
  have listed := lookup_of_mem signature.models name m (signature.models_distinct distinct) member
  have unmade : modelArguments data (signature.modelsAlong (name :: signature.argumentNames.erase name)) = .error (.badModel m errors) := by
    simp only [modelsAlong, List.filterMap_cons, listed, Option.map_some, modelArguments, stopped]
  simp only [Enumeration.collect_along_eq, bind_eq_error, signature.sought_looking parser request looks, read]
  exact Or.inr ⟨data, rfl, Or.inr ⟨parsed, delivered, Or.inl unmade⟩⟩

end Signature

namespace Registry

-- Performing in some order.
def performAlong (registry : Registry) (resource : Resource) (handler : Handler) (order : handler.signature.Enumeration)
    (parser : Option Parser) (request : Request) : Except Silence Answer × Registry :=
  match order.collect parser request with
  | (.error refusal, _) => (refusal.answer, registry)
  | (.ok arguments, request) =>
    let outcome := registry.outcome resource handler arguments request
    (Answer.ofResult outcome.result, registry.keep resource.identity outcome.items)

theorem perform_as_written (registry : Registry) (resource : Resource) (handler : Handler) (parser : Option Parser) (request : Request) :
    registry.performAlong resource handler handler.signature.asWritten parser request = registry.perform resource handler parser request := by
  rw [performAlong, perform, Signature.collect_as_written]
  rfl

section
variable (registry : Registry) (resource : Resource) (handler : Handler) (order other : handler.signature.Enumeration)
  (parser : Option Parser) (request : Request)

theorem perform_along_refused (refusal : Refusal) (refused : (order.collect parser request).1 = .error refusal) :
    registry.performAlong resource handler order parser request = (refusal.answer, registry) := by
  rw [performAlong]
  cases collected : order.collect parser request with
  | mk result next =>
    rw [collected] at refused
    obtain rfl : result = .error refusal := refused
    rfl

theorem outcome_agree (left right : List (String × Content)) (agree : handler.signature.Agree left right) :
    registry.outcome resource handler left request = registry.outcome resource handler right request := by
  rw [outcome, outcome, Handler.call, Handler.call, handler.signature.bind_agree left right agree]

variable (distinct : (handler.signature.parameters.map (·.name)).Nodup)
include distinct

theorem perform_along_cases :
    registry.performAlong resource handler order parser request = registry.performAlong resource handler other parser request ∨
      ∃ left right, handler.signature.Reports parser request left ∧ handler.signature.Reports parser request right ∧
        registry.performAlong resource handler order parser request = (.ok (.badModel left), registry) ∧
        registry.performAlong resource handler other parser request = (.ok (.badModel right), registry) := by
  cases collected : order.collect parser request with
  | mk result next =>
    cases result with
    | error refusal =>
      have refused : (order.collect parser request).1 = .error refusal := by rw [collected]
      rw [registry.perform_along_refused resource handler order parser request refusal refused]
      rcases order.collect_along_refused other parser request refusal refused with same | ⟨m, errors, n, others, rfl, second, reports⟩
      · exact Or.inl (registry.perform_along_refused resource handler other parser request refusal same).symm
      · rw [registry.perform_along_refused resource handler other parser request _ second]
        exact Or.inr ⟨_, _, reports.1, reports.2, rfl, rfl⟩
    | ok arguments =>
      obtain ⟨others, second, agree⟩ := order.collect_along_agree other parser request distinct arguments next collected
      refine Or.inl ?_
      simp only [performAlong, collected, second, registry.outcome_agree resource handler next others arguments agree]

theorem perform_along_alike :
    (registry.performAlong resource handler order parser request).2 = (registry.performAlong resource handler other parser request).2 ∧
    (registry.performAlong resource handler order parser request).1.map Answer.status =
      (registry.performAlong resource handler other parser request).1.map Answer.status ∧
    ((registry.performAlong resource handler order parser request).1 = (registry.performAlong resource handler other parser request).1 ∨
      ∃ left right, handler.signature.Reports parser request left ∧ handler.signature.Reports parser request right ∧
        (registry.performAlong resource handler order parser request).1 = .ok (.badModel left) ∧
        (registry.performAlong resource handler other parser request).1 = .ok (.badModel right)) := by
  rcases registry.perform_along_cases resource handler order other parser request distinct with
    same | ⟨left, right, inLeft, inRight, l, r⟩
  · rw [same]
    exact ⟨rfl, rfl, Or.inl rfl⟩
  · rw [l, r]
    exact ⟨rfl, rfl, Or.inr ⟨left, right, inLeft, inRight, rfl, rfl⟩⟩

theorem reported_in_some_order (report : String) (reports : handler.signature.Reports parser request report) :
    ∃ order : handler.signature.Enumeration, order.models = handler.signature.modelsAlong order.names ∧
      (registry.performAlong resource handler order parser request).1 = .ok (.badModel report) := by
  obtain ⟨order, made, m, errors, refused, rfl⟩ := handler.signature.reports_first parser request report distinct reports
  exact ⟨order, made, by rw [registry.perform_along_refused resource handler order parser request _ refused]; rfl⟩

theorem every_order_alike_iff :
    (∀ order : handler.signature.Enumeration,
        (registry.performAlong resource handler order parser request).1 = (registry.perform resource handler parser request).1) ↔
      ∀ left right, handler.signature.Reports parser request left → handler.signature.Reports parser request right → left = right := by
  constructor
  · intro same left right reportsLeft reportsRight
    obtain ⟨order, _, l⟩ := registry.reported_in_some_order resource handler parser request distinct left reportsLeft
    obtain ⟨other, _, r⟩ := registry.reported_in_some_order resource handler parser request distinct right reportsRight
    have equal : Except.ok (Answer.badModel left) = .ok (.badModel right) :=
      calc .ok (.badModel left)
        _ = (registry.performAlong resource handler order parser request).1 := l.symm
        _ = (registry.performAlong resource handler other parser request).1 := (same order).trans (same other).symm
        _ = .ok (.badModel right) := r
    exact Answer.badModel.inj (Except.ok.inj equal)
  · intro agreed order
    rw [← registry.perform_as_written resource handler parser request]
    obtain ⟨_, _, same | ⟨left, right, inLeft, inRight, l, r⟩⟩ :=
      registry.perform_along_alike resource handler order handler.signature.asWritten parser request distinct
    · exact same
    · rw [l, r, agreed left right inLeft inRight]

theorem order_seen_in_reports_only :
    (∀ order other : handler.signature.Enumeration,
      let first := registry.performAlong resource handler order parser request
      let second := registry.performAlong resource handler other parser request
      (∀ arguments next, order.collect parser request = (.ok arguments, next) →
        ∃ others, other.collect parser request = (.ok others, next) ∧ (∀ name, others.lookup name = arguments.lookup name) ∧
          handler.signature.bind others = handler.signature.bind arguments) ∧
      first.2 = second.2 ∧ first.1.map Answer.status = second.1.map Answer.status ∧
      (first.1 = second.1 ∨
        ∃ left right, handler.signature.Reports parser request left ∧ handler.signature.Reports parser request right ∧
          first.1 = .ok (.badModel left) ∧ second.1 = .ok (.badModel right))) ∧
    (∀ report, handler.signature.Reports parser request report →
      ∃ order : handler.signature.Enumeration, order.models = handler.signature.modelsAlong order.names ∧
        (registry.performAlong resource handler order parser request).1 = .ok (.badModel report)) ∧
    ((∀ order : handler.signature.Enumeration,
        (registry.performAlong resource handler order parser request).1 = (registry.perform resource handler parser request).1) ↔
      ∀ left right, handler.signature.Reports parser request left → handler.signature.Reports parser request right → left = right) := by
  refine ⟨fun order other => ⟨fun arguments next collected => ?_, ?_⟩, ?_, ?_⟩
  · obtain ⟨others, second, agree⟩ := order.collect_along_agree other parser request distinct arguments next collected
    exact ⟨others, second, agree.found, handler.signature.bind_agree others arguments agree⟩
  · exact registry.perform_along_alike resource handler order other parser request distinct
  · exact registry.reported_in_some_order resource handler parser request distinct
  · exact registry.every_order_alike_iff resource handler parser request distinct

end

-- A page that takes two models, which refuse what is empty for reasons of their own.
def pricedNote : Handler :=
  { label := "Page.get"
    signature :=
      { parameters :=
          [{ name := "note", annotation := some (.direct (.model .note)) },
            { name := "item", annotation := some (.direct (.model .item)) }] }
    run := fun situation => ⟨.ok (.content (.named situation.arguments.all)), situation.items⟩ }

def pricedPage : Resource := .object { name := "Page", methods := [("get", pricedNote)] } 0

def unpricedRequest : Request := { method := "GET", path := "/page" }

theorem priced_note_reported_by_order :
    ∃ left right, (({} : Registry).perform pricedPage pricedNote none unpricedRequest).1 = .ok (.badModel left) ∧
      (∃ order : pricedNote.signature.Enumeration, order.models = pricedNote.signature.modelsAlong order.names ∧
        (({} : Registry).performAlong pricedPage pricedNote order none unpricedRequest).1 = .ok (.badModel right)) ∧
      Dispatcher.send false (.ok (.badModel left)) ≠ Dispatcher.send false (.ok (.badModel right)) := by
  obtain ⟨_, first, _⟩ := order_seen_in_reports_only {} pricedPage pricedNote none unpricedRequest (by decide)
  have reports : pricedNote.signature.Reports none unpricedRequest (Model.item.report _) :=
    ⟨[], [], rfl, rfl, "item", .item, _, .tail _ (.head _), rfl, rfl⟩
  exact ⟨_, _, rfl, first _ reports, by decide +kernel⟩

end Registry
end RestDispatch
