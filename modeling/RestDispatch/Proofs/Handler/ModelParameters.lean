import RestDispatch.Proofs.Handler.Binding
import RestDispatch.Proofs.Value.Sequence
import Mathlib.Data.List.Nodup

set_option autoImplicit false

/-!
Which parameters are models. All annotations of a signature are resolved together, and if one of them cannot be, none
of them is. Main statement: what a parameter is depends on its own annotation and on whether its signature resolves; a
signature that does not resolve keeps the models that are annotated as they are, and loses those that are looked up.
-/
namespace RestDispatch.Signature

-- Every annotation of the signature stands for something.
def Resolves (signature : Signature) : Prop := ∃ hints, signature.hints = .ok hints

theorem resolves_iff (signature : Signature) : signature.Resolves ↔ signature.hints.isOk = true := by
  rw [Resolves]
  cases signature.hints <;> simp [Except.isOk, Except.toBool]

-- What names stand for when an annotation is resolved; the annotations before it may have bound some.
def namesAt (signature : Signature) (name : String) : Except Fault Names :=
  (resolveAll (signature.annotated.takeWhile (·.1 ≠ name)) {}).map (·.2)

theorem mem_annotated_iff (signature : Signature) (name : String) (written : Annotation) :
    (name, written) ∈ signature.annotated ↔ ∃ p ∈ signature.parameters, p.name = name ∧ p.annotation = some written := by
  have every : ∀ kind : ParameterKind, kind ∈ annotationOrder := by
    intro kind
    cases kind <;> decide
  simp only [annotated, List.mem_flatMap, List.mem_filterMap, List.mem_filter, decide_eq_true_eq, Option.map_eq_some_iff, Prod.mk.injEq]
  constructor
  · rintro ⟨kind, _, p, ⟨member, _⟩, _, annotated, rfl, rfl⟩
    exact ⟨p, member, rfl, annotated⟩
  · rintro ⟨p, member, rfl, annotated⟩
    exact ⟨p.kind, every p.kind, p, ⟨member, rfl⟩, written, annotated, rfl, rfl⟩

section
variable (signature : Signature) (distinct : (signature.parameters.map (·.name)).Nodup)
include distinct

theorem annotated_distinct : (signature.annotated.map Prod.fst).Nodup := by
  have listed : ∀ kind : ParameterKind,
      (((signature.parameters.filter (·.kind = kind)).filterMap fun p => p.annotation.map fun a => (p.name, a)).map Prod.fst).Sublist
        ((signature.parameters.filter (·.kind = kind)).map (·.name)) := fun kind =>
    keys_filter_map_sublist _ Parameter.name Parameter.annotation
  rw [annotated, List.map_flatMap, List.nodup_flatMap]
  refine ⟨fun kind _ => ((listed kind).trans (List.filter_sublist.map _)).nodup distinct, ?_⟩
  have apart : annotationOrder.Pairwise (· ≠ ·) := by decide
  refine apart.imp fun {a b} different name inA inB => ?_
  obtain ⟨p, memberP, rfl⟩ := List.mem_map.mp ((listed a).subset inA)
  obtain ⟨q, memberQ, same⟩ := List.mem_map.mp ((listed b).subset inB)
  simp only [List.mem_filter, decide_eq_true_eq] at memberP memberQ
  obtain rfl := List.inj_on_of_nodup_map distinct memberQ.1 memberP.1 same
  exact different (memberP.2.symm.trans memberQ.2)

theorem annotated_lookup (p : Parameter) (member : p ∈ signature.parameters) : signature.annotated.lookup p.name = p.annotation := by
  cases annotated : p.annotation with
  | some written =>
    refine lookup_of_mem _ _ _ (signature.annotated_distinct distinct) ?_
    exact (signature.mem_annotated_iff p.name written).mpr ⟨p, member, rfl, annotated⟩
  | none =>
    rw [lookup_eq_none_iff]
    intro inside
    obtain ⟨⟨_, written⟩, entry, rfl⟩ := List.mem_map.mp inside
    obtain ⟨q, memberQ, same, given⟩ := (signature.mem_annotated_iff _ written).mp entry
    obtain rfl := List.inj_on_of_nodup_map distinct memberQ member same
    rw [annotated] at given
    cases given

theorem argument_iff (p : Parameter) (member : p ∈ signature.parameters) :
    p.name ∈ signature.argumentNames ↔ p.name ≠ requestName ∧ p.ByName := by
  rw [mem_argument_names]
  refine and_congr_right fun _ => ⟨?_, fun byName => ⟨p, member, rfl, byName⟩⟩
  rintro ⟨q, memberQ, same, byName⟩
  obtain rfl := List.inj_on_of_nodup_map distinct memberQ member same
  exact byName

end

-- Annotations are resolved in turn, and each finds the names as those before it left them.
theorem resolve_all_cons_iff (name : String) (written : Annotation) (rest : List (String × Annotation)) (names last : Names)
    (found : List (String × Hint)) :
    resolveAll ((name, written) :: rest) names = .ok (found, last) ↔
      ∃ hint next others, written.resolve names = .ok (hint, next) ∧ resolveAll rest next = .ok (others, last) ∧
        found = (name, hint) :: others := by
  simp only [resolveAll, List.mapM_cons, bind_assoc, pure_bind]
  constructor
  · intro resolved
    obtain ⟨⟨hint, next⟩, here, later⟩ := (bind_eq_ok _ _ _).mp resolved
    obtain ⟨⟨others, final⟩, onwards, same⟩ := (bind_eq_ok _ _ _).mp later
    obtain ⟨rfl, rfl⟩ := Prod.mk.inj (Except.ok.inj same)
    exact ⟨hint, next, others, here, onwards, rfl⟩
  · rintro ⟨hint, next, others, here, onwards, rfl⟩
    exact (bind_eq_ok _ _ _).mpr ⟨(hint, next), here, (bind_eq_ok _ _ _).mpr ⟨(others, last), onwards, rfl⟩⟩

theorem resolve_all_keys (annotations : List (String × Annotation)) (names last : Names) (found : List (String × Hint))
    (resolved : resolveAll annotations names = .ok (found, last)) : found.map Prod.fst = annotations.map Prod.fst := by
  induction annotations generalizing names found with
  | nil =>
    obtain ⟨rfl, rfl⟩ := Prod.mk.inj (Except.ok.inj resolved)
    rfl
  | cons first rest ih =>
    obtain ⟨hint, next, others, _, onwards, rfl⟩ := (resolve_all_cons_iff first.1 first.2 rest names last found).mp resolved
    rw [List.map_cons, List.map_cons, ih next others onwards]

theorem resolve_all_lookup (annotations : List (String × Annotation)) (names last : Names) (found : List (String × Hint))
    (name : String) (written : Annotation) (resolved : resolveAll annotations names = .ok (found, last))
    (listed : annotations.lookup name = some written) :
    ∃ before here hint next, resolveAll (annotations.takeWhile (·.1 ≠ name)) names = .ok (before, here) ∧
      written.resolve here = .ok (hint, next) ∧ found.lookup name = some hint := by
  induction annotations generalizing names found with
  | nil => cases listed
  | cons first rest ih =>
    obtain ⟨other, given⟩ := first
    obtain ⟨hint, next, others, first, onwards, rfl⟩ := (resolve_all_cons_iff other given rest names last found).mp resolved
    by_cases same : name = other
    · subst same
      obtain rfl : given = written := by simpa using listed
      exact ⟨[], names, hint, next, by simp; rfl, first, List.lookup_cons_self⟩
    · rw [lookup_cons_other rest other name given same] at listed
      obtain ⟨before, here, own, after, earlier, resolves, looked⟩ := ih next others onwards listed
      refine ⟨(other, hint) :: before, here, own, after, ?_, resolves, ?_⟩
      · have taken : ((other, given) :: rest).takeWhile (·.1 ≠ name) = (other, given) :: rest.takeWhile (·.1 ≠ name) := by
          simp [Ne.symm same]
        rw [taken]
        exact (resolve_all_cons_iff other given _ names here _).mpr ⟨hint, next, before, first, earlier, rfl⟩
      · rw [lookup_cons_other others other name hint same]
        exact looked

theorem hints_ok (signature : Signature) (found : List (String × Hint)) (resolved : signature.hints = .ok found) :
    ∃ last, resolveAll signature.annotated {} = .ok (found, last) := by
  obtain ⟨⟨given, last⟩, all, rest⟩ := (bind_eq_ok _ _ _).mp resolved
  refine ⟨last, ?_⟩
  cases returns : signature.returns with
  | none =>
    rw [returns] at rest
    rw [all, Except.ok.inj rest]
  | some written =>
    rw [returns] at rest
    obtain ⟨_, _, same⟩ := (bind_eq_ok _ _ _).mp rest
    rw [all, Except.ok.inj same]

theorem models_distinct (signature : Signature) (distinct : (signature.parameters.map (·.name)).Nodup) :
    (signature.models.map Prod.fst).Nodup := by
  have annotated := signature.annotated_distinct distinct
  have all : (signature.allModels.map Prod.fst).Nodup := by
    rw [allModels]
    cases resolved : signature.hints with
    | ok found =>
      obtain ⟨last, every⟩ := signature.hints_ok found resolved
      have keys := resolve_all_keys signature.annotated {} last found every
      exact (keys_filter_map_sublist found Prod.fst fun entry => entry.2.model?).nodup (keys ▸ annotated)
    | error fault =>
      exact (keys_filter_map_sublist signature.annotated Prod.fst fun entry => entry.2.unresolvedModel?).nodup annotated
  exact (List.filter_sublist.map Prod.fst).nodup all

-- The model that an annotation stands for, names being what they are.
def modelIn? (names : Except Fault Names) (written : Annotation) : Option Model :=
  match names.bind written.resolve with
  | .ok (hint, _) => hint.model?
  | .error _ => none

theorem models_lookup (signature : Signature) (name : String) :
    signature.models.lookup name = if name ∈ signature.argumentNames then signature.allModels.lookup name else none := by
  rw [models, lookup_filter_keys signature.allModels (fun name => name ∈ signature.argumentNames)]
  simp only [decide_eq_true_eq]

section
variable (signature : Signature) (distinct : (signature.parameters.map (·.name)).Nodup) (p : Parameter) (member : p ∈ signature.parameters)
include distinct member

theorem resolved_hint (found : List (String × Hint)) (resolved : signature.hints = .ok found) (written : Annotation)
    (annotated : p.annotation = some written) :
    ∃ names hint next, signature.namesAt p.name = .ok names ∧ written.resolve names = .ok (hint, next) ∧
      found.lookup p.name = some hint := by
  obtain ⟨last, all⟩ := signature.hints_ok found resolved
  have listed := (signature.annotated_lookup distinct p member).trans annotated
  obtain ⟨before, names, hint, next, earlier, here, given⟩ := resolve_all_lookup signature.annotated {} last found p.name written all listed
  refine ⟨names, hint, next, ?_, here, given⟩
  rw [namesAt, earlier]
  rfl

theorem models_lookup_resolved (resolves : signature.Resolves) :
    signature.models.lookup p.name =
      if p.name ∈ signature.argumentNames then p.annotation.bind (modelIn? (signature.namesAt p.name)) else none := by
  obtain ⟨found, resolved⟩ := resolves
  obtain ⟨last, all⟩ := signature.hints_ok found resolved
  have keys := resolve_all_keys signature.annotated {} last found all
  have distinctFound : (found.map Prod.fst).Nodup := keys ▸ signature.annotated_distinct distinct
  rw [models_lookup, allModels, resolved]
  simp only
  rw [lookup_filter_map found Hint.model? p.name distinctFound]
  congr 1
  cases annotated : p.annotation with
  | none =>
    have absent : found.lookup p.name = none := by
      rw [lookup_eq_none_iff, keys, ← lookup_eq_none_iff, signature.annotated_lookup distinct p member, annotated]
    rw [absent]
    rfl
  | some written =>
    obtain ⟨names, hint, next, known, here, given⟩ := signature.resolved_hint distinct p member found resolved written annotated
    rw [given, Option.bind_some, Option.bind_some, modelIn?, known]
    simp only [Except.bind, here]

theorem models_lookup_unresolved (unresolved : ¬ signature.Resolves) :
    signature.models.lookup p.name =
      if p.name ∈ signature.argumentNames then p.annotation.bind Annotation.unresolvedModel? else none := by
  rw [models_lookup, allModels]
  cases result : signature.hints with
  | ok found => exact absurd ⟨found, result⟩ unresolved
  | error fault =>
    simp only [directModels]
    rw [lookup_filter_map _ Annotation.unresolvedModel? p.name (signature.annotated_distinct distinct),
      signature.annotated_lookup distinct p member]

-- A model that is annotated as it is does not have to be looked up.
theorem direct_model_lookup (m : Model) (direct : p.annotation = some (.direct (.model m))) :
    signature.models.lookup p.name = if p.name ∈ signature.argumentNames then some m else none := by
  by_cases resolves : signature.Resolves
  · obtain ⟨found, resolved⟩ := id resolves
    obtain ⟨names, _, _, known, _, _⟩ := signature.resolved_hint distinct p member found resolved _ direct
    rw [signature.models_lookup_resolved distinct p member resolves, direct, Option.bind_some, known]
    rfl
  · rw [signature.models_lookup_unresolved distinct p member resolves, direct]
    rfl

theorem unresolved_model_direct (unresolved : ¬ signature.Resolves) (m : Model) (listed : signature.models.lookup p.name = some m) :
    p.annotation = some (.direct (.model m)) := by
  rw [signature.models_lookup_unresolved distinct p member unresolved, Option.ite_none_right_eq_some] at listed
  obtain ⟨written, annotated, direct⟩ := Option.bind_eq_some_iff.mp listed.2
  rw [annotated]
  unfold Annotation.unresolvedModel? at direct
  split at direct
  · rw [Option.some.inj direct]
  · cases direct

end

theorem model_parameter_agreement (s t : Signature) (p q : Parameter) (inS : p ∈ s.parameters) (inT : q ∈ t.parameters)
    (distinctS : (s.parameters.map (·.name)).Nodup) (distinctT : (t.parameters.map (·.name)).Nodup) (name : q.name = p.name)
    (kind : q.kind = p.kind) (annotated : q.annotation = p.annotation)
    (names : s.Resolves → t.Resolves → s.namesAt p.name = t.namesAt p.name) :
    ((s.Resolves ↔ t.Resolves) → s.models.lookup p.name = t.models.lookup p.name) ∧
    (s.Resolves → ¬ t.Resolves → ∀ m,
      t.models.lookup p.name = some m ↔ s.models.lookup p.name = some m ∧ p.annotation = some (.direct (.model m))) ∧
    (∀ m, p.annotation = some (.direct (.model m)) → s.models.lookup p.name = t.models.lookup p.name) := by
  have argument : p.name ∈ s.argumentNames ↔ p.name ∈ t.argumentNames := by
    have taken := t.argument_iff distinctT q inT
    rw [name, Parameter.ByName, kind] at taken
    rw [s.argument_iff distinctS p inS, taken, Parameter.ByName]
  have direct : ∀ m, p.annotation = some (.direct (.model m)) → s.models.lookup p.name = t.models.lookup p.name := by
    intro m same
    have inOther := t.direct_model_lookup distinctT q inT m (annotated.trans same)
    rw [name] at inOther
    rw [s.direct_model_lookup distinctS p inS m same, inOther]
    simp only [argument]
  refine ⟨fun both => ?_, fun resolves unresolved m => ⟨fun listed => ?_, fun kept => ?_⟩, direct⟩
  · by_cases resolves : s.Resolves
    · have inOther := t.models_lookup_resolved distinctT q inT (both.mp resolves)
      rw [name, annotated] at inOther
      rw [s.models_lookup_resolved distinctS p inS resolves, inOther, names resolves (both.mp resolves)]
      simp only [argument]
    · have inOther := t.models_lookup_unresolved distinctT q inT (mt both.mpr resolves)
      rw [name, annotated] at inOther
      rw [s.models_lookup_unresolved distinctS p inS resolves, inOther]
      simp only [argument]
  · have own := annotated.symm.trans (t.unresolved_model_direct distinctT q inT unresolved m (name ▸ listed))
    exact ⟨(direct m own).trans listed, own⟩
  · exact (direct m kept.2).symm.trans kept.1

-- Two handlers take the same note, which is named in quotes; the other parameter of the second one names nothing.
def notedBy (other : Annotation) : Signature :=
  { parameters := [{ name := "note", annotation := some (.quoted (Text.lettersOf "Note")) }, { name := "other", annotation := some other }] }

theorem note_lost_with_other :
    let s := notedBy (.direct (.cls "int"))
    let t := notedBy (.quoted (Text.lettersOf "Missing"))
    (s.models.lookup "note").map (·.name) = some "Note" ∧ t.models.lookup "note" = none := by
  intro s t
  have resolves : s.Resolves := (resolves_iff s).mpr (by decide +kernel)
  have unresolved : ¬ t.Resolves := (resolves_iff t).not.mpr (by decide +kernel)
  have distinct : ∀ other, ((notedBy other).parameters.map (·.name)).Nodup := fun _ => (by decide : ["note", "other"].Nodup)
  obtain ⟨_, lost, _⟩ := model_parameter_agreement s t _ _ List.mem_cons_self List.mem_cons_self (distinct _) (distinct _) rfl rfl rfl
    fun _ resolved => absurd resolved unresolved
  refine ⟨by decide +kernel, ?_⟩
  rw [Option.eq_none_iff_forall_ne_some]
  intro m listed
  cases ((lost resolves unresolved m).mp listed).2

end RestDispatch.Signature
