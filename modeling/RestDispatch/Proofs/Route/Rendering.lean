import RestDispatch.Proofs.Route.Compilation
import RestDispatch.Proofs.Text.Pieces

set_option autoImplicit false

/-!
Rules written out from their segments. Main statement: segments that rules can express are compiled back from what is
written, and the segments of a compiled rule are such, so a rule and the one written from its segments match alike.
-/
namespace RestDispatch

namespace Segment

-- Segments that some rule can express. Only behind a type may a name hold colons.
structure Expressible (segments : List Segment) : Prop extends WellFormed segments where
  literal : ∀ text, .literal text ∈ segments → Rule.Whole text
  name : ∀ name converter, .placeholder name converter ∈ segments → Rule.Whole name ∧ (converter = .part → ':' ∉ name.toList)

theorem render_bare (name : String) : (render (.placeholder name .part)).toList = '<' :: name.toList ++ ['>'] := by
  simp [render]

theorem render_typed (name : String) (converter : Converter) (typed : converter ≠ .part) :
    (render (.placeholder name converter)).toList = '<' :: (converter.name.toList ++ ':' :: name.toList) ++ ['>'] := by
  cases converter <;> simp_all [render]

end Segment

namespace Rule

def render (segments : List Segment) : String := "/" ++ Text.joinText '/' (segments.map Segment.render)

theorem type_name_clean (converter : Converter) :
    Plain converter.name.toList ∧ ':' ∉ converter.name.toList ∧ '/' ∉ converter.name.toList := by
  cases converter <;> exact ⟨⟨by decide, by decide⟩, by decide, by decide⟩

theorem type_word_listed (converter : Converter) (typed : converter ≠ .part) : (converter.name, converter) ∈ typeWords := by
  cases converter <;> simp_all [typeWords, Converter.name]

section
variable (segments : List Segment) (expressible : Segment.Expressible segments) (segment : Segment) (member : segment ∈ segments)
include expressible member

theorem render_means : Means segment.render.toList segment := by
  cases segment with
  | literal text =>
    have meant := Means.literal (expressible.literal text member).plain
    rwa [String.ofList_toList] at meant
  | placeholder name converter =>
    obtain ⟨whole, colonless⟩ := expressible.name name converter member
    have filled : name.toList ≠ [] := by simpa using whole.filled
    by_cases part : converter = .part
    · subst part
      have meant := Means.bare name.toList ⟨Segment.render_bare name, filled, whole.plain, colonless rfl⟩
      rwa [String.ofList_toList] at meant
    · have typed : Typed (Segment.placeholder name converter).render.toList converter.name.toList name.toList := by
        obtain ⟨plain, unparted, _⟩ := type_name_clean converter
        refine ⟨Segment.render_typed name converter part, ?_, plain, unparted, filled, whole.plain⟩
        cases converter <;> simp_all [Converter.name]
      have listed := type_word_listed converter part
      rw [← String.ofList_toList (s := converter.name)] at listed
      have meant := Means.typed converter.name.toList name.toList converter typed listed
      rwa [String.ofList_toList] at meant

theorem render_token : segment.render.toList ≠ [] ∧ '/' ∉ segment.render.toList := by
  cases segment with
  | literal text =>
    have whole := expressible.literal text member
    exact ⟨by simpa [Segment.render] using whole.filled, whole.slashless⟩
  | placeholder name converter =>
    have slashless := (expressible.name name converter member).1.slashless
    by_cases part : converter = .part
    · subst part
      simp [Segment.render_bare, slashless]
    · simp [Segment.render_typed name converter part, slashless, (type_name_clean converter).2.2]

end

-- What is joined by slashes is parted again, and the slash in front leaves nothing before it.
theorem tokens_of_joined (texts : List String) (solid : ∀ text ∈ texts, text.toList ≠ [] ∧ '/' ∉ text.toList) :
    tokens ("/" ++ Text.joinText '/' texts) = texts.map String.toList := by
  have led : ("/" ++ Text.joinText '/' texts).toList = [] ++ '/' :: Text.join '/' (texts.map String.toList) := by
    simp [Text.joinText]
  have kept : (texts.map String.toList).filter (!·.isEmpty) = texts.map String.toList := by
    rw [List.filter_eq_self]
    intro token member
    obtain ⟨text, inside, rfl⟩ := List.mem_map.mp member
    simpa using (solid text inside).1
  rw [tokens, led, Text.split_append '/' [] _ List.not_mem_nil]
  cases texts with
  | nil => rfl
  | cons first rest =>
    rw [Text.split_join '/' _ (by simp) ?_]
    · exact kept
    · intro token member
      obtain ⟨text, inside, rfl⟩ := List.mem_map.mp member
      exact (solid text inside).2

theorem compile_render (segments : List Segment) (expressible : Segment.Expressible segments) :
    compile (render segments) = .ok ⟨render segments, segments⟩ := by
  have tokens : tokens (render segments) = segments.map fun segment => segment.render.toList := by
    rw [render, tokens_of_joined, List.map_map]
    · rfl
    · intro text member
      obtain ⟨segment, inside, rfl⟩ := List.mem_map.mp member
      exact render_token segments expressible segment inside
  refine (compile_ok_iff_grammatical _ _).mpr ⟨rfl, ⟨?_, expressible.distinct⟩, expressible.closing⟩
  rw [tokens, List.forall₂_map_left_iff, List.forall₂_same]
  exact render_means segments expressible

theorem compile_expressible (text : String) (rule : Rule) (compiled : compile text = .ok rule) :
    Segment.Expressible rule.segments :=
  ⟨compile_well_formed text rule compiled, compile_literal text rule compiled, compile_name text rule compiled⟩

theorem rendered_compiles_back :
    (∀ segments, Segment.Expressible segments → compile (render segments) = .ok ⟨render segments, segments⟩) ∧
    ∀ text rule, compile text = .ok rule → Segment.Expressible rule.segments ∧
      ∃ again, compile (render rule.segments) = .ok again ∧ again.segments = rule.segments ∧
        again.variableNames = rule.variableNames ∧ again.catchAll = rule.catchAll ∧ ∀ parts, again.match? parts = rule.match? parts := by
  refine ⟨compile_render, fun text rule compiled => ?_⟩
  have expressible := compile_expressible text rule compiled
  exact ⟨expressible, _, compile_render rule.segments expressible, rfl, rfl, rfl, fun _ => rfl⟩

-- A number whose name holds a colon, and all that is left.
def colonSegments : List Segment := [.literal "a", .placeholder "x:y" .int, .placeholder "rest" .path]

theorem colon_segments_compile_back :
    compile "a//<int:x:y>/<path:rest>/" = .ok ⟨"a//<int:x:y>/<path:rest>/", colonSegments⟩ ∧
      Segment.Expressible colonSegments ∧ render colonSegments = "/a/<int:x:y>/<path:rest>" ∧
      compile (render colonSegments) = .ok ⟨render colonSegments, colonSegments⟩ := by
  have compiled : compile "a//<int:x:y>/<path:rest>/" = .ok ⟨"a//<int:x:y>/<path:rest>/", colonSegments⟩ := rfl
  obtain ⟨renders, recompiles⟩ := rendered_compiles_back
  obtain ⟨expressible, _⟩ := recompiles _ _ compiled
  exact ⟨compiled, expressible, rfl, renders colonSegments expressible⟩

end Rule
end RestDispatch
