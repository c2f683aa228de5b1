import RestDispatch.Proofs.Route.Grammar

set_option autoImplicit false

/-!
What every compiled rule has: its own text, placeholders of different names, a placeholder for all parts that are left
nowhere but at its end, and texts in which nothing stands that would part the rule.
-/
namespace RestDispatch.Rule

theorem compile_text (text : String) (rule : Rule) (compiled : compile text = .ok rule) : rule.text = text :=
  ((compile_ok_iff_grammatical text rule).mp compiled).1

theorem compile_well_formed (text : String) (rule : Rule) (compiled : compile text = .ok rule) :
    Segment.WellFormed rule.segments := by
  obtain ⟨_, grammatical, closing⟩ := (compile_ok_iff_grammatical text rule).mp compiled
  exact ⟨grammatical.distinct, closing⟩

theorem mem_tokens_iff (text : String) (token : List Char) :
    token ∈ tokens text ↔ token ∈ Text.split '/' text.toList ∧ token ≠ [] := by
  rw [tokens, List.mem_filter]
  simp

-- Every segment is what some token means.
theorem meant_origin (tokens : List (List Char)) (segments : List Segment) (meant : List.Forall₂ Means tokens segments)
    (segment : Segment) (member : segment ∈ segments) : ∃ token ∈ tokens, Means token segment := by
  induction meant with
  | nil => cases member
  | @cons token first tokens segments here _ ih =>
    rcases List.mem_cons.mp member with rfl | later
    · exact ⟨token, List.mem_cons_self, here⟩
    · obtain ⟨origin, inside, same⟩ := ih later
      exact ⟨origin, List.mem_cons_of_mem token inside, same⟩

theorem compile_origin (text : String) (rule : Rule) (compiled : compile text = .ok rule) (segment : Segment)
    (member : segment ∈ rule.segments) : ∃ token, token ≠ [] ∧ '/' ∉ token ∧ Means token segment := by
  obtain ⟨_, grammatical, _⟩ := (compile_ok_iff_grammatical text rule).mp compiled
  obtain ⟨token, inside, meant⟩ := meant_origin _ _ grammatical.meant segment member
  obtain ⟨piece, filled⟩ := (mem_tokens_iff text token).mp inside
  exact ⟨token, filled, Text.not_mem_of_mem_split '/' text.toList token piece, meant⟩

-- A text that may stand in a rule.
structure Whole (text : String) : Prop where
  filled : text ≠ ""
  slashless : '/' ∉ text.toList
  plain : Plain text.toList

theorem whole_of_list (cs : List Char) (filled : cs ≠ []) (slashless : '/' ∉ cs) (plain : Plain cs) : Whole (String.ofList cs) := by
  refine ⟨by simpa using filled, ?_, ?_⟩ <;> rwa [String.toList_ofList]

theorem compile_literal (text : String) (rule : Rule) (compiled : compile text = .ok rule) (literal : String)
    (member : .literal literal ∈ rule.segments) : Whole literal := by
  obtain ⟨token, filled, slashless, meant⟩ := compile_origin text rule compiled _ member
  cases meant with
  | literal plain => exact whole_of_list token filled slashless plain

theorem compile_name (text : String) (rule : Rule) (compiled : compile text = .ok rule) (name : String) (converter : Converter)
    (member : .placeholder name converter ∈ rule.segments) : Whole name ∧ (converter = .part → ':' ∉ name.toList) := by
  obtain ⟨token, _, slashless, meant⟩ := compile_origin text rule compiled _ member
  cases meant with
  | bare name bare =>
    have inside : '/' ∉ name := fun held => slashless (by simp [bare.written, held])
    exact ⟨whole_of_list name bare.filled inside bare.plain, fun _ => by simpa using bare.colonless⟩
  | typed type name converter typed known =>
    have inside : '/' ∉ name := fun held => slashless (by simp [typed.written, held])
    refine ⟨whole_of_list name typed.nameFilled inside typed.namePlain, fun part => ?_⟩
    subst part
    simp [typeWords] at known

end RestDispatch.Rule
