import RestDispatch.Route.Table
import RestDispatch.Proofs.Text.Pieces

set_option autoImplicit false

/-!
When the segments of a rule align with the parts of a path: texts are assigned to the placeholders, each
is accepted by its converter, and the parts are those of the segments one after the other. Main
statements: matching succeeds exactly if there is such an assignment, and there is at most one.
-/
namespace RestDispatch

-- Only what the names of the placeholders stand for matters.
abbrev Assignment := String → String

namespace Segment

def Admits (values : Assignment) : Segment → Prop
  | .literal _ => True
  | .placeholder name converter => converter.accepts (values name) = true

def parts (values : Assignment) : Segment → List String
  | .literal text => [text]
  | .placeholder name converter =>
    if converter.multiSegment then Text.splitText '/' (values name) else [values name]

def names (segments : List Segment) : List String := segments.filterMap variableName?

def readings (values : Assignment) (segments : List Segment) : Captures :=
  (names segments).map fun name => (name, values name)

structure Aligned (values : Assignment) (segments : List Segment) (found : List String) : Prop where
  admitted : ∀ segment ∈ segments, segment.Admits values
  spelled : found = segments.flatMap (parts values)

-- What every rule that was compiled has.
structure WellFormed (segments : List Segment) : Prop where
  distinct : (names segments).Nodup
  closing : ∀ segment ∈ segments.dropLast, segment.takesRest = false

end Segment

namespace Rule

def Aligns (rule : Rule) (values : Assignment) (found : List String) : Prop :=
  Segment.Aligned values rule.segments found

def readings (rule : Rule) (values : Assignment) : Captures := Segment.readings values rule.segments

end Rule

namespace Segment

theorem mem_names_cons (name : String) (segment : Segment) (rest : List Segment) :
    name ∈ names (segment :: rest) ↔ segment.variableName? = some name ∨ name ∈ names rest := by
  simp [names]

theorem names_placeholder (name : String) (converter : Converter) (rest : List Segment) :
    names (.placeholder name converter :: rest) = name :: names rest := rfl

theorem well_formed_tail (segment : Segment) (rest : List Segment) (formed : WellFormed (segment :: rest)) :
    WellFormed rest := by
  constructor
  · have distinct := formed.distinct
    cases segment with
    | literal text => exact distinct
    | placeholder name converter => exact (List.nodup_cons.mp distinct).2
  · intro other member
    cases rest with
    | nil => simp at member
    | cons next others => exact formed.closing other (List.mem_cons_of_mem segment member)

theorem well_formed_last (segment : Segment) (rest : List Segment) (formed : WellFormed (segment :: rest))
    (greedy : segment.takesRest = true) : rest = [] := by
  cases rest with
  | nil => rfl
  | cons next others =>
    have modest := formed.closing segment (by simp)
    rw [greedy] at modest
    cases modest

theorem well_formed_fresh (name : String) (converter : Converter) (rest : List Segment)
    (formed : WellFormed (.placeholder name converter :: rest)) : name ∉ names rest :=
  (List.nodup_cons.mp formed.distinct).1

theorem aligned_nil (values : Assignment) (found : List String) : Aligned values [] found ↔ found = [] :=
  ⟨fun aligned => aligned.spelled, fun empty => ⟨by simp, empty⟩⟩

theorem aligned_cons (values : Assignment) (segment : Segment) (rest : List Segment) (found : List String) :
    Aligned values (segment :: rest) found ↔
      segment.Admits values ∧ ∃ after, found = segment.parts values ++ after ∧ Aligned values rest after := by
  constructor
  · intro aligned
    refine ⟨aligned.admitted segment List.mem_cons_self, rest.flatMap (parts values), ?_, ?_, rfl⟩
    · simpa using aligned.spelled
    · exact fun other member => aligned.admitted other (List.mem_cons_of_mem segment member)
  · rintro ⟨admits, after, rfl, aligned⟩
    refine ⟨?_, by simp [aligned.spelled]⟩
    intro other member
    rcases List.mem_cons.mp member with rfl | later
    · exact admits
    · exact aligned.admitted other later

theorem admits_congr (v w : Assignment) (segment : Segment)
    (same : ∀ name, segment.variableName? = some name → v name = w name) : segment.Admits v ↔ segment.Admits w := by
  cases segment with
  | literal text => rfl
  | placeholder name converter => simp only [Admits, same name rfl]

theorem parts_congr (v w : Assignment) (segment : Segment)
    (same : ∀ name, segment.variableName? = some name → v name = w name) : segment.parts v = segment.parts w := by
  cases segment with
  | literal text => rfl
  | placeholder name converter => simp only [parts, same name rfl]

theorem aligned_congr (v w : Assignment) (segments : List Segment) (found : List String)
    (same : ∀ name ∈ names segments, v name = w name) (aligned : Aligned v segments found) :
    Aligned w segments found := by
  induction segments generalizing found with
  | nil => exact ⟨by simp, aligned.spelled⟩
  | cons segment rest ih =>
    have here : ∀ name, segment.variableName? = some name → v name = w name := fun name named =>
      same name ((mem_names_cons name segment rest).mpr (Or.inl named))
    have there : ∀ name ∈ names rest, v name = w name := fun name member =>
      same name ((mem_names_cons name segment rest).mpr (Or.inr member))
    obtain ⟨admits, after, spelled, aligned⟩ := (aligned_cons v segment rest found).mp aligned
    refine (aligned_cons w segment rest found).mpr ⟨(admits_congr v w segment here).mp admits, after, ?_, ih after there aligned⟩
    rw [spelled, parts_congr v w segment here]

theorem readings_congr (v w : Assignment) (segments : List Segment) (same : ∀ name ∈ names segments, v name = w name) :
    readings v segments = readings w segments :=
  List.map_congr_left fun name member => by rw [same name member]

-- Readings list every name once and in order, so they tell what each of them stands for.
theorem eq_of_readings_eq (v w : Assignment) (segments : List Segment) (same : readings v segments = readings w segments) :
    ∀ name ∈ names segments, v name = w name := by
  intro name member
  have pairs := List.map_inj_left.mp same name member
  exact congrArg Prod.snd pairs

-- Every placeholder captures something, in the order of the rule.
theorem align_names (segments : List Segment) (found : List String) (captures : Captures)
    (matched : align segments found = some captures) : captures.map Prod.fst = names segments := by
  induction segments generalizing found captures with
  | nil =>
    cases found with
    | nil =>
      obtain rfl : [] = captures := Option.some.inj matched
      rfl
    | cons part others => cases matched
  | cons segment rest ih =>
    cases found with
    | nil => cases segment <;> cases matched
    | cons part others =>
      cases segment with
      | literal text =>
        by_cases same : part = text
        · exact ih others captures (by simpa only [align, if_pos same] using matched)
        · simp [align, same] at matched
      | placeholder name converter =>
        by_cases greedy : converter.multiSegment = true
        · by_cases accepted : converter.accepts (Text.joinText '/' (part :: others)) = true
          · simp only [align, if_pos greedy, if_pos accepted, Option.map_eq_some_iff] at matched
            obtain ⟨remaining, inner, rfl⟩ := matched
            rw [List.map_cons, ih [] remaining inner, names_placeholder]
          · simp [align, greedy, accepted] at matched
        · by_cases accepted : converter.accepts part = true
          · simp only [align, if_neg greedy, if_pos accepted, Option.map_eq_some_iff] at matched
            obtain ⟨remaining, inner, rfl⟩ := matched
            rw [List.map_cons, ih others remaining inner, names_placeholder]
          · simp [align, greedy, accepted] at matched

theorem align_of_aligned (values : Assignment) (segments : List Segment) (found : List String)
    (formed : WellFormed segments) (aligned : Aligned values segments found) :
    align segments found = some (readings values segments) := by
  induction segments generalizing found with
  | nil =>
    rw [(aligned_nil values found).mp aligned]
    rfl
  | cons segment rest ih =>
    obtain ⟨admits, after, rfl, behind⟩ := (aligned_cons values segment rest found).mp aligned
    have later := ih after (well_formed_tail segment rest formed) behind
    cases segment with
    | literal text =>
      simp only [parts, List.singleton_append, align, if_true]
      exact later
    | placeholder name converter =>
      have accepted : converter.accepts (values name) = true := admits
      by_cases greedy : converter.multiSegment = true
      · -- The last segment: its parts are all that is left, and joining them gives the text back.
        obtain rfl := well_formed_last (.placeholder name converter) rest formed greedy
        obtain rfl := (aligned_nil values after).mp behind
        have whole := Text.join_split_text '/' (values name)
        simp only [parts, if_pos greedy, List.append_nil]
        cases pieces : Text.splitText '/' (values name) with
        | nil => exact absurd pieces (Text.split_text_ne_nil '/' (values name))
        | cons piece others =>
          rw [pieces] at whole
          simp only [align, if_pos greedy, whole, if_pos accepted, Option.map_some]
          rfl
      · simp only [parts, if_neg greedy, List.singleton_append, align, if_pos accepted, later, Option.map_some]
        rfl

theorem aligned_of_align (segments : List Segment) (found : List String) (captures : Captures)
    (formed : WellFormed segments) (clean : ∀ part ∈ found, '/' ∉ part.toList)
    (matched : align segments found = some captures) :
    ∃ values, Aligned values segments found ∧ captures = readings values segments := by
  induction segments generalizing found captures with
  | nil =>
    cases found with
    | nil =>
      obtain rfl : [] = captures := Option.some.inj matched
      exact ⟨fun _ => "", (aligned_nil _ []).mpr rfl, rfl⟩
    | cons part others => cases matched
  | cons segment rest ih =>
    have tail := well_formed_tail segment rest formed
    cases found with
    | nil => cases segment <;> cases matched
    | cons part others =>
      have cleanOthers : ∀ other ∈ others, '/' ∉ other.toList := fun other member =>
        clean other (List.mem_cons_of_mem part member)
      cases segment with
      | literal text =>
        by_cases same : part = text
        · subst same
          simp only [align, if_true] at matched
          obtain ⟨values, aligned, rfl⟩ := ih others captures tail cleanOthers matched
          exact ⟨values, (aligned_cons values _ rest _).mpr ⟨trivial, others, rfl, aligned⟩, rfl⟩
        · simp [align, same] at matched
      | placeholder name converter =>
        by_cases greedy : converter.multiSegment = true
        · obtain rfl := well_formed_last (.placeholder name converter) rest formed greedy
          by_cases accepted : converter.accepts (Text.joinText '/' (part :: others)) = true
          · simp only [align, if_pos greedy, if_pos accepted, Option.map_some, Option.some.injEq] at matched
            obtain rfl := matched
            have pieces := Text.split_join_text '/' (part :: others) (by simp) clean
            refine ⟨fun _ => Text.joinText '/' (part :: others),
              (aligned_cons _ _ [] _).mpr ⟨accepted, [], ?_, (aligned_nil _ []).mpr rfl⟩, rfl⟩
            simp [parts, greedy, pieces]
          · simp [align, greedy, accepted] at matched
        · by_cases accepted : converter.accepts part = true
          · simp only [align, if_neg greedy, if_pos accepted, Option.map_eq_some_iff] at matched
            obtain ⟨remaining, inner, rfl⟩ := matched
            obtain ⟨values, aligned, rfl⟩ := ih others remaining tail cleanOthers inner
            -- The name is new, so giving it a text changes nothing for the segments behind it.
            have fresh := well_formed_fresh name converter rest formed
            have same : ∀ other ∈ names rest, values other = if other = name then part else values other := by
              intro other member
              have different : other ≠ name := fun equal => fresh (equal ▸ member)
              rw [if_neg different]
            refine ⟨fun other => if other = name then part else values other, ?_, ?_⟩
            · refine (aligned_cons _ _ rest _).mpr ⟨?_, others, ?_, aligned_congr values _ rest others same aligned⟩
              · simpa [Admits] using accepted
              · simp [parts, greedy]
            · rw [readings_congr values _ rest same]
              simp [readings, names_placeholder]
          · simp [align, greedy, accepted] at matched

-- A rule that aligns with some parts aligns in one way only.
theorem aligned_unique (v w : Assignment) (segments : List Segment) (found : List String)
    (formed : WellFormed segments) (left : Aligned v segments found) (right : Aligned w segments found) :
    ∀ name ∈ names segments, v name = w name := by
  have same := (align_of_aligned v segments found formed left).symm.trans (align_of_aligned w segments found formed right)
  exact eq_of_readings_eq v w segments (Option.some.inj same)

end Segment

namespace Rule

theorem match_eq_some_iff (rule : Rule) (found : List String) (captures : Captures)
    (formed : Segment.WellFormed rule.segments) (clean : ∀ part ∈ found, '/' ∉ part.toList) :
    rule.match? found = some captures ↔ ∃ values, rule.Aligns values found ∧ captures = rule.readings values := by
  constructor
  · exact Segment.aligned_of_align rule.segments found captures formed clean
  · rintro ⟨values, aligned, rfl⟩
    exact Segment.align_of_aligned values rule.segments found formed aligned

theorem match_eq_none_iff (rule : Rule) (found : List String) (formed : Segment.WellFormed rule.segments)
    (clean : ∀ part ∈ found, '/' ∉ part.toList) : rule.match? found = none ↔ ∀ values, ¬ rule.Aligns values found := by
  constructor
  · intro missed values aligned
    rw [match?, Segment.align_of_aligned values rule.segments found formed aligned] at missed
    cases missed
  · intro never
    cases matched : rule.match? found with
    | none => rfl
    | some captures =>
      obtain ⟨values, aligned, _⟩ := (match_eq_some_iff rule found captures formed clean).mp matched
      exact absurd aligned (never values)

end Rule

theorem mem_of_mem_trim_parts (part : String) (parts : List String) (member : part ∈ trimParts parts) : part ∈ parts := by
  have shorter : ∀ rest : List String, part ∈ (if rest.getLast? = some "" then rest.dropLast else rest) → part ∈ rest := by
    intro rest inside
    split at inside
    · exact List.dropLast_subset rest inside
    · exact inside
  have inside := shorter _ member
  split at inside
  · exact List.mem_of_mem_tail inside
  · exact inside

theorem split_path_clean (path part : String) (member : part ∈ splitPath path) : '/' ∉ part.toList :=
  Text.clean_of_mem_split_text '/' path part (mem_of_mem_trim_parts part _ member)

end RestDispatch
