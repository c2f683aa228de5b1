import RestDispatch.Text.Blank
import RestDispatch.Proofs.Text.Lowering
import Mathlib.Data.List.DropRight
import Mathlib.Data.List.TakeWhile

set_option autoImplicit false

/-!
Texts that are lowered and trimmed. Main statement: a text is trimmed to nothing exactly if it is made of blanks, and to
lower it before makes no difference to that, as neither a blank nor any other letter becomes or ceases to be one.
-/
namespace RestDispatch.Text

def blankRanges : List (Nat × Nat) := whiteSpaceRanges ++ [(0x1C, 0x1F)]

theorem is_blank_eq (c : Char) : isBlank c = inRanges blankRanges c.toNat := by
  simp [isBlank, isWhiteSpace, inRanges, blankRanges]

-- No shift to lower case starts or ends at a blank.
def Shift.sparesBlanks (run : Shift) : Bool :=
  0 ≤ run.first + run.amount && blankRanges.all fun range =>
    (run.last < range.1 || range.2 < run.first) && (run.last + run.amount < range.1 || range.2 < run.first + run.amount)

theorem lower_runs_spare_blanks : ∀ run ∈ lowerRuns, run.sparesBlanks = true := by decide +kernel

theorem shifted_blank (code next : Nat) (found : shifted? lowerRuns code = some next) :
    inRanges blankRanges code = false ∧ inRanges blankRanges next = false := by
  obtain ⟨run, member, first, last, rfl⟩ := shifted_from lowerRuns code next found
  have spared := lower_runs_spare_blanks run member
  simp only [Shift.sparesBlanks, List.all_eq_true, Bool.and_eq_true, Bool.or_eq_true, decide_eq_true_eq] at spared
  simp only [inRanges, List.any_eq_false, Bool.and_eq_true, decide_eq_true_eq]
  obtain ⟨positive, apart⟩ := spared
  refine ⟨fun range member => ?_, fun range member => ?_⟩
  · have before := (apart range member).1
    omega
  · have after := (apart range member).2
    omega

-- What a letter is lowered to: something, and blank if and only if the letter is.
theorem lower_char_blank (c : Char) : lowerChar c ≠ [] ∧ (lowerChar c).all isBlank = isBlank c := by
  have way := lower_char_lowers c
  generalize lowerChar c = lowered at way ⊢
  cases way with
  | basic small =>
    have same : ∀ code < 128, isBlank (Char.ofNat code).toLower = isBlank (Char.ofNat code) := by decide +kernel
    have here := same c.toNat small
    rw [Char.ofNat_toNat] at here
    exact ⟨List.cons_ne_nil _ _, by simpa using here⟩
  | expanded code =>
    rw [is_blank_eq, code]
    decide
  | shifted next found =>
    obtain ⟨solid, nextSolid⟩ := shifted_blank c.toNat next found
    have still : isBlank (Char.ofNat next) = false := by
      rw [is_blank_eq]
      rcases code_of_nat next with same | zero
      · rw [same, nextSolid]
      · rw [zero]
        decide
    simp [is_blank_eq c, solid, still]
  | same => simp

theorem lower_between_blank (before after : List Char) (c : Char) :
    lowerBetween before c after ≠ [] ∧ (lowerBetween before c after).all isBlank = isBlank c := by
  rw [lowerBetween]
  split
  case isTrue sigma =>
    subst sigma
    rw [smallSigma]
    split <;> decide
  case isFalse => exact lower_char_blank c

theorem lower_from_blank (before cs : List Char) :
    (lowerFrom before cs = [] ↔ cs = []) ∧ (lowerFrom before cs).all isBlank = cs.all isBlank := by
  induction cs generalizing before with
  | nil => exact ⟨Iff.rfl, rfl⟩
  | cons c cs ih =>
    obtain ⟨some, first⟩ := lower_between_blank before cs c
    rw [lowerFrom, List.all_append, List.all_cons, first, (ih (c :: before)).2]
    simp [some]

-- The halves of surrogate pairs stand far above the blanks.
theorem letter_in_blank (c : Char) : isBlankLetter (letterIn c) = isBlank c := by
  rw [letterIn]
  cases half : half? c with
  | none => rfl
  | some unit =>
    have high : 0xD800 ≤ c.toNat := by
      rw [half?, Option.ite_none_right_eq_some, isHalfCode, Bool.and_eq_true, decide_eq_true_eq] at half
      exact Nat.le_trans half.1.1 (Nat.sub_le _ _)
    have low : ∀ range ∈ blankRanges, range.2 < 0xD800 := by decide
    have solid : inRanges blankRanges c.toNat = false := by
      simp only [inRanges, List.any_eq_false, Bool.and_eq_true, decide_eq_true_eq]
      intro range member
      have below := low range member
      omega
    rw [is_blank_eq, solid]
    rfl

theorem lower_blank (cs : List Char) :
    (lettersOf (lower (String.ofList cs)) = [] ↔ cs = []) ∧
      (lettersOf (lower (String.ofList cs))).all isBlankLetter = cs.all isBlank := by
  have chars : lettersOf (lower (String.ofList cs)) = (lowerFrom [] cs).map letterIn := by
    simp only [lettersOf, lower, String.toList_ofList]
  have same : isBlankLetter ∘ letterIn = isBlank := by
    funext c
    rw [Function.comp_apply, letter_in_blank]
  obtain ⟨empty, blank⟩ := lower_from_blank [] cs
  rw [chars, List.map_eq_nil_iff, List.all_map, same]
  exact ⟨empty, blank⟩

theorem lowered_from_blank (run : List Char) (text : List Letter) :
    (mapRunsFrom lower run text = [] ↔ run = [] ∧ text = []) ∧
      (mapRunsFrom lower run text).all isBlankLetter = (run.all isBlank && text.all isBlankLetter) := by
  induction text generalizing run with
  | nil =>
    obtain ⟨empty, blank⟩ := lower_blank run.reverse
    rw [mapRunsFrom, blank, empty]
    simp
  | cons letter rest ih =>
    cases letter with
    | char c =>
      obtain ⟨empty, blank⟩ := ih (c :: run)
      rw [mapRunsFrom, blank, empty]
      simp [isBlankLetter, Bool.and_left_comm, Bool.and_assoc]
    | half unit =>
      rw [mapRunsFrom]
      simp [isBlankLetter]

theorem lowered_nil_iff (text : List Letter) : mapRuns lower text = [] ↔ text = [] := by
  rw [mapRuns, (lowered_from_blank [] text).1]
  simp

theorem lowered_all_blank (text : List Letter) : (mapRuns lower text).all isBlankLetter = text.all isBlankLetter := by
  rw [mapRuns, (lowered_from_blank [] text).2]
  simp

theorem trim_by_nil_iff {α : Type} (drop : α → Bool) (cs : List α) : trimBy drop cs = [] ↔ cs.all drop = true := by
  have dropped : ∀ cs : List α, cs.dropWhile drop = [] ↔ cs.all drop = true := by
    intro cs
    rw [List.dropWhile_eq_nil_iff, List.all_eq_true]
  rw [trimBy, List.reverse_eq_nil_iff, dropped, List.all_reverse, ← dropped, List.dropWhile_idempotent, dropped]

end RestDispatch.Text
