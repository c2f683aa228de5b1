import RestDispatch.Text.Case
import RestDispatch.Text.Latin
import RestDispatch.Proofs.Value.Entries

set_option autoImplicit false

/-!
What a character is lowered to. Main statement: the first 256 characters are lowered to characters among them, and so are
texts that are made of them.
-/
namespace RestDispatch.Text

theorem code_of_nat (code : Nat) : (Char.ofNat code).toNat = code ∨ (Char.ofNat code).toNat = 0 := by
  by_cases valid : code.isValidChar
  · rw [Char.ofNat, dif_pos valid]
    exact Or.inl rfl
  · rw [Char.ofNat, dif_neg valid]
    exact Or.inr rfl

theorem shifted_from (runs : List Shift) (code next : Nat) (found : shifted? runs code = some next) :
    ∃ run ∈ runs, run.first ≤ code ∧ code ≤ run.last ∧ next = ((code : Int) + run.amount).toNat := by
  obtain ⟨run, first, rfl⟩ := Option.map_eq_some_iff.mp found
  have covered := List.find?_some first
  simp only [Shift.covers, Bool.and_eq_true, decide_eq_true_eq] at covered
  exact ⟨run, List.mem_of_find?_eq_some first, covered.1.1, covered.1.2, rfl⟩

-- The ways in which a character is lowered: by itself, by the one expansion, by a run, or not at all.
inductive Lowers (c : Char) : List Char → Prop where
  | basic (small : c.toNat < 128) : Lowers c [c.toLower]
  | expanded (code : c.toNat = 0x130) : Lowers c [Char.ofNat 0x69, Char.ofNat 0x307]
  | shifted (next : Nat) (found : shifted? lowerRuns c.toNat = some next) : Lowers c [Char.ofNat next]
  | same : Lowers c [c]

theorem lower_char_lowers (c : Char) : Lowers c (lowerChar c) := by
  rw [lowerChar]
  split
  case isTrue small => exact .basic small
  case isFalse =>
    rw [mapCase]
    split
    case h_1 codes expanded =>
      have listed : (c.toNat, codes) = (0x130, [0x69, 0x307]) := List.mem_singleton.mp (mem_of_lookup _ _ _ expanded)
      obtain ⟨code, rfl⟩ := Prod.mk.inj listed
      exact .expanded code
    case h_2 =>
      cases found : shifted? lowerRuns c.toNat with
      | none => exact .same
      | some next => exact .shifted next found

theorem lower_char_latin (c : Char) (latin : isLatin c = true) : (lowerChar c).all isLatin = true := by
  have low : c.toNat < 256 := by simpa [isLatin] using latin
  have way := lower_char_lowers c
  generalize lowerChar c = lowered at way ⊢
  cases way with
  | basic small =>
    have each : ∀ code < 128, [(Char.ofNat code).toLower].all isLatin = true := by decide +kernel
    have here := each c.toNat small
    rwa [Char.ofNat_toNat] at here
  | expanded code => omega
  | shifted next found =>
    have reach : ∀ run ∈ lowerRuns, run.first < 256 → (run.last : Int) + run.amount < 256 := by decide +kernel
    obtain ⟨run, member, first, last, rfl⟩ := shifted_from lowerRuns c.toNat next found
    have below := reach run member (by omega)
    rcases code_of_nat ((c.toNat : Int) + run.amount).toNat with same | zero
    · simp only [List.all_cons, List.all_nil, Bool.and_true, isLatin, same, decide_eq_true_eq]
      omega
    · simp [isLatin, zero]
  | same => simpa using latin

theorem lower_from_latin (before cs : List Char) (latin : cs.all isLatin = true) : (lowerFrom before cs).all isLatin = true := by
  induction cs generalizing before with
  | nil => rfl
  | cons c cs ih =>
    obtain ⟨first, others⟩ := Bool.and_eq_true_iff.mp latin
    have small : c ≠ capitalSigma := by
      rintro rfl
      exact absurd first (by decide)
    rw [lowerFrom, lowerBetween, if_neg small, List.all_append, lower_char_latin c first, ih (c :: before) others]
    rfl

theorem lower_latin (text : String) (latin : text.toList.all isLatin = true) : (lower text).toList.all isLatin = true := by
  rw [lower, String.toList_ofList]
  exact lower_from_latin [] text.toList latin

end RestDispatch.Text
