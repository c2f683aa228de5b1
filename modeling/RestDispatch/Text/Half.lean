set_option autoImplicit false

/-!
Halves of surrogate pairs that stand alone. They are no characters, but texts that come from outside may hold them,
in names, rules and messages too. A string holds such a half as a character for private use whose code is `halfShift`
more than the half's. Main statements: a half is read back from the character that holds it, and no other character holds it.
-/
namespace RestDispatch.Text

def halfShift : Nat := 0xF0000

def isHalfCode (code : Nat) : Bool := 0xD800 ≤ code && code ≤ 0xDFFF

def heldHalf (unit : Nat) : Char := Char.ofNat (halfShift + unit)

-- The half that a character holds, if it holds one.
def half? (c : Char) : Option Nat :=
  if isHalfCode (c.toNat - halfShift) then some (c.toNat - halfShift) else none

def holdsHalf (text : String) : Bool := text.toList.any fun c => (half? c).isSome

theorem half_of_held_half (unit : Nat) (half : isHalfCode unit = true) : half? (heldHalf unit) = some unit := by
  have low : 0xD800 ≤ unit ∧ unit ≤ 0xDFFF := by simpa [isHalfCode] using half
  have valid : (halfShift + unit).isValidChar := Or.inr ⟨by simp only [halfShift]; omega, by simp only [halfShift]; omega⟩
  have code : (heldHalf unit).toNat = halfShift + unit := by
    rw [heldHalf, Char.ofNat, dif_pos valid]
    rfl
  simp [half?, code, half]

theorem held_half_of_half (c : Char) (unit : Nat) (held : half? c = some unit) : heldHalf unit = c := by
  rw [half?] at held
  split at held
  case isTrue half =>
    obtain rfl := Option.some.inj held
    have low : 0xD800 ≤ c.toNat - halfShift := by
      rw [isHalfCode, Bool.and_eq_true] at half
      exact of_decide_eq_true half.1
    have whole : halfShift + (c.toNat - halfShift) = c.toNat := by omega
    rw [heldHalf, whole, Char.ofNat_toNat]
  case isFalse => cases held

end RestDispatch.Text
