import RestDispatch.Decimal.Shortest
import RestDispatch.Proofs.Json.Grammar
import RestDispatch.Proofs.Json.Scalars
import Mathlib.Algebra.Order.Ring.Nat

set_option autoImplicit false

/-!
Numbers in JSON texts. Main statements: the shortest digits of a float that is not zero are not zero, or lie where no zeros
are written after them; so an integer and a finite float are written as numerals of the standard grammar, and any other
float as a word that begins outside of it.
-/
namespace RestDispatch.Decimal

theorem weight_pos (base place : Nat) (positive : 0 < base) : 0 < weight base place := Nat.pow_pos positive

theorem zero_not_read_back (size : Dyadic) (tens : Int) (positive : size.mantissa ≠ 0) : size.readsBack 0 tens = false := by
  have least : ∀ gap ≤ 2, 0 < 4 * size.mantissa - gap := by omega
  have below : compareScaled 0 tens (4 * size.mantissa - (if size.narrow then 1 else 2)) (size.exponent - 2) = .lt := by
    rw [compareScaled, Nat.zero_mul, Nat.zero_mul, Nat.compare_eq_lt]
    have gap : (if size.narrow then 1 else 2) ≤ 2 := by split <;> decide
    exact Nat.mul_pos (Nat.mul_pos (least _ gap) (weight_pos 2 _ (by decide))) (weight_pos 10 _ (by decide))
  simp [Dyadic.readsBack, below]

-- Digits on a grid read back to the float, and zero does not.
theorem on_grid_nonzero (size : Dyadic) (tens : Int) (digits : Nat) (positive : size.mantissa ≠ 0) (found : size.onGrid? tens = some digits) :
    digits ≠ 0 := by
  rintro rfl
  have zero := zero_not_read_back size tens positive
  unfold Dyadic.onGrid? at found
  dsimp only at found
  split at found
  · rename_i down _
    split at found
    · rw [Option.some.inj found, zero] at down
      cases down
    · cases found
    · split at found
      · rw [Option.some.inj found, zero] at down
        cases down
      · cases found
  · rename_i down _
    rw [Option.some.inj found, zero] at down
    cases down
  · cases found
  · cases found

theorem places_bound (size : Dyadic) : size.places ≤ ((size.mantissa.log2 : Int) + size.exponent) * 30103 / 100000 + 5 := by
  unfold Dyadic.places
  dsimp only
  cases found : List.find? _ _ with
  | none => simp; omega
  | some places =>
    obtain ⟨step, within, rfl⟩ := List.mem_map.mp (List.mem_of_find?_eq_some found)
    have small := List.mem_range.mp within
    simp only [Option.getD_some]
    omega

theorem weight_add (base first second : Nat) : weight base first * weight base second = weight base (first + second) :=
  (Nat.pow_add base first second).symm

theorem weight_mono (first second : Nat) (below : first ≤ second) : weight 2 first ≤ weight 2 second :=
  Nat.pow_le_pow_right (by decide) below

theorem tens_within_twos (place : Nat) : weight 10 place ≤ weight 2 (4 * place) := by
  have sixteen : weight 2 (4 * place) = weight 16 place := Nat.pow_mul 2 4 place
  rw [sixteen]
  exact Nat.pow_le_pow_left (by decide) place

-- A unit is not above the float if its decimal places, four binary ones each, are not more than the float's binary places.
theorem in_units_nonzero (size : Dyadic) (tens : Nat) (positive : size.mantissa ≠ 0)
    (room : 4 * (tens : Int) ≤ (size.mantissa.log2 : Int) + size.exponent) : size.inUnits tens ≠ 0 := by
  have unsigned : (tens : Int).toNat = tens ∧ (-(tens : Int)).toNat = 0 := by omega
  have places : (-size.exponent).toNat + 4 * tens ≤ size.mantissa.log2 + size.exponent.toNat := by omega
  have unit : weight 2 (-size.exponent).toNat * weight 10 tens ≤ size.mantissa * weight 2 size.exponent.toNat := by
    calc weight 2 (-size.exponent).toNat * weight 10 tens
        ≤ weight 2 (-size.exponent).toNat * weight 2 (4 * tens) := Nat.mul_le_mul_left _ (tens_within_twos tens)
      _ = weight 2 ((-size.exponent).toNat + 4 * tens) := weight_add 2 _ _
      _ ≤ weight 2 (size.mantissa.log2 + size.exponent.toNat) := weight_mono _ _ places
      _ = weight 2 size.mantissa.log2 * weight 2 size.exponent.toNat := (weight_add 2 _ _).symm
      _ ≤ size.mantissa * weight 2 size.exponent.toNat := Nat.mul_le_mul_right _ (Nat.log2_self_le positive)
  have one : weight 10 0 = 1 := rfl
  rw [Dyadic.inUnits, unsigned.1, unsigned.2, one, Nat.mul_one]
  exact Nat.ne_of_gt (Nat.div_pos unit (Nat.mul_pos (weight_pos 2 _ (by decide)) (weight_pos 10 _ (by decide))))

-- Digits after which zeros may be written in front of a point: such zeros stand only where the digits end in units of up to
-- fifteen zeros.
def Leads (digits : Nat) (tens : Int) : Prop := digits ≠ 0 ∨ tens ≤ 0 ∨ 16 ≤ tens

theorem shortest_leads (size : Dyadic) (positive : size.mantissa ≠ 0) : Leads size.shortest.1 size.shortest.2 := by
  unfold Dyadic.shortest
  dsimp only
  cases found : List.findSome? _ _ with
  | some result =>
    obtain ⟨count, within, mapped⟩ := List.exists_of_findSome?_eq_some found
    obtain ⟨digits, grid, rfl⟩ := Option.map_eq_some_iff.mp mapped
    exact Or.inl (on_grid_nonzero size _ digits positive grid)
  | none =>
    by_cases few : size.places - 17 ≤ 0
    · exact Or.inr (Or.inl few)
    · by_cases many : 16 ≤ size.places - 17
      · exact Or.inr (Or.inr many)
      · have bound := places_bound size
        obtain ⟨tens, whole⟩ := Int.eq_ofNat_of_zero_le (Int.le_of_lt (Int.not_le.mp few))
        refine Or.inl ?_
        simp only [Option.getD_none, whole]
        exact in_units_nonzero size tens positive (by omega)

theorem drop_zeros_leads (fuel digits : Nat) (tens : Int) (leads : Leads digits tens) :
    Leads (dropZeros fuel digits tens).1 (dropZeros fuel digits tens).2 := by
  induction fuel generalizing digits tens with
  | zero => exact leads
  | succ fuel ih =>
    rw [dropZeros]
    split
    · rename_i ending
      have rest : digits / 10 ≠ 0 := by
        simp only [ne_eq, decide_not, Bool.and_eq_true, Bool.not_eq_true', decide_eq_false_iff_not, decide_eq_true_eq] at ending
        omega
      exact ih (digits / 10) (tens + 1) (Or.inl rest)
    · exact leads

end RestDispatch.Decimal

namespace RestDispatch.Json

open Decimal (Leads)

theorem digits_of_number (n : Nat) : IsDigits (Nat.toDigits 10 n) := ⟨Nat.toDigits_ne_nil, digits_are_digits n⟩

theorem digits_append (first second : List Char) (nonempty : first ++ second ≠ []) (each : ∀ c ∈ first, c.isDigit = true)
    (also : ∀ c ∈ second, c.isDigit = true) : IsDigits (first ++ second) := by
  refine ⟨nonempty, fun c member => ?_⟩
  rcases List.mem_append.mp member with left | right
  · exact each c left
  · exact also c right

theorem zeros_are_digits (count : Nat) : ∀ c ∈ List.replicate count '0', c.isDigit = true := by
  intro c member
  rw [List.eq_of_mem_replicate member]
  rfl

theorem zeros_before (count n : Nat) : IsDigits (List.replicate count '0' ++ Nat.toDigits 10 n) := by
  apply digits_append
  · exact List.append_ne_nil_of_right_ne_nil _ Nat.toDigits_ne_nil
  · exact zeros_are_digits count
  · exact digits_are_digits n

theorem zeros_after (count n : Nat) : IsDigits (Nat.toDigits 10 n ++ List.replicate count '0') := by
  apply digits_append
  · exact List.append_ne_nil_of_left_ne_nil Nat.toDigits_ne_nil _
  · exact digits_are_digits n
  · exact zeros_are_digits count

theorem whole_number (n : Nat) : Whole (Nat.toDigits 10 n) := by
  by_cases zero : n = 0
  · subst zero
    exact .zero
  · obtain ⟨first, rest, digits, lead⟩ := digits_lead n zero
    have shown := digits_of_number n
    rw [digits] at shown ⊢
    exact .leading first rest lead shown

theorem int_numeral (i : Int) : Numeral (Value.intChars i) := by
  have size : Unsigned (Nat.toDigits 10 i.natAbs) := by
    have parts := Unsigned.parts _ [] [] (whole_number i.natAbs) .absent .absent
    rwa [List.append_nil, List.append_nil] at parts
  unfold Value.intChars
  dsimp only
  split
  · exact .minus _ size
  · exact .plain _ size

-- More than one digit: the first is no zero.
theorem many_digits_lead (n : Nat) (many : 1 < (Nat.toDigits 10 n).length) : ∃ first rest, Nat.toDigits 10 n = first :: rest ∧ first ≠ '0' ∧ rest ≠ [] := by
  have nonzero : n ≠ 0 := by
    rintro rfl
    exact absurd many (by decide)
  obtain ⟨first, rest, digits, lead⟩ := digits_lead n nonzero
  refine ⟨first, rest, digits, lead, ?_⟩
  rintro rfl
  rw [digits] at many
  exact absurd many (by simp)

theorem exponent_written (n : Int) : Exponent ('e' :: Decimal.Layout.usual.exponent n) := by
  have digits := zeros_before (2 - (Nat.toDigits 10 n.natAbs).length) n.natAbs
  unfold Decimal.Layout.usual
  dsimp only
  split
  · exact .present 'e' ['-'] _ (by decide) (by decide) digits
  · exact .present 'e' ['+'] _ (by decide) (by decide) digits

theorem digits_leading (first : Char) (rest kept : List Char) (digits : IsDigits (first :: rest)) (within : ∀ c ∈ kept, c ∈ rest) :
    IsDigits (first :: kept) := by
  refine ⟨by simp, List.forall_mem_cons.mpr ⟨digits.2 first (by simp), ?_⟩⟩
  exact fun c member => digits.2 c (List.mem_cons_of_mem first (within c member))

-- The four forms of a layout, one by one.

theorem below_one_unsigned (zeros n : Nat) : Unsigned ('0' :: '.' :: List.replicate zeros '0' ++ Nat.toDigits 10 n) := by
  have parts := Unsigned.parts ['0'] _ [] .zero (.present _ (zeros_before zeros n)) .absent
  rwa [List.append_nil] at parts

theorem pointed_unsigned (n point : Nat) (some : point ≠ 0) (within : point < (Nat.toDigits 10 n).length) :
    Unsigned ((Nat.toDigits 10 n).take point ++ '.' :: (Nat.toDigits 10 n).drop point) := by
  obtain ⟨first, rest, digits, lead, others⟩ := many_digits_lead n (by omega)
  obtain ⟨before, rfl⟩ := Nat.exists_eq_succ_of_ne_zero some
  have shown := digits_of_number n
  rw [digits] at within shown ⊢
  rw [List.take_succ_cons, List.drop_succ_cons]
  have whole : Whole (first :: rest.take before) :=
    .leading first _ lead (digits_leading first rest _ shown fun c member => List.mem_of_mem_take member)
  have fraction : IsDigits (rest.drop before) := by
    constructor
    · simpa using within
    · exact fun c member => shown.2 c (List.mem_cons_of_mem first (List.mem_of_mem_drop member))
  have parts := Unsigned.parts _ _ [] whole (.present _ fraction) .absent
  rwa [List.append_nil] at parts

theorem round_unsigned (n zeros : Nat) (leads : n ≠ 0 ∨ zeros = 0) :
    Unsigned (Nat.toDigits 10 n ++ List.replicate zeros '0' ++ ['.', '0']) := by
  have whole : Whole (Nat.toDigits 10 n ++ List.replicate zeros '0') := by
    rcases leads with nonzero | rfl
    · obtain ⟨first, rest, digits, lead⟩ := digits_lead n nonzero
      have shown := zeros_after zeros n
      rw [digits] at shown ⊢
      exact .leading first _ lead shown
    · rw [List.replicate_zero, List.append_nil]
      exact whole_number n
  have parts := Unsigned.parts _ ['.', '0'] [] whole (.present ['0'] (digits_of_number 0)) .absent
  rwa [List.append_nil] at parts

theorem exponential_unsigned (n : Nat) (exponent : Int) :
    Unsigned ((Nat.toDigits 10 n).take 1 ++ (if (Nat.toDigits 10 n).length = 1 then [] else '.' :: (Nat.toDigits 10 n).drop 1) ++
      'e' :: Decimal.Layout.usual.exponent exponent) := by
  by_cases single : (Nat.toDigits 10 n).length = 1
  · have all : (Nat.toDigits 10 n).take 1 = Nat.toDigits 10 n := List.take_of_length_le (by omega)
    rw [if_pos single, all]
    exact .parts _ [] _ (whole_number n) .absent (exponent_written exponent)
  · have some := List.length_pos_iff.mpr (digits_of_number n).1
    obtain ⟨first, rest, digits, lead, others⟩ := many_digits_lead n (by omega)
    have shown := digits_of_number n
    rw [if_neg single]
    rw [digits] at shown ⊢
    have whole : Whole [first] := .leading first [] lead (digits_leading first rest [] shown (by simp))
    have fraction : IsDigits rest := ⟨others, fun c member => shown.2 c (List.mem_cons_of_mem first member)⟩
    exact .parts [first] _ _ whole (.present rest fraction) (exponent_written exponent)

theorem placed_unsigned (n : Nat) (tens : Int) (leads : Leads n tens) :
    Unsigned (Decimal.Layout.usual.place (Nat.toDigits 10 n) (tens + (Nat.toDigits 10 n).length)) := by
  have some := List.length_pos_iff.mpr (digits_of_number n).1
  unfold Decimal.Layout.place
  dsimp only
  generalize point : tens + ((Nat.toDigits 10 n).length : Int) = place
  split
  · rename_i positional
    split
    · exact below_one_unsigned _ n
    · split
      · exact pointed_unsigned n place.toNat (by omega) (by omega)
      · apply round_unsigned
        rcases leads with nonzero | small | large
        · exact Or.inl nonzero
        · exact Or.inr (by omega)
        · simp [Decimal.Layout.usual] at positional
          omega
  · exact exponential_unsigned n _

theorem zero_unsigned : Unsigned ['0', '.', '0'] := .parts ['0'] ['.', '0'] [] .zero (.present ['0'] (digits_of_number 0)) .absent

theorem finite_numeral (x : Float) : Numeral (Decimal.finiteText x) := by
  unfold Decimal.finiteText Decimal.textIn
  dsimp only
  generalize unsigned : (if (Decimal.Dyadic.ofBits x.toBits).mantissa = 0 then _ else _) = cs
  have size : Unsigned cs := by
    rw [← unsigned]
    split
    · exact zero_unsigned
    · rename_i positive
      have leads := Decimal.drop_zeros_leads 20 _ _ (Decimal.shortest_leads _ positive)
      exact placed_unsigned _ _ leads
  split
  · exact .minus cs size
  · exact .plain cs size

theorem float_numeral (x : Float) (finite : Decimal.isFinite x = true) : Numeral (floatText x) := by
  rw [floatText, if_pos finite]
  exact finite_numeral x

theorem scans_float (x : Float) : Scans (floatText x) (!Decimal.isFinite x) := by
  cases finite : Decimal.isFinite x with
  | true => exact scans_numeral _ (float_numeral x finite)
  | false =>
    rw [floatText, if_neg (by simp [finite])]
    split
    · exact scans_unquoted "NaN".toList (by decide)
    · split
      · exact scans_unquoted "-Infinity".toList (by decide)
      · exact scans_unquoted "Infinity".toList (by decide)

end RestDispatch.Json
