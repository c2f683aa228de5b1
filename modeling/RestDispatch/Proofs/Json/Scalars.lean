import RestDispatch.Json.Decode
import RestDispatch.Json.Encode

set_option autoImplicit false

/-!
Strings and integers in JSON texts, read back. Main statements: the string of a text of characters is read as that text,
and the digits of an integer are read as that integer, whatever stands after them.
-/
namespace RestDispatch.Json

open Text (letters)

-- How a character of a string is read: the control characters that have no short escape come as their codes.
def partOf (c : Char) : StringPart :=
  if (escapeLetter? c).isNone && c.toNat < 0x20 then .escaped c.toNat else .letter (.char c)

def shortEscapes : List (Char × Char) :=
  [('"', '"'), ('\\', '\\'), ('\n', 'n'), ('\r', 'r'), ('\t', 't'), ('\x08', 'b'), ('\x0c', 'f')]

theorem short_escape_listed (c letter : Char) (escape : escapeLetter? c = some letter) : (c, letter) ∈ shortEscapes := by
  unfold escapeLetter? at escape
  split at escape
  · rename_i itself
    obtain rfl : c = letter := by simpa using escape
    rcases (by simpa using itself : c = '"' ∨ c = '\\') with rfl | rfl <;> decide
  · repeat' split at escape
    all_goals cases escape
    all_goals (subst_vars; decide)

theorem short_escape_back : ∀ pair ∈ shortEscapes, pair.2 ≠ 'u' ∧ unescape? pair.2 = some pair.1 := by decide

theorem code_escape : ∀ code < 0x20, Text.hex 4 code = ['0', '0', Nat.digitChar (code / 16), Nat.digitChar (code % 16)] ∧
    hexUnit? '0' '0' (Nat.digitChar (code / 16)) (Nat.digitChar (code % 16)) = some code := by
  decide

theorem plain_char (c : Char) (plain : escapeLetter? c = none) : c ≠ '"' ∧ c ≠ '\\' := by
  constructor <;> rintro rfl <;> cases plain

-- An escape by code is told only where something stands after it; after a string stands at least the quote.
theorem string_char_read (opening : List Letter) (c : Char) (rest : List Letter) (more : rest ≠ []) :
    stringParts opening (letters (stringChar c) ++ rest) = prepend (partOf c) (stringParts opening rest) := by
  cases escape : escapeLetter? c with
  | some letter =>
    obtain ⟨short, back⟩ := short_escape_back (c, letter) (short_escape_listed c letter escape)
    have part : partOf c = .letter (.char c) := by simp [partOf, escape]
    simp [stringChar, escape, part, letters, stringParts, short, unescapeLetter?, back]
  | none =>
    obtain ⟨quote, backslash⟩ := plain_char c escape
    by_cases control : c.toNat < 0x20
    · have part : partOf c = .escaped c.toNat := by simp [partOf, escape, control]
      obtain ⟨digits, unit⟩ := code_escape c.toNat control
      obtain ⟨next, others, rfl⟩ := List.exists_cons_of_ne_nil more
      simp [stringChar, escape, control, digits, part, letters, stringParts, hexLetters?, unit]
    · have part : partOf c = .letter (.char c) := by simp [partOf, escape, control]
      simp [stringChar, escape, part, letters, stringParts, quote, backslash, isControl, control]

theorem string_parts_read (opening : List Letter) (cs : List Char) (rest : List Letter) :
    stringParts opening ((letters cs).flatMap stringLetter ++ .char '"' :: rest) = .ok (cs.map partOf, rest) := by
  induction cs with
  | nil => rfl
  | cons c others ih =>
    have split : (letters (c :: others)).flatMap stringLetter ++ .char '"' :: rest =
        letters (stringChar c) ++ ((letters others).flatMap stringLetter ++ .char '"' :: rest) := by
      rw [← List.append_assoc]
      rfl
    rw [split, string_char_read opening c _ (by simp), ih]
    rfl

theorem join_low_escape (code : Nat) (low : code < 0x20) (rest : List StringPart) :
    joinParts (.escaped code :: rest) = .char (Char.ofNat code) :: joinParts rest := by
  have high : Text.isHighSurrogate code = false := by simp [Text.isHighSurrogate]; omega
  have single : Text.letterOf code = .char (Char.ofNat code) := by
    rw [Text.letterOf, if_neg]
    simp [Text.isHighSurrogate, Text.isLowSurrogate]
    omega
  match rest with
  | [] => simp only [joinParts, single]
  | .letter l :: others => simp only [joinParts, single]
  | .escaped next :: others =>
    rw [joinParts, if_neg (by simp [high]), single]

theorem join_parts_of (cs : List Char) : joinParts (cs.map partOf) = letters cs := by
  induction cs with
  | nil => rfl
  | cons c others ih =>
    rw [List.map_cons, partOf]
    split
    · rename_i code
      have low : c.toNat < 0x20 := by simp_all
      rw [join_low_escape c.toNat low, ih, Char.ofNat_toNat]
      rfl
    · rw [joinParts, ih]
      rfl

theorem string_tail_read (opening : List Letter) (cs : List Char) (rest : List Letter) :
    stringTail opening ((letters cs).flatMap stringLetter ++ .char '"' :: rest) = .ok (letters cs, rest) := by
  rw [stringTail, string_parts_read, ← join_parts_of]
  rfl

theorem digit_char_nonzero : ∀ n < 10, n ≠ 0 → Nat.digitChar n ≠ '0' := by decide

-- Only zero starts with the digit zero.
theorem digits_lead (n : Nat) (nonzero : n ≠ 0) : ∃ first rest, Nat.toDigits 10 n = first :: rest ∧ first ≠ '0' := by
  induction n using Nat.strongRecOn with
  | ind n ih =>
    by_cases single : n < 10
    · exact ⟨_, [], Nat.toDigits_of_lt_base single, digit_char_nonzero n single nonzero⟩
    · obtain ⟨first, rest, digits, lead⟩ := ih (n / 10) (by omega) (by omega)
      exact ⟨first, rest ++ [Nat.digitChar (n % 10)], by rw [Nat.toDigits_of_base_le (by decide) (by omega), digits]; rfl, lead⟩

theorem digits_are_digits (n : Nat) : ∀ c ∈ Nat.toDigits 10 n, c.isDigit = true :=
  fun _ member => Nat.isDigit_of_mem_toDigits (by decide) (by decide) member

theorem digits_value (n : Nat) : Decimal.digitsValue (Nat.toDigits 10 n) = n := Nat.ofDigitChars_toDigits (by decide) (by decide)

theorem whole_digits (n : Nat) : Decimal.wholeDigits (Nat.toDigits 10 n) = (Nat.toDigits 10 n, []) := by
  by_cases zero : n = 0
  · subst zero
    rfl
  · obtain ⟨first, rest, digits, lead⟩ := digits_lead n zero
    have all := digits_are_digits n
    have taken : (Nat.toDigits 10 n ++ []).takeWhile Char.isDigit = Nat.toDigits 10 n ++ [].takeWhile Char.isDigit :=
      List.takeWhile_append_of_pos all
    have dropped : (Nat.toDigits 10 n ++ []).dropWhile Char.isDigit = [].dropWhile Char.isDigit := List.dropWhile_append_of_pos all
    rw [List.append_nil, List.takeWhile_nil, List.append_nil] at taken
    rw [List.append_nil, List.dropWhile_nil] at dropped
    rw [digits] at taken dropped ⊢
    rw [Decimal.wholeDigits, Decimal.takeDigits, taken, dropped]
    rintro rest' equal
    exact lead (List.cons.inj equal).1

theorem number_unsigned (bounds : Bounds) (n : Nat) (short : bounds.digits.any (· < (Nat.toDigits 10 n).length) = false) :
    number bounds (Nat.toDigits 10 n) = .ok (.int n, []) := by
  rw [number]
  · simp [whole_digits, Nat.toDigits_ne_nil, fractionDigits, exponentPart, short, digits_value]
  · intro rest signed
    have digit := digits_are_digits n '-' (by simp [signed])
    exact absurd digit (by decide)

theorem number_minus (bounds : Bounds) (n : Nat) (short : bounds.digits.any (· < (Nat.toDigits 10 n).length) = false) :
    number bounds ('-' :: Nat.toDigits 10 n) = .ok (.int (-n), []) := by
  rw [number]
  simp [whole_digits, Nat.toDigits_ne_nil, fractionDigits, exponentPart, short, digits_value]

theorem digit_starts_no_word (c : Char) (digit : c.isDigit = true) :
    c ≠ 'n' ∧ c ≠ 't' ∧ c ≠ 'f' ∧ c ≠ 'N' ∧ c ≠ 'I' ∧ c ≠ '-' := by
  refine ⟨?_, ?_, ?_, ?_, ?_, ?_⟩ <;> (rintro rfl; exact absurd digit (by decide))

theorem after_other (w c : Char) (word cs : List Char) (other : c ≠ w) : after? (w :: word) (c :: cs) = none := by
  rw [after?, if_neg (Ne.symm other)]

theorem scalar_chars_digit (bounds : Bounds) (c : Char) (cs : List Char) (digit : c.isDigit = true) :
    scalarChars bounds (c :: cs) = number bounds (c :: cs) := by
  obtain ⟨n, t, f, undefined, infinite, minus⟩ := digit_starts_no_word c digit
  simp [scalarChars, words, after_other, *]

theorem scalar_chars_minus (bounds : Bounds) (c : Char) (cs : List Char) (digit : c.isDigit = true) :
    scalarChars bounds ('-' :: c :: cs) = number bounds ('-' :: c :: cs) := by
  obtain ⟨n, t, f, undefined, infinite, minus⟩ := digit_starts_no_word c digit
  simp [scalarChars, words, after?, Ne.symm infinite]

theorem scalar_run_letters (cs : List Char) (rest : List Letter) (scalars : ∀ c ∈ cs, isScalarChar c = true) :
    scalarRun (letters cs ++ rest) = cs ++ scalarRun rest := by
  induction cs with
  | nil => rfl
  | cons c others ih =>
    obtain ⟨first, later⟩ := List.forall_mem_cons.mp scalars
    rw [letters, List.map_cons, List.cons_append, scalarRun, if_pos first, ← letters, ih later, List.cons_append]

-- A word or a number ends where a letter stands that belongs to none.
theorem scalar_read (bounds : Bounds) (cs : List Char) (rest : List Letter) (v : Value) (scalars : ∀ c ∈ cs, isScalarChar c = true)
    (ends : scalarRun rest = []) (read : scalarChars bounds cs = .ok (v, [])) : scalar bounds (letters cs ++ rest) = .ok (v, rest) := by
  have run : scalarRun (letters cs ++ rest) = cs := by rw [scalar_run_letters cs rest scalars, ends, List.append_nil]
  have left : (letters cs ++ rest).drop (cs.length - ([] : List Char).length) = rest := List.drop_left' (List.length_map ..)
  simp only [scalar, run, read, left]

theorem int_chars_scalars (i : Int) : ∀ c ∈ Value.intChars i, isScalarChar c = true := by
  have digits : ∀ c ∈ Nat.toDigits 10 i.natAbs, isScalarChar c = true := by
    intro c member
    simp [isScalarChar, Char.isAlphanum, digits_are_digits _ c member]
  unfold Value.intChars
  dsimp only
  split
  · exact List.forall_mem_cons.mpr ⟨rfl, digits⟩
  · exact digits

theorem int_chars_read (bounds : Bounds) (i : Int) (short : bounds.digits.any (· < (Nat.toDigits 10 i.natAbs).length) = false) :
    scalarChars bounds (Value.intChars i) = .ok (.int i, []) := by
  obtain ⟨first, rest, digits⟩ := List.exists_cons_of_ne_nil (Nat.toDigits_ne_nil (n := i.natAbs) (b := 10))
  have digit : first.isDigit = true := digits_are_digits i.natAbs first (by simp [digits])
  unfold Value.intChars
  dsimp only
  split
  · have read := number_minus bounds i.natAbs short
    rw [digits] at read ⊢
    rw [scalar_chars_minus bounds first rest digit, read]
    congr
    omega
  · have read := number_unsigned bounds i.natAbs short
    rw [digits] at read ⊢
    rw [scalar_chars_digit bounds first rest digit, read]
    congr
    omega

end RestDispatch.Json
