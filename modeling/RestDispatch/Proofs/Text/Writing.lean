import RestDispatch.Text.Utf8

set_option autoImplicit false

/-!
Which texts have bytes. Main statements: a text can be written in one byte a character if all its
characters are among the first 256, and in one to four bytes a character if no letter of it is a half.
What is written in one byte a character is read back.
-/
namespace RestDispatch.Text

theorem latin_bytes_is_ok (text : String) : (latinBytes? text).isOk = text.toList.all isLatin := by
  rw [latinBytes?]
  have stops : ∀ cs : List Char, (cs.dropWhile isLatin).isEmpty = cs.all isLatin := by
    intro cs
    induction cs with
    | nil => rfl
    | cons c cs ih => cases latin : isLatin c <;> simp [latin, ih]
  have whole := stops text.toList
  cases dropped : text.toList.dropWhile isLatin with
  | nil => simpa [dropped, Except.isOk, Except.toBool] using whole
  | cons c cs => simpa [dropped, Except.isOk, Except.toBool] using whole

theorem latin_char_back (c : Char) (latin : isLatin c = true) : Char.ofNat (UInt8.ofNat c.toNat).toNat = c := by
  have low : c.toNat < 256 := by simpa [isLatin] using latin
  rw [UInt8.toNat_ofNat_of_lt' low, Char.ofNat_toNat]

theorem latin_chars_back (cs : List Char) (latin : cs.all isLatin = true) :
    latinText (cs.map fun c => UInt8.ofNat c.toNat) = String.ofList cs := by
  rw [latinText, List.map_map]
  refine congrArg String.ofList ((List.map_congr_left fun c member => ?_).trans (List.map_id cs))
  exact latin_char_back c (List.all_eq_true.mp latin c member)

theorem latin_bytes_read (text : String) (latin : text.toList.all isLatin = true) :
    ∃ bytes, latinBytes? text = .ok bytes ∧ latinText bytes = text := by
  have whole := latin_bytes_is_ok text
  rw [latin, latinBytes?] at whole
  rw [latinBytes?]
  split at whole
  case h_1 => exact ⟨_, rfl, by rw [latin_chars_back _ latin, String.ofList_toList]⟩
  case h_2 => cases whole

namespace Utf8

theorem encode_letters_is_ok (text : List Letter) : (encodeLetters text).isOk = !text.any isHalf := by
  induction text with
  | nil => rfl
  | cons letter rest ih =>
    cases letter with
    | half unit => rfl
    | char c =>
      have skipped : (Letter.char c :: rest).dropWhile (!isHalf ·) = rest.dropWhile (!isHalf ·) := rfl
      rw [encodeLetters] at ih ⊢
      rw [skipped]
      have shorter : (Letter.char c :: rest).any isHalf = rest.any isHalf := rfl
      rw [shorter, ← ih]
      cases rest.dropWhile (!isHalf ·) with
      | nil => rfl
      | cons first others => cases first <;> rfl

end Utf8

theorem letters_any_half (cs : List Char) : (letters cs).any Utf8.isHalf = false := by
  induction cs with
  | nil => rfl
  | cons c cs ih => exact ih

theorem letters_of_any_half (text : String) : (lettersOf text).any Utf8.isHalf = holdsHalf text := by
  have single : Utf8.isHalf ∘ letterIn = fun c => (half? c).isSome := by
    funext c
    rw [Function.comp, letterIn]
    generalize half? c = held
    cases held <;> rfl
  rw [lettersOf, holdsHalf, List.any_map, single]

end RestDispatch.Text
