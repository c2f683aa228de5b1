import RestDispatch.Text.Unicode

set_option autoImplicit false

/-!
Texts in bytes, read back. Main statement: a text of characters, none of which is the zero character and the first of
which is a basic one, is told to be in one to four bytes a character, and is read as it was written.
-/
namespace RestDispatch.Text

namespace Utf8

theorem byte_value (n : Nat) (small : n < 256) : (UInt8.ofNat n).toNat = n := UInt8.toNat_ofNat_of_lt' small

theorem char_range (c : Char) : c.toNat < 0xD800 ∨ (0xDFFF < c.toNat ∧ c.toNat < 0x110000) := c.valid

-- A character is complete when its last byte is read: the codes of halves are no characters.
theorem complete_char (c : Char) : complete c.toNat = .char c := by
  have range := char_range c
  have whole : ¬ (0xD800 ≤ c.toNat ∧ c.toNat ≤ 0xDFFF) := by omega
  rw [complete, if_neg (by simpa using whole), Char.ofNat_toNat]

theorem extend_within (halves : Bool) (current : Partial) (byte : Nat) (low : current.low ≤ byte) (high : byte ≤ current.high) :
    extend halves current byte =
      if current.owed = 1 then ([complete (current.code * 64 + (byte - 0x80))], none)
      else ([], some ⟨current.code * 64 + (byte - 0x80), current.seen + 1, current.owed - 1, 0x80, 0xBF⟩) := by
  rw [extend, if_pos (by simp [low, high])]

theorem begin_lead (halves : Bool) (byte : Nat) (next : Partial) (lead : lead? halves byte = some next) (wide : 0x80 ≤ byte) :
    begin halves byte = ([], some next) := by
  rw [begin, if_neg (by omega), lead]

theorem lead_two (halves : Bool) (code : Nat) (low : 0x80 ≤ code) (high : code < 0x800) :
    lead? halves (0xC0 + code / 64) = some ⟨code / 64, 1, 1, 0x80, 0xBF⟩ := by
  have range : 0xC2 ≤ 0xC0 + code / 64 ∧ 0xC0 + code / 64 ≤ 0xDF := by omega
  rw [lead?, if_pos (by simpa using range), Nat.add_sub_cancel_left]

-- Some first bytes allow only a part of the bytes that may come second, and that part holds what was written.
theorem lead_three (halves : Bool) (code : Nat) (low : 0x800 ≤ code) (high : code < 0x10000) (whole : code < 0xD800 ∨ 0xDFFF < code) :
    ∃ least most, lead? halves (0xE0 + code / 4096) = some ⟨code / 4096, 1, 2, least, most⟩ ∧
      least ≤ 0x80 + code / 64 % 64 ∧ 0x80 + code / 64 % 64 ≤ most := by
  by_cases first : code / 4096 = 0
  · exact ⟨0xA0, 0xBF, by rw [first]; rfl, by omega, by omega⟩
  · by_cases before : code / 4096 = 13
    · refine ⟨0x80, if halves then 0xBF else 0x9F, by rw [before]; rfl, by omega, ?_⟩
      split <;> omega
    · refine ⟨0x80, 0xBF, ?_, by omega, by omega⟩
      have range : 0xE1 ≤ 0xE0 + code / 4096 ∧ 0xE0 + code / 4096 ≤ 0xEF := by omega
      rw [lead?, if_neg (by simp; omega), if_neg (by omega), if_neg (by omega), if_pos (by simpa using range), Nat.add_sub_cancel_left]

theorem lead_four (halves : Bool) (code : Nat) (low : 0x10000 ≤ code) (high : code < 0x110000) :
    ∃ least most, lead? halves (0xF0 + code / 262144) = some ⟨code / 262144, 1, 3, least, most⟩ ∧
      least ≤ 0x80 + code / 4096 % 64 ∧ 0x80 + code / 4096 % 64 ≤ most := by
  have five : code / 262144 = 0 ∨ code / 262144 = 1 ∨ code / 262144 = 2 ∨ code / 262144 = 3 ∨ code / 262144 = 4 := by omega
  rcases five with first | first | first | first | first
  · exact ⟨0x90, 0xBF, by rw [first]; rfl, by omega, by omega⟩
  · exact ⟨0x80, 0xBF, by rw [first]; rfl, by omega, by omega⟩
  · exact ⟨0x80, 0xBF, by rw [first]; rfl, by omega, by omega⟩
  · exact ⟨0x80, 0xBF, by rw [first]; rfl, by omega, by omega⟩
  · exact ⟨0x80, 0x8F, by rw [first]; rfl, by omega, by omega⟩

theorem pieces_begin (halves : Bool) (byte : UInt8) (rest : Bytes) (found : List Piece) (next : Option Partial)
    (begun : begin halves byte.toNat = (found, next)) : piecesFrom halves none (byte :: rest) = found ++ piecesFrom halves next rest := by
  simp only [piecesFrom, begun]

theorem pieces_lead (halves : Bool) (byte : Nat) (rest : Bytes) (next : Partial) (lead : lead? halves byte = some next)
    (wide : 0x80 ≤ byte) (small : byte < 256) :
    piecesFrom halves none (UInt8.ofNat byte :: rest) = piecesFrom halves (some next) rest := by
  have begun : begin halves (UInt8.ofNat byte).toNat = ([], some next) := by
    rw [byte_value byte small]
    exact begin_lead halves byte next lead wide
  exact pieces_begin halves _ rest [] (some next) begun

theorem pieces_further (halves : Bool) (code seen owed least most byte : Nat) (rest : Bytes) (low : least ≤ byte) (high : byte ≤ most)
    (small : byte < 256) :
    piecesFrom halves (some ⟨code, seen, owed + 2, least, most⟩) (UInt8.ofNat byte :: rest) =
      piecesFrom halves (some ⟨code * 64 + (byte - 0x80), seen + 1, owed + 1, 0x80, 0xBF⟩) rest := by
  simp only [piecesFrom, byte_value byte small, extend_within halves ⟨code, seen, owed + 2, least, most⟩ byte low high]
  rw [if_neg (by omega)]
  rfl

theorem pieces_last (halves : Bool) (code seen least most byte : Nat) (rest : Bytes) (low : least ≤ byte) (high : byte ≤ most)
    (small : byte < 256) :
    piecesFrom halves (some ⟨code, seen, 1, least, most⟩) (UInt8.ofNat byte :: rest) =
      complete (code * 64 + (byte - 0x80)) :: piecesFrom halves none rest := by
  simp only [piecesFrom, byte_value byte small, extend_within halves ⟨code, seen, 1, least, most⟩ byte low high]
  rfl

-- One case for each number of bytes that a character takes.
theorem pieces_char (halves : Bool) (c : Char) (rest : Bytes) :
    piecesFrom halves none (encodeChar c ++ rest) = .char c :: piecesFrom halves none rest := by
  have range := char_range c
  have done := complete_char c
  have named := Char.ofNat_toNat c
  rw [encodeChar]
  generalize c.toNat = code at range done named
  by_cases one : code < 0x80
  · have begun : begin halves (UInt8.ofNat code).toNat = ([.char c], none) := by
      rw [byte_value code (by omega), begin, if_pos one, named]
    simp only [if_pos one, List.singleton_append, pieces_begin halves _ rest _ _ begun]
  by_cases two : code < 0x800
  · have last : code / 64 * 64 + (0x80 + code % 64 - 0x80) = code := by omega
    simp only [if_neg one, if_pos two, List.cons_append, List.nil_append]
    rw [pieces_lead halves _ _ _ (lead_two halves code (by omega) two) (by omega) (by omega),
      pieces_last halves _ _ _ _ _ _ (by omega) (by omega) (by omega), last, done]
  by_cases three : code < 0x10000
  · obtain ⟨least, most, lead, low, high⟩ := lead_three halves code (by omega) three (range.imp id And.left)
    have last : (code / 4096 * 64 + (0x80 + code / 64 % 64 - 0x80)) * 64 + (0x80 + code % 64 - 0x80) = code := by omega
    simp only [if_neg one, if_neg two, if_pos three, List.cons_append, List.nil_append]
    rw [pieces_lead halves _ _ _ lead (by omega) (by omega), pieces_further halves _ _ 0 _ _ _ _ low high (by omega),
      pieces_last halves _ _ _ _ _ _ (by omega) (by omega) (by omega), last, done]
  · obtain ⟨least, most, lead, low, high⟩ := lead_four halves code (by omega) (by omega)
    have last : ((code / 262144 * 64 + (0x80 + code / 4096 % 64 - 0x80)) * 64 + (0x80 + code / 64 % 64 - 0x80)) * 64 +
        (0x80 + code % 64 - 0x80) = code := by omega
    simp only [if_neg one, if_neg two, if_neg three, List.cons_append, List.nil_append]
    rw [pieces_lead halves _ _ _ lead (by omega) (by omega), pieces_further halves _ _ 1 _ _ _ _ low high (by omega),
      pieces_further halves _ _ 0 _ _ _ _ (by omega) (by omega) (by omega),
      pieces_last halves _ _ _ _ _ _ (by omega) (by omega) (by omega), last, done]

theorem pieces_encode (halves : Bool) (cs : List Char) : pieces halves (encode cs) = cs.map .char := by
  induction cs with
  | nil => rfl
  | cons c rest ih =>
    rw [pieces] at ih ⊢
    rw [encode, List.flatMap_cons, pieces_char, List.map_cons, ← ih]
    rfl

theorem collect_chars (position : Nat) (cs : List Char) : collect position (cs.map .char) = .ok (letters cs) := by
  induction cs generalizing position with
  | nil => rfl
  | cons c rest ih =>
    rw [List.map_cons, collect, ih]
    rfl

theorem decode_encode (cs : List Char) : decode (encode cs) = .ok (letters cs) := by
  rw [decode, pieces_encode, collect_chars]

theorem encode_injective (cs ds : List Char) (same : encode cs = encode ds) : cs = ds := by
  have decoded := decode_encode cs
  rw [same, decode_encode] at decoded
  rw [← leadingChars_letters cs, ← Except.ok.inj decoded, leadingChars_letters]

theorem bytes_nonzero (values : List Nat) (range : ∀ n ∈ values, 0 < n ∧ n < 256) : ∀ byte ∈ values.map UInt8.ofNat, byte ≠ 0 := by
  intro byte member zero
  obtain ⟨n, among, rfl⟩ := List.mem_map.mp member
  have bounds := range n among
  have value := byte_value n bounds.2
  rw [zero] at value
  exact absurd value (Nat.ne_of_lt bounds.1)

theorem encode_char_nonzero (c : Char) (nonzero : c.toNat ≠ 0) : ∀ byte ∈ encodeChar c, byte ≠ 0 := by
  have range := char_range c
  rw [encodeChar]
  generalize c.toNat = code at nonzero range
  split
  · exact bytes_nonzero [code] (by simp; omega)
  split
  · exact bytes_nonzero [0xC0 + code / 64, 0x80 + code % 64] (by simp; omega)
  split
  · exact bytes_nonzero [0xE0 + code / 4096, 0x80 + code / 64 % 64, 0x80 + code % 64] (by simp; omega)
  · exact bytes_nonzero [0xF0 + code / 262144, 0x80 + code / 4096 % 64, 0x80 + code / 64 % 64, 0x80 + code % 64] (by simp; omega)

theorem encode_letters_chars (cs : List Char) : encodeLetters (letters cs) = .ok (encode cs) := by
  have whole : (letters cs).dropWhile (!isHalf ·) = [] := by
    induction cs with
    | nil => rfl
    | cons c rest ih => exact ih
  rw [encodeLetters, whole, leadingChars_letters]

theorem encode_nonzero (cs : List Char) (nonzero : ∀ c ∈ cs, c.toNat ≠ 0) : ∀ byte ∈ encode cs, byte ≠ 0 := by
  intro byte member
  obtain ⟨c, among, within⟩ := List.mem_flatMap.mp member
  exact encode_char_nonzero c (nonzero c among) byte within

end Utf8

theorem marks_start : ∀ entry ∈ marks, (entry.1.head?.any fun byte => byte = 0 || 0x80 ≤ byte.toNat) = true := by decide

-- A mark starts with a byte that starts no basic character, and the other encodings put zeros among the first bytes.
theorem detect_basic (first : UInt8) (rest : Bytes) (basic : first.toNat < 0x80) (nonzero : ∀ byte ∈ first :: rest, byte ≠ 0) :
    detect (first :: rest) = (.utf8, 0) := by
  have head : first ≠ 0 := nonzero first List.mem_cons_self
  have none : marks.find? (·.1.isPrefixOf (first :: rest)) = none := by
    rw [List.find?_eq_none]
    intro entry member fits
    have start := marks_start entry member
    cases mark : entry.1 with
    | nil => simp [mark] at start
    | cons byte others =>
      obtain ⟨same, _⟩ : byte = first ∧ others <+: rest := by simpa [mark] using fits
      have either : byte = 0 ∨ 0x80 ≤ byte.toNat := by simpa [mark] using start
      rw [same] at either
      exact either.elim head (Nat.not_le_of_lt basic)
  have plain : unmarked (first :: rest) = .utf8 := by
    unfold unmarked
    split
    next a b c d others equal =>
      rw [equal] at nonzero
      rw [if_neg (nonzero a (by simp)), if_neg (nonzero b (by simp))]
    next a b equal =>
      rw [equal] at nonzero
      rw [if_neg (nonzero a (by simp)), if_neg (nonzero b (by simp))]
    next => rfl
  rw [detect, none, plain]

theorem decode_detected_encode (c : Char) (rest : List Char) (basic : c.toNat < 0x80) (nonzero : ∀ other ∈ c :: rest, other.toNat ≠ 0) :
    decodeDetected (Utf8.encode (c :: rest)) = .ok (letters (c :: rest)) := by
  have single : Utf8.encodeChar c = [UInt8.ofNat c.toNat] := by rw [Utf8.encodeChar, if_pos basic]
  have spelled : Utf8.encode (c :: rest) = UInt8.ofNat c.toNat :: Utf8.encode rest := by
    rw [Utf8.encode, List.flatMap_cons, single]
    rfl
  have whole := Utf8.encode_nonzero (c :: rest) nonzero
  rw [spelled] at whole
  have told : detect (Utf8.encode (c :: rest)) = (.utf8, 0) := by
    rw [spelled]
    exact detect_basic _ _ (by rw [Utf8.byte_value _ (by omega)]; exact basic) whole
  rw [decodeDetected, told]
  simp only [decodeAs, List.drop_zero, Utf8.decode_encode]

end RestDispatch.Text
