import RestDispatch.Proofs.Route.Reordering
import RestDispatch.Proofs.Route.Spelling
import Mathlib.Computability.Language

set_option autoImplicit false

/-!
The languages of the converters. Main statement: every converter accepts exactly the texts of its pattern; so `int` lies within
`str`, both and `float` lie within the parts, `float` lies apart from both, and a `path` is parts between single slashes.
-/
namespace RestDispatch

open scoped Computability

namespace Text

theorem split_head {α : Type} [DecidableEq α] (separator : α) (cs : List α) (leads : cs.head? = some separator) :
    split separator cs = [] :: split separator cs.tail := by
  obtain ⟨rest, rfl⟩ := List.head?_eq_some_iff.mp leads
  rw [split, if_pos rfl, List.tail_cons]

-- A text has an empty piece exactly if it is empty or a separator stands at an end or beside another.
theorem nil_mem_split_iff {α : Type} [DecidableEq α] (separator : α) (cs : List α) :
    [] ∈ split separator cs ↔
      cs = [] ∨ cs.head? = some separator ∨ cs.getLast? = some separator ∨ [separator, separator] <:+: cs := by
  constructor
  · intro member
    obtain ⟨front, back, cut⟩ := List.append_of_mem member
    have joined : cs = join separator (front ++ [] :: back) := by rw [← cut, join_split]
    by_cases first : front = []
    · subst first
      cases back with
      | nil => exact Or.inl joined
      | cons piece pieces =>
        rw [joined]
        exact Or.inr (Or.inl rfl)
    · by_cases last : back = []
      · subst last
        rw [join_append separator front [[]] first (List.cons_ne_nil _ _)] at joined
        rw [joined]
        exact Or.inr (Or.inr (Or.inl List.getLast?_concat))
      · exact Or.inr (Or.inr (Or.inr ((doubled_iff separator cs).mpr ⟨front, back, first, last, cut⟩)))
  · rintro (rfl | leads | ends | doubled)
    · exact List.mem_singleton.mpr rfl
    · rw [split_head separator cs leads]
      exact List.mem_cons_self
    · obtain ⟨front, rfl⟩ := List.getLast?_eq_some_iff.mp ends
      rw [split_parts]
      exact List.mem_append_right _ (List.mem_singleton.mpr rfl)
    · obtain ⟨front, back, _, _, cut⟩ := (doubled_iff separator cs).mp doubled
      rw [cut]
      exact List.mem_append_right _ List.mem_cons_self

-- A character at the end of a text goes to its last piece.
theorem split_concat {α : Type} [DecidableEq α] (separator c : α) (cs last : List α) (front : List (List α)) (other : c ≠ separator)
    (cut : split separator cs = front ++ [last]) : split separator (cs ++ [c]) = front ++ [last ++ [c]] := by
  have clean : ∀ piece ∈ front ++ [last], separator ∉ piece := fun piece member =>
    not_mem_of_mem_split separator cs piece (cut ▸ member)
  have longer : separator ∉ last ++ [c] := by
    have short := clean last (List.mem_append_right _ (List.mem_singleton.mpr rfl))
    simp [short, other.symm]
  have joined : join separator (front ++ [last ++ [c]]) = cs ++ [c] := by
    rw [← join_split separator cs, cut]
    by_cases first : front = []
    · subst first
      rfl
    · rw [join_append separator front [last ++ [c]] first (List.cons_ne_nil _ _),
        join_append separator front [last] first (List.cons_ne_nil _ _), List.append_assoc]
      rfl
  rw [← joined]
  refine split_join separator _ (by simp) fun piece member => ?_
  rcases List.mem_append.mp member with inside | here
  · exact clean piece (List.mem_append_left _ inside)
  · exact List.mem_singleton.mp here ▸ longer

end Text

namespace Converter

-- Digits and signs of words are those of the basic block.
def Digit (c : Char) : Prop := '0' ≤ c ∧ c ≤ '9'

instance : DecidablePred Digit := fun c => inferInstanceAs (Decidable ('0' ≤ c ∧ c ≤ '9'))

def WordSign (c : Char) : Prop := ('A' ≤ c ∧ c ≤ 'Z') ∨ ('a' ≤ c ∧ c ≤ 'z') ∨ Digit c ∨ c = '_'

instance : DecidablePred WordSign := fun c =>
  inferInstanceAs (Decidable (('A' ≤ c ∧ c ≤ 'Z') ∨ ('a' ≤ c ∧ c ≤ 'z') ∨ Digit c ∨ c = '_'))

-- The texts of one character of a class, and those of one or more.
def one (p : Char → Prop) : Language Char := {cs | ∃ c, p c ∧ cs = [c]}

def several (p : Char → Prop) : Language Char := one p * (one p)∗

def pattern : Converter → Language Char
  | .part => several (· ≠ '/')
  | .str => several WordSign
  | .int => several Digit
  | .float => several Digit * one (· = '.') * several Digit
  | .path => several (· ≠ '/') * (one (· = '/') * several (· ≠ '/'))∗

theorem mem_star_one_iff (p : Char → Prop) (cs : List Char) : cs ∈ (one p)∗ ↔ ∀ c ∈ cs, p c := by
  rw [Language.mem_kstar]
  constructor
  · rintro ⟨pieces, rfl, each⟩ c member
    obtain ⟨piece, inside, held⟩ := List.mem_flatten.mp member
    obtain ⟨d, passes, rfl⟩ := each piece inside
    exact List.mem_singleton.mp held ▸ passes
  · intro each
    refine ⟨cs.map fun c => [c], (List.flatMap_singleton' cs).symm, fun piece member => ?_⟩
    obtain ⟨c, inside, rfl⟩ := List.mem_map.mp member
    exact ⟨c, each c inside, rfl⟩

theorem mem_several_iff (p : Char → Prop) (cs : List Char) : cs ∈ several p ↔ cs ≠ [] ∧ ∀ c ∈ cs, p c := by
  rw [several, Language.mem_mul]
  constructor
  · rintro ⟨first, ⟨c, passes, rfl⟩, rest, others, rfl⟩
    refine ⟨List.cons_ne_nil _ _, fun d member => ?_⟩
    rcases List.mem_cons.mp member with rfl | later
    · exact passes
    · exact (mem_star_one_iff p rest).mp others d later
  · rintro ⟨filled, each⟩
    obtain ⟨c, rest, rfl⟩ := List.exists_cons_of_ne_nil filled
    exact ⟨[c], ⟨c, each c List.mem_cons_self, rfl⟩, rest,
      (mem_star_one_iff p rest).mpr fun d later => each d (List.mem_cons_of_mem c later), rfl⟩

theorem digit_iff (c : Char) : c.isDigit = true ↔ Digit c := by
  simp [Char.isDigit, Digit, Char.le_def, UInt32.le_iff_toNat_le]

theorem word_sign_iff (c : Char) : isWordChar c = true ↔ WordSign c := by
  have capital : c.isUpper = true ↔ 'A' ≤ c ∧ c ≤ 'Z' := decide_eq_true_iff
  have small : c.isLower = true ↔ 'a' ≤ c ∧ c ≤ 'z' := (Bool.and_eq_true _ _).to_iff.trans (and_congr decide_eq_true_iff decide_eq_true_iff)
  have letter : c.isAlpha = (c.isUpper || c.isLower) := rfl
  have sign : c.isAlphanum = (c.isAlpha || c.isDigit) := rfl
  simp only [isWordChar, WordSign, sign, letter, Bool.or_eq_true, decide_eq_true_eq, capital, small, digit_iff, or_assoc]

theorem filled_all_iff (passes : Char → Bool) (p : Char → Prop) (same : ∀ c, passes c = true ↔ p c) (cs : List Char) :
    (!cs.isEmpty && cs.all passes) = true ↔ cs ∈ several p := by
  rw [mem_several_iff, Bool.and_eq_true, List.all_eq_true]
  simp [same]

theorem is_part_several (cs : List Char) : isPart cs = true ↔ cs ∈ several (· ≠ '/') :=
  filled_all_iff _ _ (fun c => by simp) cs

theorem is_number_several (cs : List Char) : isNumber cs = true ↔ cs ∈ several Digit := filled_all_iff _ _ digit_iff cs

theorem float_pattern (text : String) : float.accepts text = true ↔ text.toList ∈ float.pattern := by
  rw [accepts, pattern, Language.mem_mul]
  constructor
  · intro accepted
    cases cut : Text.cut? '.' text.toList with
    | none => simp [cut] at accepted
    | some halves =>
      obtain ⟨whole, fraction⟩ := halves
      simp only [cut, Bool.and_eq_true, is_number_several] at accepted
      refine ⟨whole ++ ['.'], Language.append_mem_mul accepted.1 ⟨'.', rfl, rfl⟩, fraction, accepted.2, ?_⟩
      rw [Text.cut_eq_some '.' _ _ _ cut, List.append_assoc]
      rfl
  · rintro ⟨front, ⟨whole, left, point, ⟨c, rfl, rfl⟩, rfl⟩, fraction, right, whole_eq⟩
    have clean : '.' ∉ whole := fun member => absurd (((mem_several_iff Digit whole).mp left).2 '.' member) (by decide)
    have cut : Text.cut? '.' text.toList = some (whole, fraction) :=
      (Text.cut_eq_some_iff '.' _ _ _).mpr ⟨clean, by simpa using whole_eq.symm⟩
    simp only [cut, Bool.and_eq_true, is_number_several]
    exact ⟨left, right⟩

theorem path_pattern (text : String) : path.accepts text = true ↔ text.toList ∈ path.pattern := by
  simp only [accepts, pattern, List.all_eq_true, is_part_several, Language.mem_mul]
  constructor
  · intro each
    obtain ⟨piece, pieces, cut⟩ := List.exists_cons_of_ne_nil (Text.split_ne_nil '/' text.toList)
    rw [cut] at each
    refine ⟨piece, each piece List.mem_cons_self, (pieces.map ('/' :: ·)).flatten, Language.join_mem_kstar fun block member => ?_, ?_⟩
    · obtain ⟨next, inside, rfl⟩ := List.mem_map.mp member
      exact Language.append_mem_mul (a := ['/']) ⟨'/', rfl, rfl⟩ (each next (List.mem_cons_of_mem piece inside))
    · rw [← Text.join_eq_flatten, ← cut, Text.join_split]
  · rintro ⟨piece, first, rest, later, whole⟩
    obtain ⟨blocks, rfl, each⟩ := Language.mem_kstar.mp later
    have led : ∀ block ∈ blocks, '/' :: block.tail = block ∧ block.tail ∈ several (· ≠ '/') := by
      intro block member
      obtain ⟨_, ⟨c, rfl, rfl⟩, next, inside, rfl⟩ := Language.mem_mul.mp (each block member)
      exact ⟨rfl, inside⟩
    have blocked : (blocks.map List.tail).map ('/' :: ·) = blocks := by
      rw [List.map_map]
      exact (List.map_congr_left fun block member => (led block member).1).trans (List.map_id blocks)
    have all : ∀ next ∈ piece :: blocks.map List.tail, next ∈ several (· ≠ '/') :=
      List.forall_mem_cons.mpr ⟨first, List.forall_mem_map.mpr fun block member => (led block member).2⟩
    have clean : ∀ next ∈ piece :: blocks.map List.tail, '/' ∉ next := fun next member held =>
      ((mem_several_iff _ next).mp (all next member)).2 '/' held rfl
    rw [← whole, ← blocked, ← Text.join_eq_flatten, Text.split_join '/' _ (List.cons_ne_nil _ _) clean]
    exact all

-- The patterns say what the converters accept.
theorem accepts_iff_pattern (converter : Converter) (text : String) : converter.accepts text = true ↔ text.toList ∈ converter.pattern := by
  cases converter with
  | part => exact is_part_several text.toList
  | str => exact filled_all_iff _ _ word_sign_iff text.toList
  | int => exact is_number_several text.toList
  | float => exact float_pattern text
  | path => exact path_pattern text

theorem path_pieces (text : String) : path.accepts text = true ↔ ∀ piece ∈ Text.splitText '/' text, part.accepts piece = true := by
  simp only [accepts, List.all_eq_true, Text.splitText, List.forall_mem_map, String.toList_ofList]

-- Pieces hold no slashes, so only an empty one is no part.
theorem path_filled (text : String) : path.accepts text = true ↔ [] ∉ Text.split '/' text.toList := by
  simp only [accepts, List.all_eq_true, is_part_several, mem_several_iff]
  constructor
  · intro each empty
    exact (each [] empty).1 rfl
  · intro filled piece member
    have clean := Text.not_mem_of_mem_split '/' text.toList piece member
    exact ⟨fun empty => filled (empty ▸ member), fun c inside slash => clean (slash ▸ inside)⟩

theorem path_unslashed (text : String) :
    path.accepts text = true ↔
      text ≠ "" ∧ text.toList.head? ≠ some '/' ∧ text.toList.getLast? ≠ some '/' ∧ ¬ ['/', '/'] <:+: text.toList := by
  rw [path_filled, Text.nil_mem_split_iff, not_or, not_or, not_or, Ne, String.toList_eq_nil_iff]

theorem path_single (text : String) (clean : '/' ∉ text.toList) : path.accepts text = part.accepts text := by
  simp only [accepts, Text.split_of_clean '/' text.toList clean, List.all_cons, List.all_nil, Bool.and_true]

theorem digit_word_sign (c : Char) (digit : Digit c) : WordSign c := Or.inr (Or.inr (Or.inl digit))

theorem word_sign_small (c : Char) (sign : WordSign c) : c.toNat < 128 := by
  rcases sign with ⟨_, upper⟩ | ⟨_, upper⟩ | ⟨_, upper⟩ | rfl
  · exact Nat.lt_of_le_of_lt (Char.le_def.mp upper) (by decide)
  · exact Nat.lt_of_le_of_lt (Char.le_def.mp upper) (by decide)
  · exact Nat.lt_of_le_of_lt (Char.le_def.mp upper) (by decide)
  · decide

-- What the texts of three converters are made of.
theorem made_of_signs (converter : Converter) (text : String) (accepted : converter.accepts text = true) (c : Char)
    (member : c ∈ text.toList) :
    (converter = .int → Digit c) ∧ (converter = .str → WordSign c) ∧ (converter = .float → Digit c ∨ c = '.') := by
  have patterned := (accepts_iff_pattern converter text).mp accepted
  refine ⟨?_, ?_, ?_⟩
  · rintro rfl
    exact ((mem_several_iff _ _).mp patterned).2 c member
  · rintro rfl
    exact ((mem_several_iff _ _).mp patterned).2 c member
  · rintro rfl
    obtain ⟨front, ⟨whole, left, _, ⟨point, rfl, rfl⟩, rfl⟩, fraction, right, same⟩ := patterned
    simp only [← same, List.mem_append, List.mem_singleton] at member
    rcases member with (here | point) | there
    · exact Or.inl (((mem_several_iff _ _).mp left).2 c here)
    · exact Or.inr point
    · exact Or.inl (((mem_several_iff _ _).mp right).2 c there)

theorem unsigned_newline (converter : Converter) (signed : converter ∈ [str, int, float]) (text : String) :
    converter.accepts (text.push '\n') = false := by
  rw [Bool.eq_false_iff]
  intro accepted
  have ended : '\n' ∈ (text.push '\n').toList := by simp
  obtain ⟨digits, signs, numerals⟩ := made_of_signs converter _ accepted '\n' ended
  simp only [List.mem_cons, List.not_mem_nil, or_false] at signed
  rcases signed with rfl | rfl | rfl
  · exact absurd (signs rfl) (by decide)
  · exact absurd (digits rfl) (by decide)
  · exact absurd (numerals rfl) (by decide)

-- Parts and paths take any character at their end that is no slash, the newline like any other.
theorem part_concat (text : String) (c : Char) (other : c ≠ '/') : part.accepts (text.push c) = true ↔ '/' ∉ text.toList := by
  rw [accepts, is_part_iff, String.toList_push, List.mem_append, List.mem_singleton, not_or]
  simp [other.symm]

theorem path_concat (text : String) (c : Char) (other : c ≠ '/') :
    path.accepts (text.push c) = true ↔ [] ∉ (Text.split '/' text.toList).dropLast := by
  obtain ⟨front, last, cut⟩ := (List.eq_nil_or_concat (Text.split '/' text.toList)).resolve_left (Text.split_ne_nil '/' text.toList)
  rw [path_filled, String.toList_push, Text.split_concat '/' c _ last front other (by simpa using cut), cut]
  simp

structure Related (text : String) : Prop where
  patterned : ∀ converter : Converter, converter.accepts text = true ↔ text.toList ∈ converter.pattern
  intWithinStr : int.accepts text = true → str.accepts text = true
  strWithinPart : str.accepts text = true → part.accepts text = true
  floatWithinPart : float.accepts text = true → part.accepts text = true
  strApartFloat : ¬ (str.accepts text = true ∧ float.accepts text = true)
  intApartFloat : ¬ (int.accepts text = true ∧ float.accepts text = true)
  pathPieces : path.accepts text = true ↔ ∀ piece ∈ Text.splitText '/' text, part.accepts piece = true
  pathUnslashed : path.accepts text = true ↔
    text ≠ "" ∧ text.toList.head? ≠ some '/' ∧ text.toList.getLast? ≠ some '/' ∧ ¬ ['/', '/'] <:+: text.toList
  pathSingle : '/' ∉ text.toList → path.accepts text = part.accepts text
  intDigits : int.accepts text = true → ∀ c ∈ text.toList, Digit c
  strSigns : str.accepts text = true → ∀ c ∈ text.toList, WordSign c
  floatDigits : float.accepts text = true → ∀ c ∈ text.toList, Digit c ∨ c = '.'
  small : ∀ converter ∈ [str, int, float], converter.accepts text = true → ∀ c ∈ text.toList, c.toNat < 128
  newlineRefused : ∀ converter ∈ [str, int, float], converter.accepts (text.push '\n') = false
  newlineCounts : ∀ converter ∈ [part, path], ∀ c, c ≠ '/' → converter.accepts (text.push '\n') = converter.accepts (text.push c)

theorem languages_related (text : String) : Related text := by
  have words : int.accepts text = true → str.accepts text = true := by
    rw [accepts_iff_pattern, accepts_iff_pattern, pattern, pattern, mem_several_iff, mem_several_iff]
    exact fun ⟨filled, each⟩ => ⟨filled, fun c member => digit_word_sign c (each c member)⟩
  have apart : ¬ (str.accepts text = true ∧ float.accepts text = true) := fun ⟨worded, pointed⟩ =>
    str_pointless text worded (float_point text pointed)
  constructor
  case patterned => exact fun converter => accepts_iff_pattern converter text
  case intWithinStr => exact words
  case strWithinPart => exact fun accepted => accepts_part str text accepted rfl
  case floatWithinPart => exact fun accepted => accepts_part float text accepted rfl
  case strApartFloat => exact apart
  case intApartFloat => exact fun ⟨counted, pointed⟩ => apart ⟨words counted, pointed⟩
  case pathPieces => exact path_pieces text
  case pathUnslashed => exact path_unslashed text
  case pathSingle => exact path_single text
  case intDigits => exact fun accepted c member => (made_of_signs int text accepted c member).1 rfl
  case strSigns => exact fun accepted c member => (made_of_signs str text accepted c member).2.1 rfl
  case floatDigits => exact fun accepted c member => (made_of_signs float text accepted c member).2.2 rfl
  case small =>
    intro converter signed accepted c member
    obtain ⟨digits, signs, numerals⟩ := made_of_signs converter text accepted c member
    simp only [List.mem_cons, List.not_mem_nil, or_false] at signed
    rcases signed with rfl | rfl | rfl
    · exact word_sign_small c (signs rfl)
    · exact word_sign_small c (digit_word_sign c (digits rfl))
    · rcases numerals rfl with digit | rfl
      · exact word_sign_small c (digit_word_sign c digit)
      · decide
  case newlineRefused => exact fun converter signed => unsigned_newline converter signed text
  case newlineCounts =>
    intro converter wide c other
    simp only [List.mem_cons, List.not_mem_nil, or_false] at wide
    rw [Bool.eq_iff_iff]
    rcases wide with rfl | rfl
    · rw [part_concat text '\n' (by decide), part_concat text c other]
    · rw [path_concat text '\n' (by decide), path_concat text c other]

end Converter
end RestDispatch
