import RestDispatch.Json.Decode
import RestDispatch.Text.Split

set_option autoImplicit false

/-!
The standard grammar of JSON texts, and what stands outside the strings of such a text. Main statement: no word that is a
number only for lenient readers (NaN, Infinity) begins there.
-/
namespace RestDispatch.Json

def IsDigits (cs : List Char) : Prop := cs ≠ [] ∧ ∀ c ∈ cs, c.isDigit = true

inductive Whole : List Char → Prop where
  | zero : Whole ['0']
  | leading (first : Char) (rest : List Char) (nonzero : first ≠ '0') (digits : IsDigits (first :: rest)) : Whole (first :: rest)

inductive Fraction : List Char → Prop where
  | absent : Fraction []
  | present (digits : List Char) (shown : IsDigits digits) : Fraction ('.' :: digits)

inductive Exponent : List Char → Prop where
  | absent : Exponent []
  | present (mark : Char) (sign digits : List Char) (marked : mark ∈ ['e', 'E']) (signed : sign ∈ [[], ['+'], ['-']])
      (shown : IsDigits digits) : Exponent (mark :: (sign ++ digits))

inductive Unsigned : List Char → Prop where
  | parts (whole fraction exponent : List Char) (first : Whole whole) (second : Fraction fraction) (third : Exponent exponent) :
      Unsigned (whole ++ fraction ++ exponent)

inductive Numeral : List Char → Prop where
  | plain (cs : List Char) (size : Unsigned cs) : Numeral cs
  | minus (cs : List Char) (size : Unsigned cs) : Numeral ('-' :: cs)

-- One character of a string as it is spelled.
inductive Spelling : List Char → Prop where
  | plain (c : Char) (visible : 0x20 ≤ c.toNat) (quote : c ≠ '"') (backslash : c ≠ '\\') : Spelling [c]
  | short (c : Char) (escape : c ∈ ['"', '\\', '/', 'b', 'f', 'n', 'r', 't']) : Spelling ['\\', c]
  | code (a b c d : Char) (hex : ∀ digit ∈ [a, b, c, d], (hexDigit? digit).isSome = true) : Spelling ['\\', 'u', a, b, c, d]

inductive Quoted : List Char → Prop where
  | spelled (spellings : List (List Char)) (each : ∀ spelling ∈ spellings, Spelling spelling) :
      Quoted ('"' :: (spellings.flatten ++ ['"']))

def IsBlanks (cs : List Char) : Prop := ∀ c ∈ cs, isBlank c = true

-- An element is a value with blanks around it, and so is a whole text; a member is a name and an element.
inductive Symbol where
  | value
  | element
  | member
deriving DecidableEq, Repr

inductive Derives : Symbol → List Char → Prop where
  | word (word : List Char) (known : word ∈ ["null", "true", "false"].map String.toList) : Derives .value word
  | number (cs : List Char) (numeral : Numeral cs) : Derives .value cs
  | string (cs : List Char) (quoted : Quoted cs) : Derives .value cs
  | emptyArray (blanks : List Char) (blank : IsBlanks blanks) : Derives .value ('[' :: (blanks ++ [']']))
  | array (elements : List (List Char)) (nonempty : elements ≠ []) (each : ∀ cs ∈ elements, Derives .element cs) :
      Derives .value ('[' :: (Text.join ',' elements ++ [']']))
  | emptyObject (blanks : List Char) (blank : IsBlanks blanks) : Derives .value ('\x7b' :: (blanks ++ ['\x7d']))
  | object (members : List (List Char)) (nonempty : members ≠ []) (each : ∀ cs ∈ members, Derives .member cs) :
      Derives .value ('\x7b' :: (Text.join ',' members ++ ['\x7d']))
  | element (before cs after : List Char) (leads : IsBlanks before) (value : Derives .value cs) (trails : IsBlanks after) :
      Derives .element (before ++ cs ++ after)
  | member (before name after cs : List Char) (leads : IsBlanks before) (quoted : Quoted name) (trails : IsBlanks after)
      (element : Derives .element cs) : Derives .member (before ++ name ++ after ++ ':' :: cs)

-- Bytes that carry a text of the grammar.
def IsJson (bytes : Bytes) : Prop := ∃ cs, Derives .element cs ∧ bytes = Text.Utf8.encode cs

mutual

-- What stands outside the strings of a text, from a place outside of them.
def outside : List Char → List Char
  | [] => []
  | c :: rest => if c = '"' then inside rest else c :: outside rest

-- The same from a place within a string.
def inside : List Char → List Char
  | [] => []
  | '\\' :: _ :: rest => inside rest
  | c :: rest => if c = '"' then outside rest else inside rest

end

def startsWord (c : Char) : Bool := c = 'N' || c = 'I'

def strays (cs : List Char) : Bool := (outside cs).any startsWord

-- A text in which every string ends that begins in it, and whether a word begins outside of its strings.
structure Scans (cs : List Char) (stray : Bool) : Prop where
  closed : ∀ rest, outside (cs ++ rest) = outside cs ++ outside rest
  strays : strays cs = stray

-- A character outside of strings that begins no word.
def isMark (c : Char) : Bool := c ≠ '"' && !startsWord c

theorem digit_mark (c : Char) (digit : c.isDigit = true) : isMark c = true := by
  have apart : ∀ other : Char, other.isDigit = false → c ≠ other := by
    rintro other none rfl
    rw [digit] at none
    cases none
  have quote := apart '"' rfl
  have undefined := apart 'N' rfl
  have infinite := apart 'I' rfl
  simp [isMark, startsWord, quote, undefined, infinite]

theorem blank_mark (c : Char) (blank : isBlank c = true) : isMark c = true := by
  simp only [isBlank, Bool.or_eq_true, decide_eq_true_eq] at blank
  rcases blank with ((rfl | rfl) | rfl) | rfl <;> rfl

theorem outside_unquoted (cs rest : List Char) (unquoted : '"' ∉ cs) : outside (cs ++ rest) = cs ++ outside rest := by
  induction cs with
  | nil => rfl
  | cons c others ih =>
    obtain ⟨first, later⟩ := not_or.mp (mt List.mem_cons.mpr unquoted)
    rw [List.cons_append, outside, if_neg (Ne.symm first), ih later, List.cons_append]

theorem scans_unquoted (cs : List Char) (unquoted : '"' ∉ cs) : Scans cs (cs.any startsWord) := by
  have itself : outside cs = cs := by
    have whole := outside_unquoted cs [] unquoted
    rwa [List.append_nil, outside, List.append_nil] at whole
  constructor
  case closed => exact fun rest => by rw [outside_unquoted cs rest unquoted, itself]
  case strays => rw [Json.strays, itself]

theorem scans_marks (cs : List Char) (marks : cs.all isMark = true) : Scans cs false := by
  have each : ∀ c ∈ cs, c ≠ '"' ∧ startsWord c = false := by
    intro c member
    simpa [isMark] using List.all_eq_true.mp marks c member
  have none : cs.any startsWord = false := List.any_eq_false.mpr fun c member => by simp [(each c member).2]
  rw [← none]
  apply scans_unquoted
  intro quote
  exact (each '"' quote).1 rfl

theorem scans_append (first second : List Char) (a b : Bool) (scans : Scans first a) (also : Scans second b) :
    Scans (first ++ second) (a || b) := by
  constructor
  case closed =>
    intro rest
    rw [List.append_assoc, scans.closed, also.closed, scans.closed second, List.append_assoc]
  case strays => rw [Json.strays, scans.closed, List.any_append, ← scans.strays, ← also.strays, Json.strays, Json.strays]

theorem scans_framed (start stop : Char) (cs : List Char) (stray : Bool) (opens : isMark start = true)
    (closes : isMark stop = true) (scans : Scans cs stray) : Scans (start :: (cs ++ [stop])) stray := by
  have first : Scans [start] false := scans_marks [start] (by simpa using opens)
  have last : Scans [stop] false := scans_marks [stop] (by simpa using closes)
  have whole := scans_append [start] _ false _ first (scans_append cs [stop] stray false scans last)
  rwa [Bool.or_false, Bool.false_or] at whole

theorem scans_join (parts : List (List Char)) (each : ∀ part ∈ parts, Scans part (strays part)) :
    Scans (Text.join ',' parts) (parts.any strays) := by
  have comma : Scans [','] false := scans_marks [','] rfl
  induction parts using Text.join.induct with
  | case1 => exact scans_marks [] rfl
  | case2 part => simpa [Text.join] using each part (by simp)
  | case3 part next parts ih =>
    obtain ⟨first, later⟩ := List.forall_mem_cons.mp each
    exact scans_append part _ _ _ first (scans_append [','] _ false _ comma (ih later))

theorem scans_joined (parts : List (List Char)) (each : ∀ part ∈ parts, Scans part false) : Scans (Text.join ',' parts) false := by
  have clean : ∀ part ∈ parts, strays part = false := fun part member => (each part member).strays
  have none : parts.any strays = false := List.any_eq_false.mpr fun part member => by simp [clean part member]
  rw [← none]
  apply scans_join
  intro part member
  rw [clean part member]
  exact each part member

theorem inside_plain (c : Char) (rest : List Char) (quote : c ≠ '"') (backslash : c ≠ '\\') : inside (c :: rest) = inside rest := by
  rw [inside, if_neg quote]
  rintro escaped later rfl
  exact absurd rfl backslash

theorem hex_inside (digits rest : List Char) (hex : ∀ digit ∈ digits, (hexDigit? digit).isSome = true) :
    inside (digits ++ rest) = inside rest := by
  induction digits with
  | nil => rfl
  | cons digit others ih =>
    obtain ⟨first, later⟩ := List.forall_mem_cons.mp hex
    have quote : digit ≠ '"' := by
      rintro rfl
      exact absurd first (by decide)
    have backslash : digit ≠ '\\' := by
      rintro rfl
      exact absurd first (by decide)
    rw [List.cons_append, inside_plain digit _ quote backslash, ih later]

theorem spelling_inside (spelling rest : List Char) (spelled : Spelling spelling) : inside (spelling ++ rest) = inside rest := by
  cases spelled with
  | plain c visible quote backslash => exact inside_plain c rest quote backslash
  | short c escape => rw [List.cons_append, List.cons_append, inside, List.nil_append]
  | code a b c d hex =>
    rw [List.cons_append, List.cons_append, inside]
    exact hex_inside [a, b, c, d] rest hex

theorem quoted_outside (cs rest : List Char) (quoted : Quoted cs) : outside (cs ++ rest) = outside rest := by
  obtain ⟨spellings, each⟩ := quoted
  rw [List.cons_append, outside, if_pos rfl, List.append_assoc]
  induction spellings with
  | nil => rfl
  | cons spelling others ih =>
    obtain ⟨first, later⟩ := List.forall_mem_cons.mp each
    rw [List.flatten_cons, List.append_assoc, spelling_inside spelling _ first, ih later]

theorem scans_quoted (cs : List Char) (quoted : Quoted cs) : Scans cs false := by
  have alone : outside cs = [] := by
    have whole := quoted_outside cs [] quoted
    rwa [List.append_nil, outside] at whole
  constructor
  case closed => exact fun rest => by rw [quoted_outside cs rest quoted, alone, List.nil_append]
  case strays =>
    rw [Json.strays, alone]
    rfl

theorem scans_digits (cs : List Char) (digits : IsDigits cs) : Scans cs false := by
  apply scans_marks
  exact List.all_eq_true.mpr fun c member => digit_mark c (digits.2 c member)

theorem scans_blanks (cs : List Char) (blank : IsBlanks cs) : Scans cs false := by
  apply scans_marks
  exact List.all_eq_true.mpr fun c member => blank_mark c (blank c member)

theorem scans_whole (cs : List Char) (whole : Whole cs) : Scans cs false := by
  cases whole with
  | zero => exact scans_marks ['0'] rfl
  | leading c rest nonzero digits => exact scans_digits (c :: rest) digits

theorem scans_fraction (cs : List Char) (fraction : Fraction cs) : Scans cs false := by
  cases fraction with
  | absent => exact scans_marks [] rfl
  | present digits shown => exact scans_append ['.'] digits false false (scans_marks ['.'] rfl) (scans_digits digits shown)

theorem exponent_marks : ['e', 'E'].all isMark = true ∧ [[], ['+'], ['-']].all (fun sign : List Char => sign.all isMark) = true := by
  decide

theorem scans_exponent (cs : List Char) (exponent : Exponent cs) : Scans cs false := by
  cases exponent with
  | absent => exact scans_marks [] rfl
  | present mark sign digits marked signed shown =>
    have first : Scans [mark] false := scans_marks [mark] (by simpa using List.all_eq_true.mp exponent_marks.1 mark marked)
    have second : Scans sign false := scans_marks sign (List.all_eq_true.mp exponent_marks.2 sign signed)
    exact scans_append [mark] _ false false first (scans_append sign digits false false second (scans_digits digits shown))

theorem scans_unsigned (cs : List Char) (size : Unsigned cs) : Scans cs false := by
  obtain ⟨whole, fraction, exponent, first, second, third⟩ := size
  have digits := scans_append whole fraction false false (scans_whole whole first) (scans_fraction fraction second)
  exact scans_append (whole ++ fraction) exponent false false digits (scans_exponent exponent third)

theorem scans_numeral (cs : List Char) (numeral : Numeral cs) : Scans cs false := by
  cases numeral with
  | plain cs size => exact scans_unsigned cs size
  | minus cs size => exact scans_append ['-'] cs false false (scans_marks ['-'] rfl) (scans_unsigned cs size)

theorem word_marks : (["null", "true", "false"].map String.toList).all (fun word => word.all isMark) = true := by decide

-- A text of the grammar has no place outside of its strings where a word for lenient readers begins.
theorem derived_scans (symbol : Symbol) (cs : List Char) (derived : Derives symbol cs) : Scans cs false := by
  induction derived with
  | word word known => exact scans_marks word (List.all_eq_true.mp word_marks word known)
  | number cs numeral => exact scans_numeral cs numeral
  | string cs quoted => exact scans_quoted cs quoted
  | emptyArray blanks blank => exact scans_framed '[' ']' blanks false rfl rfl (scans_blanks blanks blank)
  | array elements nonempty each scans => exact scans_framed '[' ']' _ false rfl rfl (scans_joined elements scans)
  | emptyObject blanks blank => exact scans_framed '\x7b' '\x7d' blanks false rfl rfl (scans_blanks blanks blank)
  | object members nonempty each scans =>
    exact scans_framed '\x7b' '\x7d' _ false rfl rfl (scans_joined members scans)
  | element before cs after leads value trails scans =>
    have first := scans_append before cs false false (scans_blanks before leads) scans
    exact scans_append (before ++ cs) after false false first (scans_blanks after trails)
  | member before name after cs leads quoted trails element scans =>
    have first := scans_append before name false false (scans_blanks before leads) (scans_quoted name quoted)
    have padded := scans_append (before ++ name) after false false first (scans_blanks after trails)
    have colon : Scans [':'] false := scans_marks [':'] rfl
    exact scans_append _ (':' :: cs) false false padded (scans_append [':'] cs false false colon scans)

end RestDispatch.Json
