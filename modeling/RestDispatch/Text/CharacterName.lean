import RestDispatch.Text.Compatibility
import RestDispatch.Text.Names.Aliases
import RestDispatch.Text.Names.Alphabets
import RestDispatch.Text.Names.Hieroglyphs
import RestDispatch.Text.Names.Pictures
import RestDispatch.Text.Names.Scripts
import RestDispatch.Text.Names.Syllables
import RestDispatch.Text.Names.Symbols
import RestDispatch.Text.Quoted

set_option autoImplicit false

/-!
Names of characters (Unicode 14.0). Most names are listed; ideographs are named by their codes, and syllables of
Hangul by their parts.
-/
namespace RestDispatch.Text

/-! Listed names. -/

-- What is known while listed names are gone through: the code of the name that is being read, its letters with the
-- last one first, and what has been found.
structure NameSearch where
  code : Nat
  name : List Char := []
  isOpen : Bool := false
  found : Option (Nat × List Char) := none

def NameSearch.close (test : Nat → List Char → Bool) (s : NameSearch) : NameSearch :=
  if !s.isOpen then { s with isOpen := true }
  else
    let name := s.name.reverse
    let found := if s.found.isNone && test s.code name then some (s.code, name) else s.found
    { s with code := s.code + 1, found }

def NameSearch.step (test : Nat → List Char → Bool) (s : NameSearch) (c : Char) : NameSearch :=
  if c.isLower then
    let s := s.close test
    { s with name := s.name.drop (s.name.length - (c.toNat - 'a'.toNat)) }
  else { s with name := c :: s.name }

def NameSearch.row (test : Nat → List Char → Bool) (s : NameSearch) (row : String) : NameSearch :=
  if s.found.isSome then s
  else
    let cs := row.toList
    let code := hexNumber (cs.takeWhile (· ≠ ' '))
    let start : NameSearch := { s with code, isOpen := false }
    (((cs.dropWhile (· ≠ ' ')).drop 1).foldl (·.step test) start).close test

def listedName? (test : Nat → List Char → Bool) : Option (Nat × List Char) :=
  let tables := [alphabetNames, symbolNames, syllableNames, scriptNames, hieroglyphNames, pictureNames]
  let start : NameSearch := { code := 0 }
  (tables.foldl (fun (s : NameSearch) (table : List String) => table.foldl (·.row test) s) start).found

def aliasCode? (name : List Char) : Option Nat :=
  aliasNames.findSome? fun line =>
    (split ',' line.toList).findSome? fun entry =>
      let entry := entry.dropWhile (· = ' ')
      let code := entry.takeWhile (· ≠ ' ')
      if entry.drop (code.length + 1) = name then some (hexNumber code) else none

/-! Names made from codes. -/

def numberedNames : List (String × List (Nat × Nat)) :=
  [("CJK UNIFIED IDEOGRAPH-",
    [(0x3400, 0x4DBF), (0x4E00, 0x9FFF), (0x20000, 0x2A6DF), (0x2A700, 0x2B738), (0x2B740, 0x2B81D), (0x2B820, 0x2CEA1),
     (0x2CEB0, 0x2EBE0), (0x30000, 0x3134A)]),
   ("CJK COMPATIBILITY IDEOGRAPH-", [(0xF900, 0xFA6D), (0xFA70, 0xFAD9), (0x2F800, 0x2FA1D)]),
   ("KHITAN SMALL SCRIPT CHARACTER-", [(0x18B00, 0x18CD5)]),
   ("NUSHU CHARACTER-", [(0x1B170, 0x1B2FB)])]

def numberedCode? (name : List Char) : Option Nat :=
  numberedNames.findSome? fun (start, ranges) =>
    let digits := name.drop start.length
    let code := hexNumber digits
    let isNumber := digits.all (fun c => c.isDigit || ('A' ≤ c && c ≤ 'F')) && (digits.length = 4 || digits.length = 5)
    if start.toList.isPrefixOf name && isNumber && inRanges ranges code then some code else none

/-! Syllables of Hangul. -/

def hangulStart : String := "HANGUL SYLLABLE "

def leadNames : List String :=
  ["G", "GG", "N", "D", "DD", "R", "M", "B", "BB", "S", "SS", "", "J", "JJ", "C", "K", "T", "P", "H"]

def vowelNames : List String :=
  ["A", "AE", "YA", "YAE", "EO", "E", "YEO", "YE", "O", "WA", "WAE", "OE", "YO", "U", "WEO", "WE", "WI", "YU", "EU",
   "YI", "I"]

def tailNames : List String :=
  ["", "G", "GG", "GS", "N", "NJ", "NH", "D", "L", "LG", "LM", "LB", "LS", "LT", "LP", "LH", "M", "B", "BS", "S", "SS",
   "NG", "J", "C", "K", "T", "P", "H"]

def longestPart? (parts : List String) (cs : List Char) : Option (Nat × List Char) :=
  let fitting := parts.zipIdx.filter fun (part, _) => part.toList.isPrefixOf cs
  let best := fitting.foldl
    (fun (best : Option (String × Nat)) entry =>
      if best.any fun other => entry.1.length ≤ other.1.length then best else some entry) none
  best.map fun (part, place) => (place, cs.drop part.length)

def syllableCode (lead vowel tail : Nat) : Nat := 0xAC00 + (lead * vowelNames.length + vowel) * tailNames.length + tail

def syllableNamed? (name : List Char) : Option Nat :=
  if hangulStart.toList.isPrefixOf name then
    (longestPart? leadNames (name.drop hangulStart.length)).bind fun (lead, rest) =>
      (longestPart? vowelNames rest).bind fun (vowel, rest) =>
        (longestPart? tailNames rest).bind fun (tail, rest) =>
          if rest.isEmpty then some (syllableCode lead vowel tail) else none
  else none

def syllableName (code : Nat) : String :=
  let place := code - 0xAC00
  let part := fun (parts : List String) (n : Nat) => (parts[n]?).getD ""
  hangulStart ++ part leadNames (place / (21 * 28)) ++ part vowelNames (place / 28 % 21) ++ part tailNames (place % 28)

/-! All names. -/

def codeNamed? (name : List Char) : Option Nat :=
  let capitals := name.map Char.toUpper
  let isUnified := "CJK UNIFIED IDEOGRAPH-".toList.isPrefixOf capitals
  (syllableNamed? name).or
    ((numberedCode? (if isUnified then name else capitals)).or
      ((aliasCode? capitals).or
        ((listedName? fun _ listed => listed = capitals).map (·.1))))

def nameOf? (code : Nat) : Option String :=
  if 0xAC00 ≤ code && code ≤ 0xD7A3 then some (syllableName code)
  else
    match numberedNames.find? fun (_, ranges) => inRanges ranges code with
    | some (start, _) => some (start ++ String.ofList ((hex 4 code).map Char.toUpper))
    | none => (listedName? fun own _ => own = code).map fun (_, name) => String.ofList name

end RestDispatch.Text
