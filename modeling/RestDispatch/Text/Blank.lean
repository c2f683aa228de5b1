import RestDispatch.Text.Letter

set_option autoImplicit false

/-!
Blank characters and the removal of blanks at the ends of a text. Three sets are in use: the blanks
that `strip` removes, the white space of the Unicode property, and the six blanks of the basic block
that may stand around a number.
-/
namespace RestDispatch.Text

def whiteSpaceRanges : List (Nat × Nat) :=
  [(0x09, 0x0D), (0x20, 0x20), (0x85, 0x85), (0xA0, 0xA0), (0x1680, 0x1680), (0x2000, 0x200A),
   (0x2028, 0x2029), (0x202F, 0x202F), (0x205F, 0x205F), (0x3000, 0x3000)]

def isWhiteSpace (c : Char) : Bool := inRanges whiteSpaceRanges c.toNat

def isBlank (c : Char) : Bool := isWhiteSpace c || (0x1C ≤ c.toNat && c.toNat ≤ 0x1F)

def isBasicBlank (c : Char) : Bool := c = ' ' || (0x09 ≤ c.toNat && c.toNat ≤ 0x0D)

def trimBy {α : Type} (drop : α → Bool) (cs : List α) : List α :=
  ((cs.dropWhile drop).reverse.dropWhile drop).reverse

def isBlankLetter : Letter → Bool
  | .char c => isBlank c
  | .half _ => false

def strip (text : String) : String := String.ofList (trimBy isBlank text.toList)

end RestDispatch.Text
