import RestDispatch.Text.CompatibilityTables

set_option autoImplicit false

/-!
The compatibility form of names. Every character is taken apart, marks are put in the order of their
classes, and what can be one character becomes one. Two spellings of a name are the same name if their
compatibility forms are equal.
-/
namespace RestDispatch.Text

structure RangeEntry where
  first : Nat
  last : Nat
  number : Nat

def rangeEntry? : List Nat → Option RangeEntry
  | [code, number] => some ⟨code, code, number⟩
  | [first, last, number] => some ⟨first, last, number⟩
  | _ => none

def RangeEntry.covers (entry : RangeEntry) (code : Nat) : Bool := entry.first ≤ code && code ≤ entry.last

def replacements : List RangeEntry := (rows replacementLines).filterMap rangeEntry?

def expansions : List (Nat × List Nat) :=
  (rows expansionLines).filterMap fun
    | code :: image => some (code, image)
    | [] => none

def compositions : List ((Nat × Nat) × Nat) :=
  (rows compositionLines).filterMap fun
    | [first, second, whole] => some ((first, second), whole)
    | _ => none

def classes : List RangeEntry := (rows classLines).filterMap rangeEntry?

def combiningClass (code : Nat) : Nat := ((classes.find? (·.covers code)).map (·.number)).getD 0

/-! Syllables of Hangul are numbered by their parts: a leading one, a vowel, and a trailing one or none. -/

def syllableBase : Nat := 0xAC00

def leadBase : Nat := 0x1100

def vowelBase : Nat := 0x1161

def trailBase : Nat := 0x11A7

def leadCount : Nat := 19

def vowelCount : Nat := 21

def trailCount : Nat := 28

def syllableCount : Nat := leadCount * vowelCount * trailCount

def syllableParts (number : Nat) : List Nat :=
  let lead := leadBase + number / (vowelCount * trailCount)
  let vowel := vowelBase + number % (vowelCount * trailCount) / trailCount
  let trail := trailBase + number % trailCount
  if trail = trailBase then [lead, vowel] else [lead, vowel, trail]

def syllable? (first second : Nat) : Option Nat :=
  if leadBase ≤ first && first < leadBase + leadCount && vowelBase ≤ second && second < vowelBase + vowelCount then
    some (syllableBase + ((first - leadBase) * vowelCount + (second - vowelBase)) * trailCount)
  else if syllableBase ≤ first && first < syllableBase + syllableCount &&
      (first - syllableBase) % trailCount = 0 && trailBase < second && second < trailBase + trailCount then
    some (first + (second - trailBase))
  else none

def decomposed (code : Nat) : List Nat :=
  if code < 0x80 then [code]
  else if syllableBase ≤ code && code < syllableBase + syllableCount then syllableParts (code - syllableBase)
  else
    match replacements.find? (·.covers code) with
    | some entry => [entry.number + (code - entry.first)]
    | none => (expansions.lookup code).getD [code]

def composed? (first second : Nat) : Option Nat :=
  (syllable? first second).or (compositions.lookup (first, second))

-- Puts a character before others, behind those marks whose class is lower than its own.
def placeMark (code : Nat) : List Nat → List Nat
  | [] => [code]
  | next :: rest =>
    if combiningClass next ≠ 0 && combiningClass next < combiningClass code then next :: placeMark code rest
    else code :: next :: rest

def ordered (codes : List Nat) : List Nat := codes.foldr placeMark []

-- Joins what follows a starting character with it where that is possible; `held` are the marks in between that
-- stay, last one first, and a mark can pass only those of lower classes.
def composeFrom (start : Nat) (held : List Nat) : List Nat → List Nat
  | [] => start :: held.reverse
  | code :: rest =>
    let free := held.head?.all fun mark => combiningClass mark < combiningClass code
    match if free then composed? start code else none with
    | some whole => composeFrom whole held rest
    | none =>
      if combiningClass code = 0 then start :: held.reverse ++ composeFrom code [] rest
      else composeFrom start (code :: held) rest

def compose : List Nat → List Nat
  | [] => []
  | code :: rest => if combiningClass code = 0 then composeFrom code [] rest else code :: compose rest

def compatible (name : String) : String :=
  if name.toList.all (·.toNat < 0x80) then name
  else
    let codes := name.toList.flatMap fun c => decomposed c.toNat
    String.ofList ((compose (ordered codes)).map Char.ofNat)

end RestDispatch.Text
