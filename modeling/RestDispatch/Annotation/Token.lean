import RestDispatch.Annotation.Literal
import RestDispatch.Text.Compatibility
import RestDispatch.Text.Identifier
import RestDispatch.Text.Split

set_option autoImplicit false

/-!
The tokens of an expression. Blanks and comments between tokens do not count, nor do the ends of lines inside
of brackets.
-/
namespace RestDispatch

-- A token. A filled text holds expressions in braces and is kept as it is written.
inductive Token where
  | name (name : String)
  | keyword (word : String)
  | literal (value : Literal)
  | filled (raw : Bool) (body : List Char)
  | sign (text : String)
  | lineEnd
deriving Inhabited

namespace Token

def keywords : List String :=
  ["False", "None", "True", "and", "as", "assert", "async", "await", "break", "class", "continue", "def", "del",
   "elif", "else", "except", "finally", "for", "from", "global", "if", "import", "in", "is", "lambda", "nonlocal",
   "not", "or", "pass", "raise", "return", "try", "while", "with", "yield"]

-- Signs, those that others start with after them.
def signs : List String :=
  ["...", "**", "//", "<<", ">>", "<=", ">=", "==", "!=", ":=", "+", "-", "*", "/", "%", "@", "&", "|", "^", "~", "<",
   ">", "(", ")", "[", "]", "\x7b", "\x7d", ",", ":", ".", "="]

def word? (cs : List Char) : Option (Token × List Char) :=
  let word := cs.takeWhile Literal.isWordChar
  let rest := cs.dropWhile Literal.isWordChar
  if !Text.isName word then none
  else
    let name := String.ofList word
    if name ∈ keywords then some (.keyword name, rest) else some (.name (Text.compatible name), rest)

def quoted? (style : Literal.Style) (cs : List Char) : Option (Token × List Char) := do
  let (body, rest) ← Literal.quotedBody? cs
  if style.filled then some (.filled style.raw body, rest)
  else if style.bytes then (Literal.bytes? style body).map fun content => (.literal (.bytes content), rest)
  else (Literal.text? style body).map fun t => (.literal (.text t), rest)

def sign? (cs : List Char) : Option (Token × List Char) :=
  (signs.find? fun sign => sign.toList.isPrefixOf cs).map fun sign => (.sign sign, cs.drop sign.length)

def startsNumber : List Char → Bool
  | '.' :: c :: _ => c.isDigit
  | c :: _ => c.isDigit
  | [] => false

def first? (cs : List Char) : Option (Token × List Char) :=
  if startsNumber cs then (Literal.number? cs).map fun (value, rest) => (.literal value, rest)
  else
    match Literal.styleOf? cs with
    | some (style, rest) => quoted? style rest
    | none => if cs.head?.any Literal.isWordChar then word? cs else sign? cs

def openings : List String := ["(", "[", "\x7b"]

def closings : List String := [")", "]", "\x7d"]

def depthLimit : Nat := 200

def depthAfter? (depth : Nat) (token : Token) : Option Nat :=
  match token with
  | .sign text =>
    if text ∈ openings then if depth < depthLimit then some (depth + 1) else none
    else if text ∈ closings then some (depth - 1)
    else some depth
  | _ => some depth

def isBlank (c : Char) : Bool := c = ' ' || c = '\t' || c = '\x0c'

def isIndent (blanks : List Char) : Bool := blanks.getLast?.any (· ≠ '\x0c')

def isEmptyLine (line : List Char) : Bool := (line.dropWhile isBlank).head?.all (· = '#')

-- The tokens of a text inside of so many brackets. Every token takes a character, so as much fuel as there are
-- characters suffices.
def scanWithin : Nat → Nat → List Char → Option (List Token)
  | _, _, [] => some []
  | 0, _, _ => none
  | fuel + 1, depth, c :: cs =>
    if isBlank c then scanWithin fuel depth cs
    else if c = '#' then scanWithin fuel depth (cs.dropWhile (· ≠ '\n'))
    else if c = '\n' then
      if depth ≠ 0 then scanWithin fuel depth cs
      else if cs.all isBlank && isIndent cs then none
      else (scanWithin fuel depth cs).map (.lineEnd :: ·)
    else if c = '\\' then
      match cs with
      | '\n' :: next :: rest => scanWithin fuel depth (next :: rest)
      | _ => none
    else do
      let (token, rest) ← first? (c :: cs)
      let depth ← depthAfter? depth token
      let tokens ← scanWithin fuel depth rest
      some (token :: tokens)

def withLineFeeds : List Char → List Char
  | '\r' :: '\n' :: cs => '\n' :: withLineFeeds cs
  | '\r' :: cs => '\n' :: withLineFeeds cs
  | c :: cs => c :: withLineFeeds cs
  | [] => []

-- Whether a text starts with blanks, lines that are continued not counting.
def startsIndented : List Char → Bool
  | '\\' :: '\n' :: rest => startsIndented rest
  | cs => isIndent (cs.takeWhile isBlank)

-- The tokens of a text. Lines that hold none do not count, and the first other one starts without blanks. No text
-- with a zero character is read.
def scan? (cs : List Char) : Option (List Token) :=
  let lines := (Text.split '\n' (withLineFeeds cs)).dropWhile isEmptyLine
  let text := Text.join '\n' lines
  if startsIndented text || cs.contains (Char.ofNat 0) then none else scanWithin cs.length 0 text

end Token
end RestDispatch
