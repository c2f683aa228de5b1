import RestDispatch.Text.Half
import RestDispatch.Text.Printable

set_option autoImplicit false

/-!
Quoted text for messages. The quote is single unless the text holds a single quote and no double one.
The quote, the backslash and unprintable characters are escaped, the latter by their code.
-/
namespace RestDispatch.Text

def hex (width : Nat) (code : Nat) : List Char :=
  let digits := Nat.toDigits 16 code
  List.replicate (width - digits.length) '0' ++ digits

-- A character written by its code, in two, four or eight digits. One that holds a half is written by the code of
-- the half.
def codeEscape (c : Char) : List Char :=
  let code := (half? c).getD c.toNat
  if code < 0x100 then '\\' :: 'x' :: hex 2 code
  else if code < 0x10000 then '\\' :: 'u' :: hex 4 code
  else '\\' :: 'U' :: hex 8 code

def quotedChar (quote : Char) (c : Char) : List Char :=
  if c = quote || c = '\\' then ['\\', c]
  else if c = '\n' then ['\\', 'n']
  else if c = '\r' then ['\\', 'r']
  else if c = '\t' then ['\\', 't']
  else if isPrintable c then [c]
  else codeEscape c

def quoteFor (cs : List Char) : Char :=
  if cs.contains '\'' && !cs.contains '"' then '"' else '\''

def quoted (text : String) : String :=
  let quote := quoteFor text.toList
  String.ofList (quote :: text.toList.flatMap (quotedChar quote) ++ [quote])

end RestDispatch.Text
