import RestDispatch.Value.Basic
import RestDispatch.Text.Split
import RestDispatch.Text.Utf8
import RestDispatch.Json.Decode

set_option autoImplicit false

/-!
Query strings: pairs with ampersands between them, an equals sign between name and value. A plus is a
space; a percent sign and two hexadecimal digits are a byte. Runs of basic characters are read as
UTF-8, malformed bytes giving U+FFFD.
-/
namespace RestDispatch

abbrev Query := List (String × List String)

namespace Query

def unescapedBytes : List Char → Bytes
  | [] => []
  | '%' :: a :: b :: rest =>
    match Json.hexDigit? a, Json.hexDigit? b with
    | some high, some low => UInt8.ofNat (high * 16 + low) :: unescapedBytes rest
    | _, _ => 0x25 :: unescapedBytes (a :: b :: rest)
  | c :: rest => UInt8.ofNat c.toNat :: unescapedBytes rest

-- Undoes the escapes of a text; `run` holds the basic characters right before it, last one first.
def unescapeFrom (run : List Char) : List Char → List Char
  | [] => Text.Utf8.decodeReplacing (unescapedBytes run.reverse)
  | c :: rest =>
    if c.toNat < 128 then unescapeFrom (c :: run) rest
    else Text.Utf8.decodeReplacing (unescapedBytes run.reverse) ++ c :: unescapeFrom [] rest

def unescape (cs : List Char) : String :=
  String.ofList (unescapeFrom [] (cs.map fun c => if c = '+' then ' ' else c))

def readPair (cs : List Char) : String × String :=
  match Text.cut? '=' cs with
  | some (name, value) => (unescape name, unescape value)
  | none => (unescape cs, "")

def add (query : Query) (pair : String × String) : Query :=
  put pair.1 ((query.lookup pair.1).getD [] ++ [pair.2]) query

def ofBytes (bytes : Bytes) : Query :=
  let pieces := (Text.split '&' (Text.latinText bytes).toList).filter (!·.isEmpty)
  pieces.foldl (fun query piece => query.add (readPair piece)) []

def firsts (query : Query) : List (String × String) :=
  query.map fun (name, values) => (name, values.head?.getD "")

end Query
end RestDispatch
