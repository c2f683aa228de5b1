import RestDispatch.Text.Letter

set_option autoImplicit false

/-!
Bytes, and the encoding that writes each of the first 256 characters as one byte.
-/
namespace RestDispatch

abbrev Bytes := List UInt8

namespace Text

def latinText (bytes : Bytes) : String := String.ofList (bytes.map fun byte => Char.ofNat byte.toNat)

structure LatinError where
  position : Nat
  count : Nat
  first : Char
deriving DecidableEq, Repr

def isLatin (c : Char) : Bool := c.toNat < 256

def latinBytes? (text : String) : Except LatinError Bytes :=
  match text.toList.dropWhile isLatin with
  | [] => .ok (text.toList.map fun c => UInt8.ofNat c.toNat)
  | c :: cs =>
    .error ⟨(text.toList.takeWhile isLatin).length, ((c :: cs).takeWhile (!isLatin ·)).length, c⟩

def LatinError.message (e : LatinError) : String :=
  let what :=
    if e.count = 1 then s!"character '{String.ofList (codeEscape e.first)}' in position {e.position}"
    else s!"characters in position {e.position}-{e.position + e.count - 1}"
  s!"'latin-1' codec can't encode {what}: ordinal not in range(256)"

end Text
end RestDispatch
