import RestDispatch.Annotation.Same

set_option autoImplicit false

/-!
Numbers by which things are found among keys. Those of numbers, and of tuples and fixed sets of numbers, are the same
everywhere; equal numbers of different kinds have the same one. No integer has the number that means that there is none.
-/
namespace RestDispatch.Meaning

def hashPrime : Nat := 2305843009213693951

def avoidNone (n : Int) : Int := if n = -1 then -2 else n

def hashInt (n : Int) : Int := avoidNone (Int.tmod n hashPrime)

def hashFloat? (x : Float) : Option Int :=
  if x.isNaN then none
  else
    let negative := Decimal.isNegative x
    if !Decimal.isFinite x then some (if negative then -314159 else 314159)
    else
      let size := Decimal.Dyadic.ofBits x.toBits
      let rest : Int := (size.mantissa * Decimal.weight 2 (size.exponent % 61).toNat % hashPrime : Nat)
      some (avoidNone (if negative then -rest else rest))

def toWord (n : Int) : UInt64 := UInt64.ofNat (n % (Decimal.weight 2 64 : Nat)).toNat

def ofWord (word : UInt64) : Int :=
  if word.toNat < Decimal.weight 2 63 then word.toNat else (word.toNat : Int) - Decimal.weight 2 64

def hashTuple (items : List Int) : Int :=
  let first : UInt64 := 2870177450012600261
  let mixed := items.foldl
    (fun (mixed : UInt64) item =>
      let added := mixed + toWord item * 14029467366897019727
      ((added <<< 31) ||| (added >>> 33)) * 11400714785074694791) first
  let last := ofWord (mixed + (UInt64.ofNat items.length ^^^ (first ^^^ 3527539)))
  if last = -1 then 1546275796 else last

def hashSet (items : List Int) : Int :=
  let mixed := items.foldl
    (fun (mixed : UInt64) item =>
      let own := toWord item
      let shuffled : UInt64 := ((own ^^^ (89869747 : UInt64)) ^^^ (own <<< 16)) * 3644798167
      mixed ^^^ shuffled) 0
  let size : UInt64 := (UInt64.ofNat items.length + 1) * 1927868237
  let counted := mixed ^^^ size
  let spread := (counted ^^^ ((counted >>> 11) ^^^ (counted >>> 25))) * 69069 + 907133923
  let last := ofWord spread
  if last = -1 then 590923713 else last

mutual

-- The number of a thing, if it is the same everywhere.
def hash? : Meaning → Option Int
  | .truth b => some (if b then 1 else 0)
  | .int n => some (hashInt n)
  | .float x => hashFloat? x
  | .complex re im => do
    let real ← hashFloat? re
    let imaginary ← hashFloat? im
    some (avoidNone (ofWord (toWord real + 1000003 * toWord imaginary)))
  | .text [] => some 0
  | .bytes true [] => some 0
  | .tuple items => (hashes? items).map hashTuple
  | .set true items => (hashes? items).map hashSet
  | .range start stop step =>
    let count := rangeLength start stop step
    if count < 2 then none else some (hashTuple ([(count : Int), start, step].map hashInt))
  | _ => none

def hashes? : List Meaning → Option (List Int)
  | [] => some []
  | m :: ms => do some ((← hash? m) :: (← hashes? ms))

end

def hashOf (m : Meaning) : Except Fault Meaning := do
  checkKey m
  if m matches .view false _ then .error (.valueError "cannot hash writable memoryview object")
  .ok (.int ((hash? m).getD 0))

/-! The order of sets. -/

abbrev Slots := Array (Option (UInt64 × Meaning))

def freeAmong? (slots : Slots) (first count : Nat) : Option Nat :=
  (List.range count).findSome? fun step =>
    match slots[first + step]? with
    | some none => some (first + step)
    | _ => none

-- A free slot for a number. The slots that are tried do not come back before all have been tried.
def freeSlot (slots : Slots) : Nat → Nat → UInt64 → Nat
  | 0, slot, _ => slot
  | fuel + 1, slot, rest =>
    let last := slots.size - 1
    match freeAmong? slots slot (if slot + 9 ≤ last then 10 else 1) with
    | some free => free
    | none => freeSlot slots fuel ((slot * 5 + 1 + (rest >>> 5).toNat) % slots.size) (rest >>> 5)

def putIntoSlot (slots : Slots) (entry : UInt64 × Meaning) : Slots :=
  slots.set! (freeSlot slots (slots.size + 64) (entry.1.toNat % slots.size) entry.1) (some entry)

def slotCount (things : Nat) : Nat := max 8 (Decimal.weight 2 (things.log2 + 1))

def addToSlots (slots : Slots) (entry : UInt64 × Meaning) : Slots :=
  let slots := putIntoSlot slots entry
  let entries := slots.toList.filterMap id
  if entries.length * 5 < (slots.size - 1) * 3 then slots
  else entries.foldl putIntoSlot (Array.replicate (slotCount (entries.length * 4)) none)

-- Things in the order in which a set gives them out, if that is the same everywhere.
def inSlotOrder (items : List Meaning) : List Meaning :=
  match items.mapM fun m => (hash? m).map fun n => (toWord n, m) with
  | some entries =>
    ((entries.foldl addToSlots (Array.replicate 8 none)).toList.filterMap id).map (·.2)
  | none => items

def setOf (fixed : Bool) (items : List Meaning) : Except Fault Meaning := do
  items.forM checkKey
  .ok (.set fixed (inSlotOrder (distinct items)))

end RestDispatch.Meaning
