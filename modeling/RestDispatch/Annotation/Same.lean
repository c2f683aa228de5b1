import RestDispatch.Annotation.Meaning

set_option autoImplicit false

/-!
Which things are equal, which come first, and which may be looked for among others.
-/
namespace RestDispatch.Meaning

def number? : Meaning → Option ((Int ⊕ Float) × Float)
  | .truth b => some (.inl (if b then 1 else 0), 0.0)
  | .int n => some (.inl n, 0.0)
  | .float x => some (.inr x, 0.0)
  | .complex re im => some (.inr re, im)
  | _ => none

-- Compares a float with an integer. The undefined number comes neither before nor after.
def compareFloatInt (x : Float) (n : Int) : Option Ordering :=
  if x.isNaN then none
  else if !Decimal.isFinite x then some (if x < 0.0 then .lt else .gt)
  else
    let whole := Decimal.truncate x
    if whole ≠ n || Decimal.isWhole x then some (compare whole n)
    else some (if x < 0.0 then .lt else .gt)

def compareReals : Int ⊕ Float → Int ⊕ Float → Option Ordering
  | .inl a, .inl b => some (compare a b)
  | .inr x, .inl n => compareFloatInt x n
  | .inl n, .inr x => (compareFloatInt x n).map Ordering.swap
  | .inr x, .inr y => if x < y then some .lt else if y < x then some .gt else if x == y then some .eq else none

def sameNumber : (Int ⊕ Float) × Float → (Int ⊕ Float) × Float → Bool
  | (a, i), (b, j) => compareReals a b = some .eq && i == j

def sameScalar (a b : Meaning) : Bool :=
  match number? a, number? b with
  | some x, some y => sameNumber x y
  | _, _ =>
    match a, b with
    | .nothing, .nothing => true
    | .ellipsis, .ellipsis => true
    | .notImplemented, .notImplemented => true
    | .text s, .text t => s = t
    | .bytes _ s, .bytes _ t => s = t
    | .view _ s, b => b.bytesIn?.any (s = ·)
    | a, .view _ t => a.bytesIn?.any (· = t)
    | .range a b c, .range d e f =>
      let count := rangeLength a b c
      count = rangeLength d e f && (count = 0 || (a = d && (count = 1 || c = f)))
    | .model m, .model n => m.name = n.name
    | .cls p, .cls q => p = q
    | .function f, .function g => f = g
    | .member k o n, .member l p m => k = l && o = p && n = m
    | .constant l k, .constant m j => l = m && k = j
    | .thing l p _, .thing m _ _ => l = m && l ≠ placeLabel p
    | .form f, .form g => f = g
    | .reference s, .reference t => s = t
    | _, _ => false

def isSetView (kind : String) : Bool := kind = "dict_keys" || kind = "dict_items"

mutual

def same (a b : Meaning) : Bool :=
  match a, b with
  | .tuple xs, .tuple ys => sameAll xs ys
  | .list xs, .list ys => sameAll xs ys
  | .set _ xs, .set _ ys => xs.length = ys.length && within xs ys
  | .dict xs, .dict ys => xs.length = ys.length && entriesWithin xs ys
  | .stream k xs none, .set _ ys => isSetView k && xs.length = ys.length && within xs ys
  | .set _ xs, .stream k ys none => isSetView k && xs.length = ys.length && within xs ys
  | .stream k xs none, .stream l ys none => isSetView k && isSetView l && xs.length = ys.length && within xs ys
  | .slice a b c, .slice d e f => same a d && same b e && same c f
  | .record m _ xs, .record n _ ys =>
    m.name = n.name && (m.own xs).length = (m.own ys).length && fieldsWithin m xs ys
  | .container n xs, .container m ys => n = m && sameAll xs ys
  | .unpacked n xs, .unpacked m ys => n = m && sameAll xs ys
  | .choice _ xs, .choice _ ys => xs.length = ys.length && within xs ys
  | .method s f, .method t g => f = g && same s t
  | a, b => sameScalar a b

def sameAll : List Meaning → List Meaning → Bool
  | [], [] => true
  | x :: xs, y :: ys => same x y && sameAll xs ys
  | _, _ => false

def within : List Meaning → List Meaning → Bool
  | [], _ => true
  | x :: xs, ys => ys.any (fun y => same x y) && within xs ys

def entriesWithin : List (Meaning × Meaning) → List (Meaning × Meaning) → Bool
  | [], _ => true
  | (k, v) :: xs, ys => ys.any (fun entry => same k entry.1 && same v entry.2) && entriesWithin xs ys

def fieldsWithin (m : Model) : List (String × Meaning) → List (String × Meaning) → Bool
  | [], _ => true
  | (name, v) :: xs, ys =>
    (!m.hasField name || ys.any fun entry => name = entry.1 && same v entry.2) && fieldsWithin m xs ys

end

def isAmong (m : Meaning) (items : List Meaning) : Bool := items.any m.same

def distinct (items : List Meaning) : List Meaning :=
  items.foldl (fun kept m => if m.isAmong kept then kept else kept ++ [m]) []

/-! Keys. -/

mutual

def changeable? : Meaning → Option String
  | .tuple items => changeableIn? items
  | .container _ items => changeableIn? items
  | .unpacked _ items => changeableIn? items
  | .choice _ members => changeableIn? members
  | .list _ => some "list"
  | .dict _ => some "dict"
  | .set false _ => some "set"
  | .bytes false _ => some "bytearray"
  | .slice _ _ _ => some "slice"
  | .record m _ _ => some m.name
  | .stream kind _ _ => if isSetView kind then some kind else none
  | _ => none

def changeableIn? : List Meaning → Option String
  | [] => none
  | m :: ms => (changeable? m).or (changeableIn? ms)

end

def checkKey (m : Meaning) : Except Fault Unit :=
  match m.changeable? with
  | some kind => .error (.typeError s!"unhashable type: '{kind}'")
  | none => .ok ()

def checkMember (m : Meaning) : Except Fault Unit := if m matches .set _ _ then .ok () else checkKey m

def putEntry (entries : List (Meaning × Meaning)) (key value : Meaning) : List (Meaning × Meaning) :=
  if entries.any (fun entry => key.same entry.1) then
    entries.map fun entry => if key.same entry.1 then (entry.1, value) else entry
  else entries ++ [(key, value)]

def dictOf (entries : List (Meaning × Meaning)) : Except Fault Meaning := do
  entries.forM fun entry => checkKey entry.1
  .ok (.dict (entries.foldl (fun table entry => putEntry table entry.1 entry.2) []))

def lookUp? (entries : List (Meaning × Meaning)) (key : Meaning) : Option Meaning :=
  (entries.find? fun entry => key.same entry.1).map (·.2)

/-! Order. -/

structure OrderTest where
  sign : String
  holds : Ordering → Bool

namespace OrderTest

def less : OrderTest := ⟨"<", (· = .lt)⟩

def lessOrEqual : OrderTest := ⟨"<=", (· ≠ .gt)⟩

def greater : OrderTest := ⟨">", (· = .gt)⟩

def greaterOrEqual : OrderTest := ⟨">=", (· ≠ .lt)⟩

end OrderTest

def notOrdered (test : OrderTest) (a b : Meaning) : Fault :=
  .typeError s!"'{test.sign}' not supported between instances of '{a.kindName}' and '{b.kindName}'"

-- Compares two lists by their first difference, lengths deciding if there is none.
def compareCodes : List Nat → List Nat → Ordering
  | [], [] => .eq
  | [], _ :: _ => .lt
  | _ :: _, [] => .gt
  | x :: xs, y :: ys => if x = y then compareCodes xs ys else compare x y

def codeOf : Letter → Nat
  | .char c => c.toNat
  | .half unit => unit

-- What a test of two sets says: one comes before another that it is a part of.
def testSets (test : OrderTest) (xs ys : List Meaning) : Bool :=
  let inLeft := within ys xs
  let inRight := within xs ys
  if inLeft && inRight then test.holds .eq
  else if inRight then test.holds .lt
  else if inLeft then test.holds .gt
  else false

def testScalars (test : OrderTest) (a b : Meaning) : Except Fault Bool :=
  let complex := fun | Meaning.complex _ _ => true | _ => false
  match number? a, number? b with
  | some (x, _), some (y, _) =>
    if complex a || complex b then .error (notOrdered test a b) else .ok ((compareReals x y).any test.holds)
  | _, _ =>
    match a, b with
    | .text s, .text t => .ok (test.holds (compareCodes (s.map codeOf) (t.map codeOf)))
    | .bytes _ s, .bytes _ t => .ok (test.holds (compareCodes (s.map UInt8.toNat) (t.map UInt8.toNat)))
    | a, b => .error (notOrdered test a b)

mutual

def ordered (test : OrderTest) (a b : Meaning) : Except Fault Bool :=
  match a, b with
  | .tuple xs, .tuple ys => orderedAll test xs ys
  | .list xs, .list ys => orderedAll test xs ys
  | .set _ xs, .set _ ys => .ok (testSets test xs ys)
  | .stream k xs none, .set _ ys => if isSetView k then .ok (testSets test xs ys) else .error (notOrdered test a b)
  | .set _ xs, .stream k ys none => if isSetView k then .ok (testSets test xs ys) else .error (notOrdered test a b)
  | .stream k xs none, .stream l ys none =>
    if isSetView k && isSetView l then .ok (testSets test xs ys) else .error (notOrdered test a b)
  | .slice start stop step, .slice first last by_ =>
    if !same start first then ordered test start first
    else if !same stop last then ordered test stop last
    else if !same step by_ then ordered test step by_
    else .ok (test.holds .eq)
  | a, b => testScalars test a b

def orderedAll (test : OrderTest) : List Meaning → List Meaning → Except Fault Bool
  | [], [] => .ok (test.holds .eq)
  | [], _ :: _ => .ok (test.holds .lt)
  | _ :: _, [] => .ok (test.holds .gt)
  | x :: xs, y :: ys => if same x y then orderedAll test xs ys else ordered test x y

end

-- Whether two things are the same thing. What is made anew by every expression is never the same.
def isIdentical (a b : Meaning) : Bool :=
  match a, b with
  | .truth x, .truth y => x = y
  | .truth _, _ => false
  | _, .truth _ => false
  | .int x, .int y => x = y
  | .float x, .float y => x == y
  | .text s, .text t => s = t
  | .bytes true s, .bytes true t => s = t
  | .nothing, .nothing => true
  | .ellipsis, .ellipsis => true
  | .notImplemented, .notImplemented => true
  | .model m, .model n => m.name = n.name
  | .cls p, .cls q => p = q
  | .function f, .function g => f = g
  | .member k o n, .member l p m => k = l && o = p && n = m
  | .constant l k, .constant m j => l = m && k = j
  | .thing l p _, .thing m _ _ => l = m && l ≠ placeLabel p
  | .form f, .form g => f = g
  | .tuple [], .tuple [] => true
  | .choice false xs, .choice false ys => sameAll xs ys
  | _, _ => false

end RestDispatch.Meaning
