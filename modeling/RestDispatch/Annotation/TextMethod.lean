import RestDispatch.Annotation.Braces
import RestDispatch.Annotation.Construct
import RestDispatch.Annotation.Item
import RestDispatch.Text.Case
import RestDispatch.Text.LetterClass

set_option autoImplicit false

/-!
Methods of texts: letter case, searching, cutting and putting together, padding, and changing letters by a table.
-/
namespace RestDispatch.Meaning

abbrev Letters := List Letter

/-! Arguments. -/

def textArgument (wrong : String) (m : Meaning) : Except Fault Letters :=
  match m with
  | .text t => .ok t
  | m => .error (.typeError s!"{wrong}, not {m.kindName}")

def holdsOfOne (read : Meaning → Except Fault Letters) (holds : Letters → Bool) : List Meaning → Except Fault Bool
  | [] => .ok false
  | m :: ms => do if holds (← read m) then .ok true else holdsOfOne read holds ms

/-! Searching and cutting. -/

def findRun? (run : Letters) (place : Nat) : Letters → Option Nat
  | [] => if run.isEmpty then some place else none
  | c :: cs => if run.isPrefixOf (c :: cs) then some place else findRun? run (place + 1) cs

def findLastRun? (run t : Letters) : Option Nat :=
  (findRun? run.reverse 0 t.reverse).map fun place => t.length - run.length - place

-- The pieces between runs that are not empty; `left` says how many cuts may be made, and `skip` how many letters
-- belong to a run.
def cutFrom (run : Letters) : Option Nat → Nat → Letters → List Letters
  | _, _, [] => [[]]
  | left, skip + 1, _ :: cs => cutFrom run left skip cs
  | left, 0, c :: cs =>
    if left ≠ some 0 && run.isPrefixOf (c :: cs) then [] :: cutFrom run (left.map (· - 1)) (run.length - 1) cs
    else
      match cutFrom run left 0 cs with
      | [] => [[c]]
      | piece :: pieces => (c :: piece) :: pieces

-- The words between blanks, up to so many cuts. What is left after the last cut is one word. Every word takes a
-- letter, so as much fuel as there are letters suffices.
def wordsFrom : Nat → Option Nat → Letters → List Letters
  | 0, _, _ => []
  | fuel + 1, left, t =>
    match t.dropWhile Text.isBlankLetter with
    | [] => []
    | t =>
      if left = some 0 then [t]
      else
        (t.takeWhile (!Text.isBlankLetter ·)) ::
          wordsFrom fuel (left.map (· - 1)) (t.dropWhile (!Text.isBlankLetter ·))

def pieces (run : Option Letters) (limit : Option Nat) (t : Letters) : List Letters :=
  match run with
  | none => wordsFrom (t.length + 1) limit t
  | some run => cutFrom run limit 0 t

def piecesFromEnd (run : Option Letters) (limit : Option Nat) (t : Letters) : List Letters :=
  ((pieces (run.map List.reverse) limit t.reverse).map List.reverse).reverse

def boundGiven (m : Meaning) : Except Fault (Option Nat) := do
  let n ← m.sizeIndex
  .ok (if n < 0 then none else some n.toNat)

def cutArguments (call : String) (arguments : CallArguments) : Except Fault (Option Letters × Option Nat) := do
  Places.check { call, names := ["sep", "maxsplit"] } arguments
  let limit ← boundGiven ((arguments.at? 1 "maxsplit").getD (.int (-1)))
  match (arguments.at? 0 "sep").getD .nothing with
  | .nothing => .ok (none, limit)
  | .text [] => .error (.valueError "empty separator")
  | .text t => .ok (some t, limit)
  | m => .error (.typeError s!"must be str or None, not {m.kindName}")

def replaced (t old new : Letters) (limit : Option Nat) : Letters :=
  if old.isEmpty then
    let places := (limit.getD (t.length + 1))
    (t.zipIdx.flatMap fun (letter, place) => (if place < places then new else []) ++ [letter]) ++
      (if t.length < places then new else [])
  else (cutFrom old limit 0 t).intersperse new |>.flatten

def countRuns (run t : Letters) : Nat := if run.isEmpty then t.length + 1 else (cutFrom run none 0 t).length - 1

def partitioned (run t : Letters) (place : Option Nat) (missing : Meaning) : Meaning :=
  match place with
  | some place => .tuple [.text (t.take place), .text run, .text (t.drop (place + run.length))]
  | none => missing

def withoutTabs (width : Int) (column : Nat) : Letters → Letters
  | [] => []
  | .char '\t' :: rest =>
    let blanks := if width ≤ 0 then 0 else width.toNat - column % width.toNat
    List.replicate blanks (.char ' ') ++ withoutTabs width (column + blanks) rest
  | letter :: rest =>
    letter :: withoutTabs width (if letter = .char '\n' || letter = .char '\r' then 0 else column + 1) rest

def linesFrom (keep : Bool) (read : Letters) : Letters → List Letters
  | [] => if read.isEmpty then [] else [read.reverse]
  | .char '\r' :: .char '\n' :: rest =>
    (read.reverse ++ (if keep then Text.letters ['\r', '\n'] else [])) :: linesFrom keep [] rest
  | letter :: rest =>
    let ends := match letter with
      | .char c => (0x0A ≤ c.toNat && c.toNat ≤ 0x0D) || (0x1C ≤ c.toNat && c.toNat ≤ 0x1E) ||
          c.toNat ∈ [0x85, 0x2028, 0x2029]
      | .half _ => false
    if ends then (read.reverse ++ (if keep then [letter] else [])) :: linesFrom keep [] rest
    else linesFrom keep (letter :: read) rest

/-! Letters. -/

def allAre (isOf : Char → Bool) (t : Letters) : Bool :=
  !t.isEmpty && t.all fun
    | .char c => isOf c
    | .half _ => false

def hasOnly (isOf isOther isTitle : Char → Bool) (t : Letters) : Bool :=
  let has := fun (isOf : Char → Bool) => t.any fun
    | .char c => isOf c
    | .half _ => false
  has isOf && !has isOther && !has isTitle

-- Whether the words of a text, of which there is at least one, have a capital at their start and small letters
-- after it. `inside` says whether a letter with a case stands before.
def hasTitles (found inside : Bool) : Letters → Bool
  | [] => found
  | .half _ :: rest => hasTitles found false rest
  | .char c :: rest =>
    if Text.isCapital c || Text.isTitle c then !inside && hasTitles true true rest
    else if Text.isSmall c then inside && hasTitles true true rest
    else hasTitles found false rest

def capitalized (t : Letters) : Letters :=
  match t with
  | .char c :: _ =>
    let lower := Text.mapRuns Text.lower t
    Text.letters (Text.titleChar c) ++ lower.drop (Text.lowerChar c).length
  | t => Text.mapRuns Text.lower t

-- Characters with small letters in place of capitals and the other way round; `before` holds what has been read,
-- last one first.
def swappedFrom (before : List Char) : List Char → List Char
  | [] => []
  | c :: cs =>
    (if Text.isCapital c then Text.lowerBetween before c cs
      else if Text.isSmall c then Text.upperChar c
      else [c]) ++ swappedFrom (c :: before) cs

def swapped (text : String) : String := String.ofList (swappedFrom [] text.toList)

def zeroFilled (width : Nat) (t : Letters) : Letters :=
  let missing := List.replicate (width - t.length) (Letter.char '0')
  match t with
  | .char c :: rest => if c = '+' || c = '-' then .char c :: missing ++ rest else missing ++ t
  | t => missing ++ t

def widthArguments (given : List Meaning) : Except Fault (Nat × Letter) := do
  let width ← ((given.head?).getD .nothing).roomFor
  match (given[1]? : Option Meaning) with
  | none => .ok (width, .char ' ')
  | some (.text [letter]) => .ok (width, letter)
  | some (.text _) => .error (.typeError "The fill character must be exactly one character long")
  | some m => .error (.typeError s!"The fill character must be a unicode character, not {m.kindName}")

def centered (width : Nat) (fill : Letter) (t : Letters) : Letters :=
  let missing := width - t.length
  let left := missing / 2 + (if missing % 2 = 1 && width % 2 = 1 then 1 else 0)
  List.replicate left fill ++ t ++ List.replicate (missing - left) fill

def stripped (given : List Meaning) (call : String) (atStart atEnd : Bool) (t : Letters) : Except Fault Meaning := do
  let drop ← match (given.head?).getD .nothing with
    | .nothing => .ok Text.isBlankLetter
    | .text letters => .ok fun letter => letter ∈ letters
    | _ => .error (.typeError s!"{call} arg must be None or str")
  let t := if atStart then t.dropWhile drop else t
  .ok (.text (if atEnd then (t.reverse.dropWhile drop).reverse else t))

-- The part of a text between the limits that follow what is searched, and where it starts. There is none if the
-- start lies behind the stop.
def searched (limits : List Meaning) (t : Letters) : Except Fault (Option (Nat × Letters)) := do
  let start ← limit? ((limits[0]?).getD .nothing)
  let stop ← limit? ((limits[1]?).getD .nothing)
  let length : Int := t.length
  let place := fun (n : Int) => max 0 (if n < 0 then n + length else n)
  let start := (start.map place).getD 0
  let stop := min length ((stop.map place).getD length)
  .ok (if stop < start then none else some (start.toNat, (t.take stop.toNat).drop start.toNat))

def placeIn (fromEnd : Bool) (run : Letters) (part : Option (Nat × Letters)) : Option Nat :=
  part.bind fun (start, part) => (if fromEnd then findLastRun? run part else findRun? run 0 part).map (· + start)

def found (name missing : String) (run : Letters) (part : Option (Nat × Letters)) : Except Fault Meaning :=
  let orMissing := fun (place : Option Nat) =>
    match place with
    | some place => Except.ok (Meaning.int place)
    | none => .error (.valueError missing)
  match name with
  | "find" => .ok (.int ((placeIn false run part).elim (-1) Int.ofNat))
  | "rfind" => .ok (.int ((placeIn true run part).elim (-1) Int.ofNat))
  | "index" => orMissing (placeIn false run part)
  | "rindex" => orMissing (placeIn true run part)
  | _ => .ok (.int (part.elim 0 fun (_, part) => countRuns run part))

def searches : List String := ["find", "rfind", "index", "rindex", "count"]

def tailTest (call : String) (holds : Letters → Letters → Bool) (given : List Meaning) (t : Letters) :
    Except Fault Meaning := do
  let part ← searched (given.drop 1) t
  let tests := fun (run : Letters) => part.any fun (_, part) => holds run part
  match (given.head?).getD .nothing with
  | .text run => .ok (.truth (tests run))
  | .tuple items => (holdsOfOne (textArgument s!"tuple for {call} must only contain str") tests items).map .truth
  | m => .error (.typeError s!"{call} first arg must be str or a tuple of str, not {m.kindName}")

def joinedBy (t : Letters) (m : Meaning) : Except Fault Meaning := do
  let items ← match m.elements with
    | .ok items => .ok items
    | .error failure =>
      .error (if m matches .stream _ _ _ then failure else .typeError "can only join an iterable")
  let parts ← items.zipIdx.mapM fun (item, place) =>
    match item with
    | .text part => Except.ok part
    | item => .error (Fault.typeError s!"sequence item {place}: expected str instance, {item.kindName} found")
  .ok (.text (parts.intersperse t).flatten)

/-! Tables. -/

-- What a letter becomes by a table; letters that the table does not know stay.
def replacedLetter (table : Meaning) (letter : Letter) : Except Fault Letters :=
  match table.item (.int (codeOf letter)) with
  | .error failure => if failure.kind ∈ ["KeyError", "IndexError", "LookupError"] then .ok [letter] else .error failure
  | .ok .nothing => .ok []
  | .ok (.text t) => .ok t
  | .ok m =>
    match m.integer? with
    | some n =>
      if 0 ≤ n && n < 0x110000 then .ok [Text.letterOf n.toNat]
      else .error (.valueError "character mapping must be in range(0x110000)")
    | none => .error (.typeError "character mapping must return integer, None or str")

def tableKey (key : Meaning) : Except Fault Meaning :=
  match key with
  | .text [letter] => .ok (.int (codeOf letter))
  | .text _ => .error (.valueError "string keys in translate table must be of length 1")
  | m =>
    match m.integer? with
    | some _ => .ok m
    | none => .error (.typeError "keys in translate table must be strings or integers")

-- A table that says what letters become: made from a dictionary, or from two texts and one with letters that are
-- left out.
def tableOf (given : List Meaning) : Except Fault Meaning := do
  let call := "maketrans"
  match given with
  | [.dict entries] => do
    let entries ← entries.mapM fun (key, value) => do .ok (← tableKey key, value)
    dictOf entries
  | [_] => .error (.typeError "if you give only one argument to maketrans it must be a dict")
  | first :: others => do
    let texts ← others.zipIdx.mapM fun (m, place) => textGiven call s!"argument {place + 2}" m
    match first, texts with
    | .text olds, news :: left =>
      if olds.length ≠ news.length then
        .error (.valueError "the first two maketrans arguments must have equal length")
      else
        dictOf ((olds.zip news).map (fun (old, new) => (.int (codeOf old), .int (codeOf new))) ++
          left.flatten.map fun letter => (.int (codeOf letter), .nothing))
    | _, _ => .error (.typeError "first maketrans argument must be a string if there is a second argument")
  | [] => .ok .nothing

/-! Methods. -/

def changes : List (String × (Letters → Letters)) :=
  [("upper", Text.mapRuns Text.upper), ("lower", Text.mapRuns Text.lower), ("casefold", Text.mapRuns Text.fold),
   ("title", Text.mapRuns Text.title), ("capitalize", capitalized), ("swapcase", Text.mapRuns swapped)]

def questions : List (String × (Letters → Bool)) :=
  [("isalpha", allAre Text.isLetter), ("isdigit", allAre Text.isDigit), ("isdecimal", allAre Text.isDecimal),
   ("isnumeric", allAre Text.isNumeral), ("isalnum", allAre fun c => Text.isLetter c || Text.isNumeral c),
   ("isspace", allAre Text.isBlank), ("isupper", hasOnly Text.isCapital Text.isSmall Text.isTitle),
   ("islower", hasOnly Text.isSmall Text.isCapital Text.isTitle), ("istitle", hasTitles false false),
   ("isascii", fun t => t.all fun letter => codeOf letter < 0x80),
   ("isprintable", fun t => t.all fun
      | .char c => Text.isPrintable c
      | .half _ => false),
   ("isidentifier", fun t => (Text.chars? t).any Text.isName)]

def withoutEnd (atStart : Bool) (run t : Letters) : Letters :=
  if atStart then if run.isPrefixOf t then t.drop run.length else t
  else if run.isSuffixOf t then t.take (t.length - run.length) else t

def textMethod? (t : Letters) (name : String) (arguments : CallArguments) : Option (Except Fault Meaning) :=
  let given := arguments.byPosition
  let first := (given.head?).getD .nothing
  match changes.lookup name, questions.lookup name with
  | some change, _ => some (.ok (.text (change t)))
  | none, some question => some (.ok (.truth (question t)))
  | none, none =>
    match name with
    | "strip" => some (stripped given name true true t)
    | "lstrip" => some (stripped given name true false t)
    | "rstrip" => some (stripped given name false true t)
    | "split" => some do
      let (run, limit) ← cutArguments name arguments
      .ok (.list ((pieces run limit t).map .text))
    | "rsplit" => some do
      let (run, limit) ← cutArguments name arguments
      .ok (.list ((piecesFromEnd run limit t).map .text))
    | "splitlines" => some do
      Places.check { call := name, names := ["keepends"] } arguments
      let keep ← ((arguments.at? 0 "keepends").getD (.truth false)).smallIndex
      .ok (.list ((linesFrom (keep ≠ 0) [] t).map .text))
    | "expandtabs" => some do
      Places.check { call := name, names := ["tabsize"] } arguments
      .ok (.text (withoutTabs (← ((arguments.at? 0 "tabsize").getD (.int 8)).smallIndex) 0 t))
    | "join" => some (joinedBy t first)
    | "replace" => some do
      let old ← textGiven name "argument 1" first
      let new ← textGiven name "argument 2" ((given[1]?).getD .nothing)
      .ok (.text (replaced t old new (← boundGiven ((given[2]?).getD (.int (-1))))))
    | "startswith" => some (tailTest name List.isPrefixOf given t)
    | "endswith" => some (tailTest name List.isSuffixOf given t)
    | "removeprefix" => some do .ok (.text (withoutEnd true (← textGiven name "argument" first) t))
    | "removesuffix" => some do .ok (.text (withoutEnd false (← textGiven name "argument" first) t))
    | "partition" => some do
      let run ← textArgument "must be str" first
      if run.isEmpty then .error (.valueError "empty separator")
      .ok (partitioned run t (findRun? run 0 t) (.tuple [.text t, .text [], .text []]))
    | "rpartition" => some do
      let run ← textArgument "must be str" first
      if run.isEmpty then .error (.valueError "empty separator")
      .ok (partitioned run t (findLastRun? run t) (.tuple [.text [], .text [], .text t]))
    | "zfill" => some do .ok (.text (zeroFilled (← first.roomFor) t))
    | "center" => some do
      let (width, fill) ← widthArguments given
      .ok (.text (centered width fill t))
    | "ljust" => some do
      let (width, fill) ← widthArguments given
      .ok (.text (t ++ List.replicate (width - t.length) fill))
    | "rjust" => some do
      let (width, fill) ← widthArguments given
      .ok (.text (List.replicate (width - t.length) fill ++ t))
    | "encode" => some do
      Places.check { call := name, names := ["encoding", "errors"] } arguments
      let (encoding, handler) ← codecArguments name 0 arguments
      (encoded t encoding handler).map (.bytes true)
    | "format" => some (formattedWith t arguments)
    | "format_map" => some (formattedFrom t first)
    | "translate" => some do .ok (.text (← t.mapM (replacedLetter first)).flatten)
    | "maketrans" => some (tableOf given)
    | name =>
      if name ∈ searches then
        some do
          let part ← searched (given.drop 1) t
          found name "substring not found" (← textArgument "must be str" first) part
      else none

end RestDispatch.Meaning
