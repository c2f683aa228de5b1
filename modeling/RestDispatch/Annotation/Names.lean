import RestDispatch.Annotation.Meaning

set_option autoImplicit false

/-!
Names while an expression is evaluated. Calls and comprehensions open frames of their own; all other names are general.
A function without a name sees its frames as they are when it is called, and as they were in the end once they have
been closed. Things that can change are kept here, so that a change is seen by all that hold them.
-/
namespace RestDispatch

-- What names stand for: those of the frames that are open, the innermost first, and the general ones. `made` frames
-- have been opened so far. Shared things are kept at their places.
structure Names where
  frames : List (Frame Meaning) := []
  general : Bindings := []
  made : Nat := 0
  things : Array Meaning := #[]

namespace Names

def overlay (news olds : Bindings) : Bindings := news ++ olds.filter fun (name, _) => (news.lookup name).isNone

def find? (scope : Names) (name : String) : Option Meaning :=
  (scope.frames.findSome? fun frame => frame.names.lookup name).or (scope.general.lookup name)

def bind (names : Bindings) (scope : Names) : Names :=
  match scope.frames with
  | [] => { scope with general := overlay names scope.general }
  | frame :: rest => { scope with frames := { frame with names := overlay names frame.names } :: rest }

def bindInCall? (name : String) (m : Meaning) : List (Frame Meaning) → Option (List (Frame Meaning))
  | [] => none
  | frame :: rest =>
    if frame.ofCall then some ({ frame with names := overlay [(name, m)] frame.names } :: rest)
    else (bindInCall? name m rest).map (frame :: ·)

-- Binds a name that a part of an expression is given: comprehensions do not keep it.
def assign (name : String) (m : Meaning) (scope : Names) : Names :=
  match bindInCall? name m scope.frames with
  | some frames => { scope with frames }
  | none => { scope with general := overlay [(name, m)] scope.general }

def opened (ofCall : Bool) (names : Bindings) (scope : Names) : Names :=
  { scope with frames := ⟨scope.made, ofCall, names⟩ :: scope.frames, made := scope.made + 1 }

-- A frame as it is now if it is still open, and as it was if it is not.
def current (scope : Names) (frame : Frame Meaning) : Frame Meaning :=
  (scope.frames.find? (·.number = frame.number)).getD frame

def ofCall (scope : Names) (around : List (Frame Meaning)) (own : Bindings) : Names :=
  opened true own { scope with frames := around.map scope.current }

def afterCall (before after : Names) : Names := { after with frames := before.frames }

end Names

namespace Meaning

mutual

-- A thing whose functions see a frame as it was in the end.
def seeing (last : Frame Meaning) : Meaning → Meaning
  | .tuple items => .tuple (seeingItems last items)
  | .list items => .list (seeingItems last items)
  | .set fixed items => .set fixed (seeingItems last items)
  | .dict entries => .dict (seeingEntries last entries)
  | .closure shape defaults body around => .closure shape (seeingNames last defaults) body (seeingFrames last around)
  | m => m

def seeingItems (last : Frame Meaning) : List Meaning → List Meaning
  | [] => []
  | m :: ms => seeing last m :: seeingItems last ms

def seeingEntries (last : Frame Meaning) : List (Meaning × Meaning) → List (Meaning × Meaning)
  | [] => []
  | (key, m) :: rest => (seeing last key, seeing last m) :: seeingEntries last rest

def seeingNames (last : Frame Meaning) : List (String × Meaning) → List (String × Meaning)
  | [] => []
  | (name, m) :: rest => (name, seeing last m) :: seeingNames last rest

def seeingFrames (last : Frame Meaning) : List (Frame Meaning) → List (Frame Meaning)
  | [] => []
  | ⟨number, ofCall, names⟩ :: rest =>
    (if number = last.number then last else ⟨number, ofCall, seeingNames last names⟩) :: seeingFrames last rest

end

end Meaning

namespace Names

-- Closes the innermost frame; what is bound outside of it sees it as it was in the end.
def closed (scope : Names) : Names :=
  match scope.frames with
  | [] => scope
  | last :: rest =>
    { scope with
      frames := Meaning.seeingFrames last rest
      general := Meaning.seeingNames last scope.general
      things := scope.things.map (Meaning.seeing last) }

end Names

/-! Shared things. -/

namespace Meaning

def canChange : Meaning → Bool
  | .list _ => true
  | .dict _ => true
  | .set fixed _ => !fixed
  | .bytes fixed _ => !fixed
  | .stream kind _ _ => !isDictView kind
  | .record _ _ _ => true
  | _ => false

def endless (m : Meaning) : Meaning :=
  match m with
  | .dict _ => .constant "\x7b...\x7d" "dict"
  | .list _ => .constant "[...]" "list"
  | m => .constant "..." m.kindName

def nestLimit : Nat := 6000

def withParts (things : Array Meaning) : Nat → List Nat → Meaning → Meaning
  | 0, _, m => m
  | fuel + 1, open_, m =>
    let whole := withParts things fuel open_
    match m with
    | .shared place =>
      let kept := things.getD place m
      if place ∈ open_ then endless kept else withParts things fuel (place :: open_) kept
    | .tuple items => .tuple (items.map whole)
    | .list items => .list (items.map whole)
    | .set fixed items => .set fixed (items.map whole)
    | .dict entries => .dict (entries.map fun (key, m) => (whole key, whole m))
    | .slice start stop step => .slice (whole start) (whole stop) (whole step)
    | .record m given fields => .record m given (fields.map fun (name, m) => (name, whole m))
    | .thing label path parts => .thing label path (parts.map fun (name, m) => (name, whole m))
    | .fault kind arguments => .fault kind (arguments.map whole)
    | .method self name => .method (whole self) name
    | .stream kind items failure => .stream kind (items.map whole) failure
    | m => m

end Meaning

namespace Names

def content (scope : Names) (m : Meaning) : Meaning :=
  match m with
  | .shared place => scope.things.getD place m
  | m => m

-- A thing as it is, and all of its parts too.
def whole (scope : Names) (m : Meaning) : Meaning :=
  if scope.things.isEmpty then m else m.withParts scope.things Meaning.nestLimit []

def put (place : Nat) (m : Meaning) (scope : Names) : Names := { scope with things := scope.things.setIfInBounds place m }

def share (m : Meaning) (scope : Names) : Meaning × Names :=
  (.shared scope.things.size, { scope with things := scope.things.push m })

end Names

namespace Meaning

abbrev Evaluation := StateT Names (Except Fault)

def kept (m : Meaning) : Evaluation Meaning := do
  if m.canChange then modifyGet (·.share m) else return m

def seen (m : Meaning) : Evaluation Meaning := do return (← get).whole m

def contentOf (m : Meaning) : Evaluation Meaning := do return (← get).content m

end Meaning
end RestDispatch
