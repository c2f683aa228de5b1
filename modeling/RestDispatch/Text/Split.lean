set_option autoImplicit false

/-!
Cutting a text at a separator and putting the pieces together again. A text has one piece more than
it has separators, so joining undoes splitting.
-/
namespace RestDispatch.Text

def split {α : Type} [DecidableEq α] (separator : α) : List α → List (List α)
  | [] => [[]]
  | c :: cs =>
    if c = separator then [] :: split separator cs
    else match split separator cs with
      | [] => [[c]]
      | piece :: pieces => (c :: piece) :: pieces

def join {α : Type} (separator : α) : List (List α) → List α
  | [] => []
  | [piece] => piece
  | piece :: next :: pieces => piece ++ separator :: join separator (next :: pieces)

def cut? (separator : Char) : List Char → Option (List Char × List Char)
  | [] => none
  | c :: cs =>
    if c = separator then some ([], cs)
    else (cut? separator cs).map fun (before, after) => (c :: before, after)

def splitText (separator : Char) (text : String) : List String :=
  (split separator text.toList).map String.ofList

def joinText (separator : Char) (pieces : List String) : String :=
  String.ofList (join separator (pieces.map String.toList))

theorem split_ne_nil {α : Type} [DecidableEq α] (separator : α) (cs : List α) : split separator cs ≠ [] := by
  cases cs with
  | nil => simp [split]
  | cons c cs =>
    simp only [split]
    split
    · simp
    · split <;> simp

theorem join_cons {α : Type} (separator c : α) (piece : List α) (pieces : List (List α)) :
    join separator ((c :: piece) :: pieces) = c :: join separator (piece :: pieces) := by
  cases pieces <;> rfl

theorem join_split {α : Type} [DecidableEq α] (separator : α) (cs : List α) :
    join separator (split separator cs) = cs := by
  induction cs with
  | nil => rfl
  | cons c cs ih =>
    simp only [split]
    cases h : split separator cs with
    | nil => exact absurd h (split_ne_nil separator cs)
    | cons piece pieces =>
      rw [h] at ih
      by_cases same : c = separator
      · simp [same, join, ih]
      · simp [same, join_cons, ih]

theorem not_mem_of_mem_split {α : Type} [DecidableEq α] (separator : α) (cs piece : List α)
    (member : piece ∈ split separator cs) : separator ∉ piece := by
  induction cs generalizing piece with
  | nil => simp_all [split]
  | cons c cs ih =>
    simp only [split] at member
    split at member
    · rcases List.mem_cons.mp member with rfl | inside
      · simp
      · exact ih piece inside
    · rename_i different
      split at member
      · simp_all [Ne.symm different]
      · rename_i first rest equation
        rcases List.mem_cons.mp member with rfl | inside
        · have clean := ih first (by simp [equation])
          simp [Ne.symm different, clean]
        · exact ih piece (by simp [equation, inside])

end RestDispatch.Text
