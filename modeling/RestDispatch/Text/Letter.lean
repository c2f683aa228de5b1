import RestDispatch.Text.Quoted

set_option autoImplicit false

/-!
Letters of request data. JSON texts may hold halves of surrogate pairs that stand alone; they are no
characters, but they have a place in a text like these. Main statements: a text is read back from the string that
stands for it, and every string from the text that it stands for.
-/
namespace RestDispatch

inductive Letter where
  | char (c : Char)
  | half (unit : Nat)
deriving DecidableEq, Repr

namespace Text

def letters (cs : List Char) : List Letter := cs.map .char

def letterIn (c : Char) : Letter := ((half? c).map .half).getD (.char c)

def charFor : Letter → Char
  | .char c => c
  | .half unit => heldHalf unit

def lettersOf (text : String) : List Letter := text.toList.map letterIn

def held (text : List Letter) : String := String.ofList (text.map charFor)

instance : Coe String (List Letter) := ⟨lettersOf⟩

def chars? : List Letter → Option (List Char)
  | [] => some []
  | .char c :: rest => (chars? rest).map (c :: ·)
  | .half _ :: _ => none

def leadingChars : List Letter → List Char
  | .char c :: rest => c :: leadingChars rest
  | _ => []

-- Changes every stretch of characters; `run` holds the characters right before, last one first.
def mapRunsFrom (f : String → String) (run : List Char) : List Letter → List Letter
  | [] => lettersOf (f (String.ofList run.reverse))
  | .char c :: rest => mapRunsFrom f (c :: run) rest
  | .half unit :: rest => lettersOf (f (String.ofList run.reverse)) ++ .half unit :: mapRunsFrom f [] rest

def mapRuns (f : String → String) (text : List Letter) : List Letter := mapRunsFrom f [] text

def quotedLetter (quote : Char) : Letter → List Char
  | .char c => quotedChar quote c
  | .half unit => '\\' :: 'u' :: hex 4 unit

def quotedLetters (text : List Letter) : String :=
  let quote := quoteFor (text.filterMap fun
    | .char c => some c
    | .half _ => none)
  String.ofList (quote :: text.flatMap (quotedLetter quote) ++ [quote])

-- What a letter has to be for a string to stand for it: a character that holds no half, or a half.
def isPlainLetter : Letter → Bool
  | .char c => (half? c).isNone
  | .half unit => isHalfCode unit

theorem letter_in_char_for (letter : Letter) (plain : isPlainLetter letter = true) : letterIn (charFor letter) = letter := by
  cases letter with
  | char c => simp_all [isPlainLetter, letterIn, charFor]
  | half unit => simp [letterIn, charFor, half_of_held_half unit plain]

theorem letters_of_held (text : List Letter) (plain : ∀ letter ∈ text, isPlainLetter letter = true) :
    lettersOf (held text) = text := by
  induction text with
  | nil => rfl
  | cons letter rest ih =>
    have first := letter_in_char_for letter (plain letter List.mem_cons_self)
    have others := ih fun other member => plain other (List.mem_cons_of_mem letter member)
    simp only [lettersOf, held, String.toList_ofList, List.map_cons] at others ⊢
    rw [first, others]

theorem held_letters_of (text : String) : held (lettersOf text) = text := by
  have back : charFor ∘ letterIn = id := by
    funext c
    rw [Function.comp_apply, letterIn]
    cases held : half? c with
    | none => rfl
    | some unit => exact held_half_of_half c unit held
  rw [held, lettersOf, List.map_map, back, List.map_id, String.ofList_toList]

theorem leadingChars_letters (cs : List Char) : leadingChars (letters cs) = cs := by
  induction cs with
  | nil => rfl
  | cons c cs ih => simpa [letters, leadingChars] using ih

end Text
end RestDispatch
