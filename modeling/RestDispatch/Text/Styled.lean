set_option autoImplicit false

/-!
Terminal styles in text. A style is switched by an escape character, an opening bracket, a run of digits,
semicolons and question marks, and a letter. A text without escape characters has no styles.
-/
namespace RestDispatch.Text

def escapeChar : Char := '\x1b'

def isStyleChar (c : Char) : Bool := c.isDigit || c = ';' || c = '?'

def continuesStyle (held : List Char) (c : Char) : Bool :=
  if held = [escapeChar] then c = '[' else isStyleChar c

def endsStyle (held : List Char) (c : Char) : Bool := held ≠ [escapeChar] && c.isAlpha

def unstyledFrom (held : List Char) : List Char → List Char
  | [] => held.reverse
  | c :: cs =>
    if !held.isEmpty && continuesStyle held c then unstyledFrom (c :: held) cs
    else if !held.isEmpty && endsStyle held c then unstyledFrom [] cs
    else if c = escapeChar then held.reverse ++ unstyledFrom [c] cs
    else held.reverse ++ c :: unstyledFrom [] cs

def unstyled (text : String) : String := String.ofList (unstyledFrom [] text.toList)

theorem unstyled_from_of_not_mem (cs : List Char) (absent : escapeChar ∉ cs) : unstyledFrom [] cs = cs := by
  induction cs with
  | nil => rfl
  | cons c cs ih =>
    simp only [List.mem_cons, not_or] at absent
    simp [unstyledFrom, Ne.symm absent.1, ih absent.2]

-- No style goes beyond a blank.
theorem unstyled_from_blank (held cs rest : List Char) :
    unstyledFrom held (cs ++ ' ' :: rest) = unstyledFrom held cs ++ ' ' :: unstyledFrom [] rest := by
  induction cs generalizing held with
  | nil =>
    have continues : continuesStyle held ' ' = false := by
      rw [continuesStyle]
      split <;> decide
    have ends : endsStyle held ' ' = false := by
      rw [endsStyle, show ' '.isAlpha = false by decide, Bool.and_false]
    have unescaped : ' ' ≠ escapeChar := by decide
    simp [unstyledFrom, continues, ends, unescaped]
  | cons c cs ih =>
    rw [List.cons_append, unstyledFrom, unstyledFrom]
    simp only [ih]
    split
    · rfl
    · split
      · rfl
      · split <;> simp

end RestDispatch.Text
