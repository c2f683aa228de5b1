import RestDispatch.Proofs.Json.Depth
import RestDispatch.Proofs.Text.Writing

set_option autoImplicit false

/-!
Halves of surrogate pairs in JSON texts. Main statement: the text of a value holds one if and only if a
text within the value does, keys included.
-/
namespace RestDispatch

open Text.Utf8 (isHalf)

namespace Value

mutual

def holdsHalf : Value → Bool
  | .text t => t.any isHalf
  | .list items => itemsHoldHalf items
  | .object fields => fieldsHoldHalf fields
  | _ => false

def itemsHoldHalf : List Value → Bool
  | [] => false
  | v :: vs => holdsHalf v || itemsHoldHalf vs

def fieldsHoldHalf : Fields → Bool
  | [] => false
  | (k, v) :: fs => k.any isHalf || holdsHalf v || fieldsHoldHalf fs

end

end Value

namespace Json

theorem string_text_half (text : List Letter) : (stringText text).any isHalf = text.any isHalf := by
  have inner : (text.flatMap stringLetter).any isHalf = text.any isHalf := by
    induction text with
    | nil => rfl
    | cons letter rest ih =>
      have first : (stringLetter letter).any isHalf = isHalf letter := by
        cases letter with
        | char c => exact Text.letters_any_half _
        | half unit => rfl
      rw [List.flatMap_cons, List.any_append, List.any_cons, first, ih]
  simp only [stringText, List.cons_append, List.any_cons, List.any_append, inner, List.any_nil, isHalf, Bool.false_or, Bool.or_false]

theorem bracketed_half (start stop : Char) (parts : List (List Letter)) :
    (bracketed start stop parts).any isHalf = parts.any fun part => part.any isHalf := by
  have inner : (Text.join (.char ',') parts).any isHalf = parts.any fun part => part.any isHalf := by
    induction parts using Text.join.induct with
    | case1 => rfl
    | case2 piece => simp [Text.join]
    | case3 piece next pieces ih =>
      rw [Text.join, List.any_append, List.any_cons, ih]
      rfl
  simp only [bracketed, List.cons_append, List.any_cons, List.any_append, inner, List.any_nil, isHalf, Bool.false_or, Bool.or_false]

theorem encode_items_cons (bounds : Bounds) (v : Value) (items : List Value) (texts : List (List Letter))
    (written : encodeItems bounds (v :: items) = .ok texts) :
    ∃ text rest, encode bounds v = .ok text ∧ encodeItems bounds items = .ok rest ∧ texts = text :: rest := by
  obtain ⟨text, first, more⟩ := (bind_eq_ok _ _ _).mp written
  obtain ⟨rest, later, same⟩ := (bind_eq_ok _ _ _).mp more
  exact ⟨text, rest, first, later, (Except.ok.inj same).symm⟩

theorem encode_fields_cons (bounds : Bounds) (key : List Letter) (v : Value) (fields : Fields) (texts : List (List Letter))
    (written : encodeFields bounds ((key, v) :: fields) = .ok texts) :
    ∃ text rest, encode bounds v = .ok text ∧ encodeFields bounds fields = .ok rest ∧
      texts = (stringText key ++ .char ':' :: text) :: rest := by
  obtain ⟨text, first, more⟩ := (bind_eq_ok _ _ _).mp written
  obtain ⟨rest, later, same⟩ := (bind_eq_ok _ _ _).mp more
  exact ⟨text, rest, first, later, (Except.ok.inj same).symm⟩

theorem int_text_ok_iff (bounds : Bounds) (i : Int) (text : List Letter) :
    intText bounds i = .ok text ↔
      bounds.digits.any (· < (Nat.toDigits 10 i.natAbs).length) = false ∧ Text.letters (Value.intChars i) = text := by
  rw [intText]
  cases bounds.digits.any (· < (Nat.toDigits 10 i.natAbs).length) <;> simp

-- Only texts bring halves in; what is written around them are characters.
mutual

theorem encode_half (bounds : Bounds) (v : Value) (text : List Letter) (written : encode bounds v = .ok text) :
    text.any isHalf = v.holdsHalf := by
  cases v with
  | null =>
    obtain rfl := Except.ok.inj written
    exact (Text.letters_of_any_half "null").trans (by decide)
  | bool b =>
    obtain rfl := Except.ok.inj written
    exact (Text.letters_of_any_half _).trans (by cases b <;> decide)
  | int i =>
    obtain ⟨_, rfl⟩ := (int_text_ok_iff bounds i text).mp written
    exact Text.letters_any_half _
  | float x =>
    obtain rfl := Except.ok.inj written
    exact Text.letters_any_half _
  | text t =>
    obtain rfl := Except.ok.inj written
    exact string_text_half t
  | list items =>
    obtain ⟨_, texts, parts, rfl⟩ := (nested_ok_iff bounds _ _ _ text).mp written
    rw [bracketed_half, encode_items_half bounds.inside items texts parts]
    rfl
  | object fields =>
    obtain ⟨_, texts, parts, rfl⟩ := (nested_ok_iff bounds _ _ _ text).mp written
    rw [bracketed_half, encode_fields_half bounds.inside fields texts parts]
    rfl
  | function name kind => cases written

theorem encode_items_half (bounds : Bounds) (items : List Value) (texts : List (List Letter))
    (written : encodeItems bounds items = .ok texts) : (texts.any fun text => text.any isHalf) = Value.itemsHoldHalf items := by
  cases items with
  | nil =>
    obtain rfl := Except.ok.inj written
    rfl
  | cons v vs =>
    obtain ⟨text, others, first, rest, rfl⟩ := encode_items_cons bounds v vs texts written
    rw [List.any_cons, encode_half bounds v text first, encode_items_half bounds vs others rest]
    rfl

theorem encode_fields_half (bounds : Bounds) (fields : Fields) (texts : List (List Letter))
    (written : encodeFields bounds fields = .ok texts) : (texts.any fun text => text.any isHalf) = Value.fieldsHoldHalf fields := by
  cases fields with
  | nil =>
    obtain rfl := Except.ok.inj written
    rfl
  | cons field rest =>
    obtain ⟨key, v⟩ := field
    obtain ⟨text, others, first, later, rfl⟩ := encode_fields_cons bounds key v rest texts written
    rw [List.any_cons, List.any_append, List.any_cons, string_text_half, encode_half bounds v text first,
      encode_fields_half bounds rest others later]
    rfl

end

end Json
end RestDispatch
