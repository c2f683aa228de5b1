import RestDispatch.Proofs.Json.Depth
import RestDispatch.Proofs.Json.Scalars

set_option autoImplicit false

/-!
Values that JSON texts carry whole: those made of null, truth values, integers and texts that can be written, lists and
objects. Main statement: each has a text, in which every letter is a character and none is a control character, and which is
written as deep as the writer's bounds admit.
-/
namespace RestDispatch

open Text (letters)

namespace Value

mutual

def portable : Value → Bool
  | .null => true
  | .bool _ => true
  | .int i => (Nat.toDigits 10 i.natAbs).length ≤ Decimal.digitLimit
  | .float _ => false
  | .text t => !t.any Text.Utf8.isHalf
  | .list items => itemsPortable items
  | .object fields => (fields.map Prod.fst).Nodup && fieldsPortable fields
  | .function _ _ => false

def itemsPortable : List Value → Bool
  | [] => true
  | v :: vs => portable v && itemsPortable vs

def fieldsPortable : Fields → Bool
  | [] => true
  | (k, v) :: fs => !k.any Text.Utf8.isHalf && portable v && fieldsPortable fs

end

end Value

namespace Json

-- The text of a value, where it has one.
mutual

def written : Value → List Letter
  | .null => Text.lettersOf "null"
  | .bool b => Text.lettersOf (if b then "true" else "false")
  | .int i => letters (Value.intChars i)
  | .text t => stringText t
  | .list items => bracketed '[' ']' (writtenItems items)
  | .object fields => bracketed '\x7b' '\x7d' (writtenFields fields)
  | _ => []

def writtenItems : List Value → List (List Letter)
  | [] => []
  | v :: vs => written v :: writtenItems vs

def writtenFields : Fields → List (List Letter)
  | [] => []
  | (k, v) :: fs => (stringText k ++ .char ':' :: written v) :: writtenFields fs

end

-- Bounds that leave room for the digits of integers.
def Bounds.Roomy (bounds : Bounds) : Prop := ∀ limit, bounds.digits = some limit → Decimal.digitLimit ≤ limit

theorem Bounds.roomy_body : ofBody.Roomy := fun _ same => Nat.le_of_eq (Option.some.inj same)

theorem Bounds.roomy_inside (bounds : Bounds) (roomy : bounds.Roomy) : bounds.inside.Roomy := roomy

theorem Bounds.roomy_bottomless (bounds : Bounds) (roomy : bounds.Roomy) : bounds.bottomless.Roomy := roomy

theorem Bounds.roomy_int (bounds : Bounds) (roomy : bounds.Roomy) (i : Int) (portable : (Value.int i).portable = true) :
    bounds.digits.any (· < (Nat.toDigits 10 i.natAbs).length) = false := by
  have short : (Nat.toDigits 10 i.natAbs).length ≤ Decimal.digitLimit := by simpa [Value.portable] using portable
  cases limited : bounds.digits with
  | none => rfl
  | some limit => simpa using Nat.le_trans short (roomy limit limited)

mutual

theorem encode_written (bounds : Bounds) (roomy : bounds.Roomy) (v : Value) (portable : v.portable = true) :
    Within (· = .deepEncoding) (encode bounds v) bounds v.depth (written v) := by
  cases v with
  | null => exact .flat bounds _
  | bool b => exact .flat bounds _
  | int i =>
    rw [encode, intText, bounds.roomy_int roomy i portable]
    exact .flat bounds _
  | float x => cases portable
  | text t => exact .flat bounds _
  | list items => exact .nested _ rfl ((encode_items_written bounds.inside (bounds.roomy_inside roomy) items portable).map _)
  | object fields =>
    rw [Value.portable, Bool.and_eq_true] at portable
    exact .nested _ rfl ((encode_fields_written bounds.inside (bounds.roomy_inside roomy) fields portable.2).map _)
  | function name kind => cases portable

theorem encode_items_written (bounds : Bounds) (roomy : bounds.Roomy) (items : List Value) (portable : Value.itemsPortable items = true) :
    Within (· = .deepEncoding) (encodeItems bounds items) bounds (Value.itemsDepth items) (writtenItems items) := by
  cases items with
  | nil => exact .flat bounds _
  | cons v vs =>
    rw [Value.itemsPortable, Bool.and_eq_true] at portable
    exact (encode_written bounds roomy v portable.1).bind _ ((encode_items_written bounds roomy vs portable.2).map _)

theorem encode_fields_written (bounds : Bounds) (roomy : bounds.Roomy) (fields : Fields) (portable : Value.fieldsPortable fields = true) :
    Within (· = .deepEncoding) (encodeFields bounds fields) bounds (Value.fieldsDepth fields) (writtenFields fields) := by
  cases fields with
  | nil => exact .flat bounds _
  | cons field rest =>
    obtain ⟨key, v⟩ := field
    simp only [Value.fieldsPortable, Bool.and_eq_true] at portable
    exact (encode_written bounds roomy v portable.1.2).bind _ ((encode_fields_written bounds roomy rest portable.2).map _)

end

-- The letters of a text that has bytes and holds no control characters.
def isVisible : Letter → Bool
  | .char c => 0x20 ≤ c.toNat
  | .half _ => false

theorem visible_chars (text : List Letter) (visible : text.all isVisible = true) :
    ∃ cs, text = letters cs ∧ ∀ c ∈ cs, 0x20 ≤ c.toNat := by
  induction text with
  | nil => exact ⟨[], rfl, by simp⟩
  | cons letter rest ih =>
    rw [List.all_cons, Bool.and_eq_true] at visible
    obtain ⟨cs, rfl, others⟩ := ih visible.2
    cases letter with
    | half unit => cases visible.1
    | char c => exact ⟨c :: cs, rfl, List.forall_mem_cons.mpr ⟨by simpa [isVisible] using visible.1, others⟩⟩

theorem whole_chars (text : List Letter) (whole : text.any Text.Utf8.isHalf = false) : ∃ cs, text = letters cs := by
  induction text with
  | nil => exact ⟨[], rfl⟩
  | cons letter rest ih =>
    rw [List.any_cons, Bool.or_eq_false_iff] at whole
    obtain ⟨cs, rfl⟩ := ih whole.2
    cases letter with
    | half unit => cases whole.1
    | char c => exact ⟨c :: cs, rfl⟩

theorem letters_visible (cs : List Char) (visible : ∀ c ∈ cs, 0x20 ≤ c.toNat) : (letters cs).all isVisible = true := by
  simpa [letters, isVisible] using visible

theorem short_escape_visible : ∀ pair ∈ shortEscapes, 0x20 ≤ pair.2.toNat := by decide

theorem code_escape_visible : ∀ code < 0x20, ('\\' :: 'u' :: Text.hex 4 code).all (0x20 ≤ ·.toNat) = true := by decide

theorem string_char_visible (c : Char) : (letters (stringChar c)).all isVisible = true := by
  apply letters_visible
  cases escape : escapeLetter? c with
  | some letter => simpa [stringChar, escape] using short_escape_visible (c, letter) (short_escape_listed c letter escape)
  | none =>
    by_cases control : c.toNat < 0x20
    · simpa [stringChar, escape, control, List.all_eq_true] using code_escape_visible c.toNat control
    · simpa [stringChar, escape, control] using Nat.not_lt.mp control

theorem control_no_scalar : ∀ code < 0x20, isScalarChar (Char.ofNat code) = false := by decide

theorem scalar_char_visible (c : Char) (scalar : isScalarChar c = true) : 0x20 ≤ c.toNat := by
  apply Nat.not_lt.mp
  intro control
  have none := control_no_scalar c.toNat control
  rw [Char.ofNat_toNat, scalar] at none
  cases none

theorem string_text_visible (cs : List Char) : (stringText (letters cs)).all isVisible = true := by
  have inner : ((letters cs).flatMap stringLetter).all isVisible = true := by
    induction cs with
    | nil => rfl
    | cons c rest ih =>
      have split : (letters (c :: rest)).flatMap stringLetter = letters (stringChar c) ++ (letters rest).flatMap stringLetter := rfl
      rw [split, List.all_append, string_char_visible, ih]
      rfl
  simp [stringText, inner, isVisible]

theorem bracketed_visible (start stop : Char) (parts : List (List Letter)) (first : 0x20 ≤ start.toNat) (last : 0x20 ≤ stop.toNat)
    (visible : (parts.all fun part => part.all isVisible) = true) : (bracketed start stop parts).all isVisible = true := by
  have inner : (Text.join (.char ',') parts).all isVisible = true := by
    induction parts using Text.join.induct with
    | case1 => rfl
    | case2 piece => simpa [Text.join] using visible
    | case3 piece next pieces ih =>
      rw [List.all_cons, Bool.and_eq_true] at visible
      rw [Text.join, List.all_append, List.all_cons, visible.1, ih visible.2]
      rfl
  simp [bracketed, inner, isVisible, first, last]

mutual

theorem written_visible (v : Value) (portable : v.portable = true) : (written v).all isVisible = true := by
  cases v with
  | null => decide
  | bool b => cases b <;> decide
  | int i => exact letters_visible _ fun c member => scalar_char_visible c (int_chars_scalars i c member)
  | float x => cases portable
  | text t =>
    obtain ⟨cs, rfl⟩ := whole_chars t (by simpa [Value.portable] using portable)
    exact string_text_visible cs
  | list items => exact bracketed_visible _ _ _ (by decide) (by decide) (written_items_visible items portable)
  | object fields =>
    rw [Value.portable, Bool.and_eq_true] at portable
    exact bracketed_visible _ _ _ (by decide) (by decide) (written_fields_visible fields portable.2)
  | function name kind => cases portable

theorem written_items_visible (items : List Value) (portable : Value.itemsPortable items = true) :
    ((writtenItems items).all fun part => part.all isVisible) = true := by
  cases items with
  | nil => rfl
  | cons v vs =>
    rw [Value.itemsPortable, Bool.and_eq_true] at portable
    rw [writtenItems, List.all_cons, written_visible v portable.1, written_items_visible vs portable.2]
    rfl

theorem written_fields_visible (fields : Fields) (portable : Value.fieldsPortable fields = true) :
    ((writtenFields fields).all fun part => part.all isVisible) = true := by
  cases fields with
  | nil => rfl
  | cons field rest =>
    obtain ⟨key, v⟩ := field
    simp only [Value.fieldsPortable, Bool.and_eq_true] at portable
    obtain ⟨cs, rfl⟩ := whole_chars key (by simpa using portable.1.1)
    rw [writtenFields, List.all_cons, List.all_append, List.all_cons, string_text_visible, written_visible v portable.1.2,
      written_fields_visible rest portable.2]
    rfl

end

end Json
end RestDispatch
