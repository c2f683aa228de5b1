import RestDispatch.Value.Printed
import Mathlib.Algebra.Group.Nat.Defs

set_option autoImplicit false

/-!
Which values messages can show. Main statement: a value cannot be shown exactly if it is or holds, however deep, an integer
of more digits than the limit, or holds anything that lies too deep.
-/
namespace RestDispatch.Value

-- What lies inside a value, and in how many nests. The keys of objects are texts.
inductive Holds : Nat → Value → Value → Prop where
  | itself (v : Value) : Holds 0 v v
  | item (items : List Value) (v inner : Value) (depth : Nat) (member : v ∈ items) (inside : Holds depth v inner) :
      Holds (depth + 1) (.list items) inner
  | field (fields : Fields) (key : List Letter) (v inner : Value) (depth : Nat) (member : (key, v) ∈ fields)
      (inside : Holds depth v inner) : Holds (depth + 1) (.object fields) inner

-- An integer that has more digits than any that is shown.
def Overlong (v : Value) : Prop := ∃ i, v = .int i ∧ 10 ^ Decimal.digitLimit ≤ i.natAbs

-- A value that cannot be shown where so many nests may lie inside each other.
def HiddenWithin (room : Nat) (v : Value) : Prop := ∃ depth inner, Holds depth v inner ∧ (room ≤ depth ∨ inner.Overlong)

def Hidden (v : Value) : Prop := HiddenWithin nestLimit v

theorem hidden_without_room (v : Value) : HiddenWithin 0 v := ⟨0, v, .itself v, Or.inl (Nat.le_refl 0)⟩

theorem hidden_list_iff (room : Nat) (items : List Value) :
    HiddenWithin (room + 1) (.list items) ↔ ∃ v ∈ items, HiddenWithin room v := by
  constructor
  · rintro ⟨_, inner, inside, reason⟩
    cases inside with
    | itself =>
      rcases reason with deep | ⟨i, none, _⟩
      · exact absurd deep (Nat.not_succ_le_zero room)
      · cases none
    | item _ v _ depth member inside => exact ⟨v, member, depth, inner, inside, reason.imp_left Nat.le_of_succ_le_succ⟩
  · rintro ⟨v, member, depth, inner, inside, reason⟩
    exact ⟨depth + 1, inner, .item items v inner depth member inside, reason.imp_left Nat.succ_le_succ⟩

theorem hidden_object_iff (room : Nat) (fields : Fields) :
    HiddenWithin (room + 1) (.object fields) ↔ ∃ field ∈ fields, HiddenWithin room field.2 := by
  constructor
  · rintro ⟨_, inner, inside, reason⟩
    cases inside with
    | itself =>
      rcases reason with deep | ⟨i, none, _⟩
      · exact absurd deep (Nat.not_succ_le_zero room)
      · cases none
    | field _ key v _ depth member inside => exact ⟨(key, v), member, depth, inner, inside, reason.imp_left Nat.le_of_succ_le_succ⟩
  · rintro ⟨⟨key, v⟩, member, depth, inner, inside, reason⟩
    exact ⟨depth + 1, inner, .field fields key v inner depth member inside, reason.imp_left Nat.succ_le_succ⟩

-- A value that holds no others is hidden by its own digits only.
theorem hidden_alone_iff (room : Nat) (v : Value) (alone : ∀ depth inner, Holds depth v inner → inner = v ∧ depth = 0) :
    HiddenWithin (room + 1) v ↔ v.Overlong := by
  constructor
  · rintro ⟨depth, inner, inside, reason⟩
    obtain ⟨rfl, rfl⟩ := alone depth inner inside
    exact reason.resolve_left (Nat.not_succ_le_zero room)
  · exact fun long => ⟨0, v, .itself v, Or.inr long⟩

theorem int_text_eq_none_iff (i : Int) : intText? i = none ↔ 10 ^ Decimal.digitLimit ≤ i.natAbs := by
  have short := Nat.length_toDigits_le_iff (b := 10) (n := i.natAbs) (k := Decimal.digitLimit) (by decide) (by decide)
  rw [intText?, ← Nat.not_lt, ← short]
  simp

-- An attempt to show something gives it, or fails for one of two reasons, exactly if something is hidden.
inductive Shows {α : Type} (hidden : Prop) : Except Fault α → Prop where
  | given (shown : α) (visible : ¬ hidden) : Shows hidden (.ok shown)
  | failed (fault : Fault) (reason : fault = .overlongOutput ∨ fault = .deepOutput) (met : hidden) : Shows hidden (.error fault)

section
variable {α β γ : Type} {hidden others : Prop}

theorem Shows.of_iff {attempt : Except Fault α} (shows : Shows hidden attempt) (same : hidden ↔ others) : Shows others attempt :=
  propext same ▸ shows

theorem Shows.map {attempt : Except Fault α} (shows : Shows hidden attempt) (change : α → β) : Shows hidden (attempt.map change) := by
  cases shows with
  | given shown visible => exact .given _ visible
  | failed fault reason met => exact .failed fault reason met

theorem Shows.bind {attempt : Except Fault α} {next : α → Except Fault β} (here : Shows hidden attempt) (there : ∀ a, Shows others (next a)) :
    Shows (hidden ∨ others) (attempt >>= next) := by
  cases here with
  | failed fault reason met => exact .failed fault reason (Or.inl met)
  | given shown visible =>
    have later := there shown
    change Shows (hidden ∨ others) (next shown)
    generalize next shown = second at later
    cases later with
    | failed fault reason met => exact .failed fault reason (Or.inr met)
    | given other also => exact .given other (not_or.mpr ⟨visible, also⟩)

theorem Shows.both {first : Except Fault α} {second : Except Fault β} (here : Shows hidden first) (there : Shows others second)
    (change : α → β → γ) : Shows (hidden ∨ others) (first >>= fun a => second >>= fun b => .ok (change a b)) :=
  here.bind fun a => there.map (change a)

theorem Shows.hidden_iff {attempt : Except Fault α} (shows : Shows hidden attempt) : hidden ↔ ∃ fault, attempt = .error fault := by
  cases shows with
  | given shown visible => simp [visible]
  | failed fault reason met => simp [met]

theorem Shows.named {attempt : Except Fault α} (shows : Shows hidden attempt) (fault : Fault) (failed : attempt = .error fault) :
    fault = .overlongOutput ∨ fault = .deepOutput := by
  cases shows with
  | given shown visible => cases failed
  | failed other reason met => exact Except.error.inj failed ▸ reason

end

mutual

theorem printed_within_shows (room : Nat) (v : Value) : Shows (HiddenWithin room v) (printedWithin room v) := by
  cases room with
  | zero =>
    rw [printedWithin]
    exact .failed _ (Or.inr rfl) (hidden_without_room v)
  | succ room =>
    cases v with
    | int i =>
      have alone := hidden_alone_iff room (.int i) fun depth inner inside => by cases inside; exact ⟨rfl, rfl⟩
      have long : (Value.int i).Overlong ↔ intText? i = none := by
        rw [int_text_eq_none_iff]
        exact ⟨fun ⟨_, same, long⟩ => Value.int.inj same ▸ long, fun long => ⟨i, rfl, long⟩⟩
      rw [printedWithin]
      refine Shows.of_iff ?_ (alone.trans long).symm
      cases intText? i with
      | none => exact .failed _ (Or.inl rfl) rfl
      | some digits => exact .given _ (fun none => nomatch none)
    | list items =>
      rw [printedWithin]
      exact ((printed_items_shows room items).map _).of_iff (hidden_list_iff room items).symm
    | object fields =>
      rw [printedWithin]
      exact ((printed_fields_shows room fields).map _).of_iff (hidden_object_iff room fields).symm
    | _ =>
      rw [printedWithin]
      refine .given _ fun hidden => ?_
      have alone := (hidden_alone_iff room _ fun depth inner inside => by cases inside; exact ⟨rfl, rfl⟩).mp hidden
      obtain ⟨_, none, _⟩ := alone
      cases none

theorem printed_items_shows (room : Nat) (items : List Value) :
    Shows (∃ v ∈ items, HiddenWithin room v) (printedItems room items) := by
  cases items with
  | nil =>
    rw [printedItems]
    exact .given _ fun ⟨_, member, _⟩ => nomatch member
  | cons v vs =>
    rw [printedItems]
    exact ((printed_within_shows room v).both (printed_items_shows room vs) _).of_iff (by simp only [List.mem_cons, exists_eq_or_imp])

theorem printed_fields_shows (room : Nat) (fields : Fields) :
    Shows (∃ field ∈ fields, HiddenWithin room field.2) (printedFields room fields) := by
  cases fields with
  | nil =>
    rw [printedFields]
    exact .given _ fun ⟨_, member, _⟩ => nomatch member
  | cons field fs =>
    obtain ⟨k, v⟩ := field
    rw [printedFields]
    exact ((printed_within_shows room v).both (printed_fields_shows room fs) _).of_iff (by simp only [List.mem_cons, exists_eq_or_imp])

end

theorem printed_shows (v : Value) : Shows v.Hidden v.printed := printed_within_shows nestLimit v

end RestDispatch.Value
