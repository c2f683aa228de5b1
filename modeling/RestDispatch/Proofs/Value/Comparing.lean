import RestDispatch.Proofs.Value.Printing
import RestDispatch.Proofs.Value.Sequence

set_option autoImplicit false

/-!
Comparisons of values. Nothing, numbers and texts are compared without a look inside of anything. Main statement: a
comparison fails only where both values reach too deep, and a search for a value among others only where one of these does.
-/
namespace RestDispatch.Value

theorem same_scalar_null_iff (value : Value) : value.sameScalar .null = true ↔ value = .null := by
  cases value <;> simp [sameScalar, integer?]

theorem same_scalar_text_iff (value : Value) (t : List Letter) : value.sameScalar (.text t) = true ↔ value = .text t := by
  cases value <;> simp [sameScalar, integer?]

theorem text_same_scalar_iff (t : List Letter) (value : Value) : (Value.text t).sameScalar value = true ↔ value = .text t := by
  cases value <;> simp [sameScalar, integer?, eq_comm]

theorem same_null (value : Value) : value.same .null = .ok (value.sameScalar .null) := by
  cases value <;> rw [same, nestLimit, sameWithin] <;> simp

theorem same_text (value : Value) (t : List Letter) : value.same (.text t) = .ok (value.sameScalar (.text t)) := by
  cases value <;> rw [same, nestLimit, sameWithin] <;> simp

theorem text_same (t : List Letter) (value : Value) : (Value.text t).same value = .ok ((Value.text t).sameScalar value) := by
  cases value <;> rw [same, nestLimit, sameWithin] <;> simp

-- A value that has something inside of it in as many nests.
def Reaches (depth : Nat) (v : Value) : Prop := ∃ inner, Holds depth v inner

theorem reaches_zero (v : Value) : Reaches 0 v := ⟨v, .itself v⟩

theorem reaches_list (depth : Nat) (items : List Value) (deep : ∃ v ∈ items, Reaches depth v) : Reaches (depth + 1) (.list items) := by
  obtain ⟨v, member, inner, inside⟩ := deep
  exact ⟨inner, .item items v inner depth member inside⟩

theorem reaches_object (depth : Nat) (fields : Fields) (deep : ∃ field ∈ fields, Reaches depth field.2) :
    Reaches (depth + 1) (.object fields) := by
  obtain ⟨⟨key, v⟩, member, inner, inside⟩ := deep
  exact ⟨inner, .field fields key v inner depth member inside⟩

-- The fault of a comparison, and that both sides of it reach as deep as they may be followed.
structure TooDeep (fault : Fault) (left right : Prop) : Prop where
  named : fault = .deepComparison
  left : left
  right : right

theorem TooDeep.imp {fault : Fault} {left right left' right' : Prop} (deep : TooDeep fault left right) (first : left → left')
    (second : right → right') : TooDeep fault left' right' :=
  ⟨deep.named, first deep.left, second deep.right⟩

mutual

theorem same_within_fails (room : Nat) (a b : Value) (fault : Fault) (failed : sameWithin room a b = .error fault) :
    TooDeep fault (a.Reaches room) (b.Reaches room) := by
  cases room with
  | zero =>
    rw [sameWithin] at failed
    exact ⟨(Except.error.inj failed).symm, reaches_zero a, reaches_zero b⟩
  | succ room =>
    rw [sameWithin.eq_def] at failed
    split at failed
    case h_1 => contradiction
    case h_2 xs ys counted =>
      obtain rfl := Nat.succ.inj counted
      split at failed
      case isTrue => exact (same_items_fails room xs ys fault failed).imp (reaches_list room xs) (reaches_list room ys)
      case isFalse => cases failed
    case h_3 xs ys counted =>
      obtain rfl := Nat.succ.inj counted
      split at failed
      case isTrue => exact (same_fields_fails room xs ys fault failed).imp (reaches_object room xs) (reaches_object room ys)
      case isFalse => cases failed
    case h_4 => cases failed

theorem same_items_fails (room : Nat) (xs ys : List Value) (fault : Fault) (failed : sameItems room xs ys = .error fault) :
    TooDeep fault (∃ v ∈ xs, v.Reaches room) (∃ w ∈ ys, w.Reaches room) := by
  match xs, ys with
  | [], _ => simp [sameItems] at failed
  | _ :: _, [] => simp [sameItems] at failed
  | x :: xs, y :: ys =>
    rw [sameItems] at failed
    rcases (bind_eq_error _ _ _).mp failed with here | ⟨answered, _, later⟩
    · exact (same_within_fails room x y fault here).imp (fun deep => ⟨x, List.mem_cons_self, deep⟩) fun deep => ⟨y, List.mem_cons_self, deep⟩
    · split at later
      case isTrue =>
        exact (same_items_fails room xs ys fault later).imp (fun ⟨v, member, deep⟩ => ⟨v, List.mem_cons_of_mem x member, deep⟩)
          fun ⟨w, member, deep⟩ => ⟨w, List.mem_cons_of_mem y member, deep⟩
      case isFalse => cases later

theorem same_fields_fails (room : Nat) (xs ys : Fields) (fault : Fault) (failed : sameFields room xs ys = .error fault) :
    TooDeep fault (∃ field ∈ xs, field.2.Reaches room) (∃ field ∈ ys, field.2.Reaches room) := by
  match xs with
  | [] => simp [sameFields] at failed
  | (k, v) :: xs =>
    rw [sameFields] at failed
    split at failed
    case h_1 w found =>
      have member : (k, w) ∈ ys := by
        obtain ⟨before, after, rfl, _⟩ := List.lookup_eq_some_iff.mp found
        simp
      rcases (bind_eq_error _ _ _).mp failed with here | ⟨answered, _, later⟩
      · exact (same_within_fails room v w fault here).imp (fun deep => ⟨(k, v), List.mem_cons_self, deep⟩)
          fun deep => ⟨(k, w), member, deep⟩
      · split at later
        case isTrue =>
          exact (same_fields_fails room xs ys fault later).imp
            (fun ⟨field, member, deep⟩ => ⟨field, List.mem_cons_of_mem (k, v) member, deep⟩) id
        case isFalse => cases later
    case h_2 => cases failed

end

-- A value is among others exactly if one of them is the same, after comparisons with those before it, none of which failed.
theorem is_in_iff (value : Value) (items : List Value) :
    value.isIn items = .ok true ↔
      ∃ before item after, items = before ++ item :: after ∧ (∀ b ∈ before, b.same value = .ok false) ∧
        item.same value = .ok true := by
  induction items with
  | nil => simp [isIn]
  | cons first rest ih =>
    refine Iff.trans ?_ (parted_cons_iff (fun before item => (∀ b ∈ before, b.same value = .ok false) ∧ item.same value = .ok true) first rest).symm
    rw [isIn, bind_eq_ok]
    cases compared : first.same value with
    | error fault => simp [compared]
    | ok equal =>
      cases equal with
      | true => simp [compared]
      | false => simpa [compared] using ih

theorem is_in_fails (value : Value) (items : List Value) (fault : Fault) (failed : value.isIn items = .error fault) :
    TooDeep fault (∃ item ∈ items, item.Reaches nestLimit) (value.Reaches nestLimit) := by
  induction items with
  | nil => cases failed
  | cons first rest ih =>
    rw [isIn] at failed
    rcases (bind_eq_error _ _ _).mp failed with here | ⟨answered, _, later⟩
    · exact (same_within_fails nestLimit first value fault here).imp (fun deep => ⟨first, List.mem_cons_self, deep⟩) id
    · split at later
      case isTrue => cases later
      case isFalse => exact (ih later).imp (fun ⟨item, member, deep⟩ => ⟨item, List.mem_cons_of_mem first member, deep⟩) id

-- Nothing is looked for without a look inside of anything.
theorem null_in (items : List Value) : Value.null.isIn items = .ok (items.any fun item => item.sameScalar .null) := by
  induction items with
  | nil => rfl
  | cons first rest ih =>
    rw [isIn, same_null, List.any_cons]
    cases first.sameScalar .null with
    | true => rfl
    | false => exact ih

theorem null_in_iff (items : List Value) : Value.null.isIn items = .ok true ↔ .null ∈ items := by
  simp [null_in, same_scalar_null_iff]

end RestDispatch.Value
