import RestDispatch.Annotation.Shown
import RestDispatch.Proofs.Value.Printing

set_option autoImplicit false

/-!
Which things messages can show. A thing is shown by way of its parts, each of which takes a call, and some take more; among
the parts of containers and choices there are things that are known by their names. Main statement: a thing cannot be shown
exactly if an integer of more digits than the limit has to be shown for it, or anything that takes too many calls.
-/
namespace RestDispatch.Meaning

-- A way to tell of a part: as it is shown by itself, or by its name.
def Telling (tell : Except Fault String → Meaning → Except Fault String) (m : Meaning) : Prop :=
  (∀ shown, tell shown m = shown) ∨ ∃ name, ∀ shown, tell shown m = .ok name

theorem contained_telling (m : Meaning) : Telling containedAs m := by
  cases m <;> first | exact Or.inl fun _ => rfl | exact Or.inr ⟨_, fun _ => rfl⟩

theorem stroke_telling (m : Meaning) : Telling strokeAs m := by
  cases m <;> first | exact Or.inl fun _ => rfl | exact Or.inr ⟨_, fun _ => rfl⟩

theorem member_telling (m : Meaning) : Telling memberAs m := by
  cases m <;> first | exact Or.inl fun _ => rfl | exact Or.inr ⟨_, fun _ => rfl⟩

-- Whether a part is told of by its name, even where nothing can be shown.
def byName (tell : Except Fault String → Meaning → Except Fault String) (m : Meaning) : Bool := (tell (.error .deepOutput) m).isOk

-- What has to be shown for a thing to be shown.
def shownParts : Meaning → List Meaning
  | .tuple items => items
  | .list items => items
  | .set _ items => items
  | .dict entries => entries.flatMap fun (key, value) => [key, value]
  | .slice start stop step => [start, stop, step]
  | .record _ _ fields => fields.map Prod.snd
  | .fault _ arguments => arguments
  | .method self _ => [self]
  | .stream kind items _ => if isDictView kind then items else []
  | .container _ items => items.filter fun item => !byName containedAs item
  | .unpacked _ items => items.filter fun item => !byName containedAs item
  | .choice true members => members.filter fun item => !byName strokeAs item
  | .choice false members => members.filter fun item => !byName memberAs item
  | _ => []

-- How many calls stand between a thing and its parts.
def between : Meaning → Nat
  | .record _ _ _ => recordCalls
  | .choice false members => choiceCalls members
  | _ => 0

def integers : Meaning → List Int
  | .int n => [n]
  | .range start stop step => [start, stop, step]
  | _ => []

def Overlong (m : Meaning) : Prop := ∃ n ∈ m.integers, 10 ^ Decimal.digitLimit ≤ n.natAbs

-- What is shown for a thing, and after how many calls.
inductive Shown : Nat → Meaning → Meaning → Prop where
  | itself (m : Meaning) : Shown 0 m m
  | part (m part inner : Meaning) (calls : Nat) (member : part ∈ m.shownParts) (inside : Shown calls part inner) :
      Shown (calls + m.between + 1) m inner

-- A thing that cannot be shown where so many calls may lie inside of each other.
def HiddenWithin (room : Nat) (m : Meaning) : Prop := ∃ calls inner, Shown calls m inner ∧ (room ≤ calls ∨ inner.Overlong)

def Hidden (m : Meaning) : Prop := HiddenWithin Value.nestLimit m

theorem hidden_without_room (m : Meaning) : HiddenWithin 0 m := ⟨0, m, .itself m, Or.inl (Nat.le_refl 0)⟩

theorem hidden_iff (room : Nat) (m : Meaning) :
    HiddenWithin (room + 1) m ↔ m.Overlong ∨ ∃ part ∈ m.shownParts, HiddenWithin (room - m.between) part := by
  constructor
  · rintro ⟨_, inner, inside, reason⟩
    cases inside with
    | itself => exact Or.inl (reason.resolve_left (Nat.not_succ_le_zero room))
    | part _ part _ calls member inside => exact Or.inr ⟨part, member, calls, inner, inside, reason.imp_left fun deep => by omega⟩
  · rintro (long | ⟨part, member, calls, inner, inside, reason⟩)
    · exact ⟨0, m, .itself m, Or.inr long⟩
    · exact ⟨_, inner, .part m part inner calls member inside, reason.imp_left fun deep => by omega⟩

theorem shown_int_shows (n : Int) : Value.Shows (10 ^ Decimal.digitLimit ≤ n.natAbs) (shownInt n) := by
  have long := Value.int_text_eq_none_iff n
  rw [shownInt]
  cases text : Value.intText? n with
  | none => exact .failed _ (Or.inl rfl) (long.mp text)
  | some digits => exact .given _ fun overlong => by simp [long.mpr overlong] at text

-- A part is hidden if it is told of by what is shown of it, and that is.
theorem told_shows (tell : Except Fault String → Meaning → Except Fault String) (m : Meaning) (hidden : Prop)
    (shown : Except Fault String) (telling : Telling tell m) (shows : Value.Shows hidden shown) :
    Value.Shows (byName tell m = false ∧ hidden) (tell shown m) := by
  rcases telling with same | ⟨name, named⟩
  · rw [same]
    exact shows.of_iff (by simp [byName, same, Except.isOk, Except.toBool])
  · rw [named]
    exact .given name (by simp [byName, named, Except.isOk, Except.toBool])

theorem shown_parts_cons (tell : Except Fault String → Meaning → Except Fault String) (m : Meaning) (ms : List Meaning) (P : Meaning → Prop) :
    ((byName tell m = false ∧ P m) ∨ ∃ part ∈ ms.filter fun item => !byName tell item, P part) ↔
      ∃ part ∈ (m :: ms).filter fun item => !byName tell item, P part := by
  cases named : byName tell m <;> simp [named]

-- A thing without parts and integers is always shown.
theorem plain_shows (room : Nat) (m : Meaning) (label : String) (few : m.integers = []) (alone : m.shownParts = []) :
    Value.Shows (HiddenWithin (room + 1) m) (.ok label) := by
  refine .given label fun hidden => ?_
  rcases (hidden_iff room m).mp hidden with ⟨n, member, _⟩ | ⟨part, member, _⟩
  · exact absurd member (few ▸ List.not_mem_nil)
  · exact absurd member (alone ▸ List.not_mem_nil)

-- A thing that holds no integer itself is hidden by its parts only.
theorem parts_show {attempt : Except Fault String} (room : Nat) (m : Meaning) (few : m.integers = [])
    (shows : Value.Shows (∃ part ∈ m.shownParts, HiddenWithin (room - m.between) part) attempt) :
    Value.Shows (HiddenWithin (room + 1) m) attempt := by
  have short : ¬ m.Overlong := fun ⟨n, held, _⟩ => absurd held (few ▸ List.not_mem_nil)
  exact shows.of_iff ((hidden_iff room m).trans (or_iff_right short)).symm

mutual

theorem printed_within_shows (room : Nat) (m : Meaning) : Value.Shows (HiddenWithin room m) (printedWithin room m) := by
  cases room with
  | zero =>
    rw [printedWithin]
    exact .failed _ (Or.inr rfl) (hidden_without_room m)
  | succ room =>
    cases m with
    | int n =>
      rw [printedWithin]
      exact (shown_int_shows n).of_iff (by simp [hidden_iff, Overlong, integers, shownParts])
    | range start stop step =>
      rw [printedWithin]
      have each := (shown_int_shows start).bind fun first => (shown_int_shows stop).both (shown_int_shows step) fun second third =>
        enclosed "range(" ")" (if third = "1" then [first, second] else [first, second, third])
      exact each.of_iff (by simp [hidden_iff, Overlong, integers, shownParts])
    | slice start stop step =>
      rw [printedWithin]
      refine parts_show room _ rfl ?_
      have each := (printed_within_shows room start).bind fun first => (printed_within_shows room stop).both (printed_within_shows room step)
        fun second third => enclosed "slice(" ")" [first, second, third]
      exact each.of_iff (by simp [shownParts, between])
    | tuple items =>
      rw [printedWithin]
      exact parts_show room _ rfl ((printed_all_shows room items).map _)
    | list items =>
      rw [printedWithin]
      exact parts_show room _ rfl ((printed_all_shows room items).map _)
    | set fixed items =>
      rw [printedWithin]
      exact parts_show room _ rfl ((printed_all_shows room items).map _)
    | fault kind arguments =>
      rw [printedWithin]
      exact parts_show room _ rfl ((printed_all_shows room arguments).map _)
    | dict entries =>
      rw [printedWithin]
      exact parts_show room _ rfl ((printed_entries_shows room entries).map _)
    | record model given fields =>
      rw [printedWithin]
      exact parts_show room _ rfl ((printed_fields_shows (room - recordCalls) model fields).map _)
    | method self name =>
      rw [printedWithin]
      refine parts_show room _ rfl (((printed_within_shows room self).map _).of_iff ?_)
      simp [shownParts, between]
    | stream kind items failure =>
      rw [printedWithin]
      split
      case isTrue view =>
        refine parts_show room _ rfl (((printed_all_shows room items).map _).of_iff ?_)
        simp [shownParts, between, view]
      case isFalse other => exact plain_shows room _ _ rfl (by simp [shownParts, other])
    | container name items =>
      rw [printedWithin]
      exact parts_show room _ rfl ((contained_all_shows room items).map _)
    | unpacked name items =>
      rw [printedWithin]
      exact parts_show room _ rfl ((contained_all_shows room items).map _)
    | choice strokes members =>
      cases strokes with
      | true =>
        rw [printedWithin]
        exact parts_show room _ rfl ((alternatives_show room members).map _)
      | false =>
        rw [printedWithin]
        exact parts_show room _ rfl ((members_show (room - choiceCalls members) members).map _)
    | _ =>
      rw [printedWithin]
      exact plain_shows room _ _ rfl rfl

theorem printed_all_shows (room : Nat) (items : List Meaning) :
    Value.Shows (∃ item ∈ items, HiddenWithin room item) (printedAll room items) := by
  cases items with
  | nil =>
    rw [printedAll]
    exact .given _ fun ⟨_, listed, _⟩ => nomatch listed
  | cons m ms =>
    rw [printedAll]
    exact ((printed_within_shows room m).both (printed_all_shows room ms) _).of_iff (by simp only [List.mem_cons, exists_eq_or_imp])

theorem printed_entries_shows (room : Nat) (entries : List (Meaning × Meaning)) :
    Value.Shows (∃ part ∈ entries.flatMap fun (key, value) => [key, value], HiddenWithin room part) (printedEntries room entries) := by
  cases entries with
  | nil =>
    rw [printedEntries]
    exact .given _ fun ⟨_, listed, _⟩ => nomatch listed
  | cons entry rest =>
    obtain ⟨key, value⟩ := entry
    rw [printedEntries]
    have each := (printed_within_shows room key).bind fun name => (printed_within_shows room value).both (printed_entries_shows room rest)
      fun label labels => (name ++ ": " ++ label) :: labels
    exact each.of_iff (by simp only [List.flatMap_cons, List.mem_append, List.mem_cons, List.not_mem_nil, or_false, or_assoc, or_and_right,
      exists_or, exists_eq_left])

theorem printed_fields_shows (room : Nat) (model : Model) (fields : List (String × Meaning)) :
    Value.Shows (∃ part ∈ fields.map Prod.snd, HiddenWithin room part) (printedFields room model fields) := by
  cases fields with
  | nil =>
    rw [printedFields]
    exact .given _ fun ⟨_, listed, _⟩ => nomatch listed
  | cons field rest =>
    obtain ⟨name, value⟩ := field
    rw [printedFields]
    exact ((printed_within_shows room value).both (printed_fields_shows room model rest) _).of_iff
      (by simp only [List.map_cons, List.mem_cons, exists_eq_or_imp])

theorem contained_all_shows (room : Nat) (items : List Meaning) :
    Value.Shows (∃ part ∈ items.filter fun item => !byName containedAs item, HiddenWithin room part) (containedAll room items) := by
  cases items with
  | nil =>
    rw [containedAll]
    exact .given _ fun ⟨_, listed, _⟩ => nomatch listed
  | cons m ms =>
    rw [containedAll]
    have first := told_shows containedAs m _ _ (contained_telling m) (printed_within_shows room m)
    exact (first.both (contained_all_shows room ms) _).of_iff (shown_parts_cons _ m ms _)

theorem alternatives_show (room : Nat) (members : List Meaning) :
    Value.Shows (∃ part ∈ members.filter fun item => !byName strokeAs item, HiddenWithin room part) (alternatives room members) := by
  cases members with
  | nil =>
    rw [alternatives]
    exact .given _ fun ⟨_, listed, _⟩ => nomatch listed
  | cons m ms =>
    rw [alternatives]
    have first := told_shows strokeAs m _ _ (stroke_telling m) (printed_within_shows room m)
    exact (first.both (alternatives_show room ms) _).of_iff (shown_parts_cons _ m ms _)

theorem members_show (room : Nat) (members : List Meaning) :
    Value.Shows (∃ part ∈ members.filter fun item => !byName memberAs item, HiddenWithin room part) (membersOf room members) := by
  cases members with
  | nil =>
    rw [membersOf]
    exact .given _ fun ⟨_, listed, _⟩ => nomatch listed
  | cons m ms =>
    rw [membersOf]
    have first := told_shows memberAs m _ _ (member_telling m) (printed_within_shows room m)
    exact (first.both (members_show room ms) _).of_iff (shown_parts_cons _ m ms _)

end

theorem printed_shows (m : Meaning) : Value.Shows m.Hidden m.printed := printed_within_shows Value.nestLimit m

-- The label of a class is its name, which is never hidden.
theorem label_shows (m : Meaning) : Value.Shows m.Hidden m.label := by
  cases m with
  | model m => exact plain_shows _ _ _ rfl rfl
  | cls path => exact plain_shows _ _ _ rfl rfl
  | _ => exact printed_shows _

end RestDispatch.Meaning
