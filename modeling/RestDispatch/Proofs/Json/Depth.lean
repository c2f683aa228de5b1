import RestDispatch.Json.Encode
import RestDispatch.Proofs.Value.Sequence

set_option autoImplicit false

/-!
How deep values are nested, and which bounds of readers and writers admit that. Main statement: what reads or writes a nest
comes to its result exactly as deep as the bounds admit, if what lies in the nest does inside of it.
-/
namespace RestDispatch

namespace Value

-- How deep the lists and objects of a value lie inside each other.
mutual

def depth : Value → Nat
  | .list items => itemsDepth items + 1
  | .object fields => fieldsDepth fields + 1
  | _ => 0

def itemsDepth : List Value → Nat
  | [] => 0
  | v :: vs => max (depth v) (itemsDepth vs)

def fieldsDepth : Fields → Nat
  | [] => 0
  | (_, v) :: fs => max (depth v) (fieldsDepth fs)

end

end Value

namespace Json

namespace Bounds

def Admits (bounds : Bounds) (depth : Nat) : Prop := ∀ limit, bounds.depth = some limit → depth ≤ limit

-- The bounds without that of the depth.
def bottomless (bounds : Bounds) : Bounds := { bounds with depth := none }

theorem admits_bottomless (bounds : Bounds) (depth : Nat) : bounds.bottomless.Admits depth := fun _ none => nomatch none

theorem admits_zero (bounds : Bounds) : bounds.Admits 0 := fun limit _ => Nat.zero_le limit

theorem admits_body_iff (depth : Nat) : ofBody.Admits depth ↔ depth ≤ Value.nestLimit := by
  simp [Admits, ofBody]

theorem admits_max (bounds : Bounds) (a b : Nat) : bounds.Admits (max a b) ↔ bounds.Admits a ∧ bounds.Admits b := by
  constructor
  · exact fun both => ⟨fun limit here => Nat.le_trans (Nat.le_max_left a b) (both limit here),
      fun limit here => Nat.le_trans (Nat.le_max_right a b) (both limit here)⟩
  · exact fun ⟨first, second⟩ limit here => Nat.max_le.mpr ⟨first limit here, second limit here⟩

theorem not_admits_exhausted (bounds : Bounds) (depth : Nat) (exhausted : bounds.exhausted = true) : ¬ bounds.Admits (depth + 1) := by
  intro admits
  have none : bounds.depth = some 0 := by simpa [Bounds.exhausted] using exhausted
  exact absurd (admits 0 none) (Nat.not_succ_le_zero depth)

theorem admits_inside (bounds : Bounds) (depth : Nat) (room : bounds.exhausted = false) :
    bounds.inside.Admits depth ↔ bounds.Admits (depth + 1) := by
  cases limited : bounds.depth with
  | none => simp [Admits, inside, limited]
  | some limit =>
    have positive : limit ≠ 0 := by simpa [exhausted, limited] using room
    simp only [Admits, inside, limited, Option.map_some, Option.some.injEq, forall_eq']
    omega

end Bounds

-- What reads or writes something of a given depth comes to its result if the bounds admit that, else to an error of a kind.
structure Within {ε α : Type} (refused : ε → Prop) (result : Except ε α) (bounds : Bounds) (depth : Nat) (a : α) : Prop where
  admitted : bounds.Admits depth → result = .ok a
  tooDeep : ¬ bounds.Admits depth → ∃ e, result = .error e ∧ refused e

namespace Within

variable {ε α β : Type} {refused : ε → Prop} {bounds : Bounds}

theorem flat (bounds : Bounds) (a : α) : Within refused (.ok a) bounds 0 a :=
  ⟨fun _ => rfl, fun deep => absurd bounds.admits_zero deep⟩

theorem map {result : Except ε α} {depth : Nat} {a : α} (within : Within refused result bounds depth a) (f : α → β) :
    Within refused (result.map f) bounds depth (f a) := by
  constructor
  · intro admits
    rw [within.admitted admits]
    rfl
  · intro deep
    obtain ⟨e, stopped, reason⟩ := within.tooDeep deep
    exact ⟨e, by rw [stopped]; rfl, reason⟩

theorem bind {result : Except ε α} {depth other : Nat} {a : α} {b : β} (within : Within refused result bounds depth a)
    (next : α → Except ε β) (later : Within refused (next a) bounds other b) :
    Within refused (result >>= next) bounds (max depth other) b := by
  by_cases first : bounds.Admits depth
  · rw [within.admitted first]
    constructor
    · exact fun admits => later.admitted ((bounds.admits_max depth other).mp admits).2
    · exact fun deep => later.tooDeep fun admits => deep ((bounds.admits_max depth other).mpr ⟨first, admits⟩)
  · obtain ⟨e, stopped, reason⟩ := within.tooDeep first
    rw [stopped]
    exact ⟨fun admits => absurd ((bounds.admits_max depth other).mp admits).1 first, fun _ => ⟨e, rfl, reason⟩⟩

-- A nest is one deeper than what stands in it.
theorem nested {result : Except ε α} {depth : Nat} {a : α} (e : ε) (reason : refused e)
    (within : Within refused result bounds.inside depth a) :
    Within refused (if bounds.exhausted then .error e else result) bounds (depth + 1) a := by
  cases room : bounds.exhausted with
  | true => exact ⟨fun admits => absurd admits (bounds.not_admits_exhausted depth room), fun _ => ⟨e, rfl, reason⟩⟩
  | false =>
    constructor
    · exact fun admits => within.admitted ((bounds.admits_inside depth room).mpr admits)
    · exact fun deep => within.tooDeep fun admits => deep ((bounds.admits_inside depth room).mp admits)

theorem eq_of_ok {result : Except ε α} {depth : Nat} {a b : α} (within : Within refused result bounds depth a) (success : result = .ok b) :
    a = b := by
  by_cases admits : bounds.Admits depth
  · exact Except.ok.inj ((within.admitted admits).symm.trans success)
  · obtain ⟨e, stopped, _⟩ := within.tooDeep admits
    rw [stopped] at success
    cases success

end Within

theorem nested_ok_iff (bounds : Bounds) (start stop : Char) (inner : Except Fault (List (List Letter))) (text : List Letter) :
    nested bounds start stop inner = .ok text ↔
      bounds.exhausted = false ∧ ∃ texts, inner = .ok texts ∧ bracketed start stop texts = text := by
  rw [nested]
  cases bounds.exhausted with
  | true => simp
  | false => simp [map_eq_ok]

end Json
end RestDispatch
