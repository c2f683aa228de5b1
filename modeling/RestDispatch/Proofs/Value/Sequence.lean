set_option autoImplicit false

/-!
Steps that may fail, one after the other. Main statement: they succeed together exactly if each does, on
what the one before it gave; otherwise they fail as the first of them does that fails.
-/
namespace RestDispatch

variable {ε α β : Type}

theorem bind_eq_ok (first : Except ε α) (next : α → Except ε β) (result : β) :
    (first >>= next) = .ok result ↔ ∃ given, first = .ok given ∧ next given = .ok result := by
  cases first <;> simp [Bind.bind, Except.bind]

theorem map_eq_ok (first : Except ε α) (next : α → β) (result : β) :
    first.map next = .ok result ↔ ∃ given, first = .ok given ∧ next given = result := by
  cases first <;> simp [Except.map]

theorem map_error_eq_ok {η : Type} (first : Except ε α) (change : ε → η) (result : α) :
    first.mapError change = .ok result ↔ first = .ok result := by
  cases first with
  | ok a => exact ⟨fun same => congrArg Except.ok (Except.ok.inj same), fun same => congrArg Except.ok (Except.ok.inj same)⟩
  | error e => exact iff_of_false (fun same => by cases same) fun same => by cases same

theorem bind_eq_error (first : Except ε α) (next : α → Except ε β) (e : ε) :
    (first >>= next) = .error e ↔ first = .error e ∨ ∃ given, first = .ok given ∧ next given = .error e := by
  cases first <;> simp [Bind.bind, Except.bind]

theorem map_bind {γ : Type} (first : Except ε α) (next : α → Except ε β) (change : β → γ) :
    (first >>= next).map change = first >>= fun given => (next given).map change := by
  cases first <;> rfl

-- Where a list with a first item can be parted: before that item, or where its rest can.
theorem parted_cons_iff (P : List α → α → Prop) (first : α) (rest : List α) :
    (∃ before a after, first :: rest = before ++ a :: after ∧ P before a) ↔
      P [] first ∨ ∃ before a after, rest = before ++ a :: after ∧ P (first :: before) a := by
  constructor
  · rintro ⟨before, a, after, parted, holds⟩
    cases before with
    | nil =>
      obtain ⟨rfl, rfl⟩ := List.cons.inj parted
      exact Or.inl holds
    | cons b others =>
      obtain ⟨rfl, rfl⟩ := List.cons.inj parted
      exact Or.inr ⟨others, a, after, rfl, holds⟩
  · rintro (here | ⟨before, a, after, rfl, later⟩)
    · exact ⟨[], first, rest, rfl, here⟩
    · exact ⟨first :: before, a, after, rfl, later⟩

-- A step for some of the items, in order. What stands behind the first failure is not looked at.
theorem for_each_eq_error (applies : α → Bool) (step : α → Except ε PUnit) (items : List α) (e : ε) :
    (items.filter applies).forM step = .error e ↔
      ∃ before a after, items = before ++ a :: after ∧ (∀ b ∈ before, applies b = true → step b = .ok ()) ∧ applies a = true ∧
        step a = .error e := by
  induction items with
  | nil => simp [pure, Except.pure]
  | cons first rest ih =>
    rw [parted_cons_iff fun before a => (∀ b ∈ before, applies b = true → step b = .ok ()) ∧ applies a = true ∧ step a = .error e]
    cases applied : applies first with
    | false => simpa [applied] using ih
    | true =>
      rw [List.filter_cons_of_pos applied]
      change (do step first; (rest.filter applies).forM step) = .error e ↔ _
      rw [bind_eq_error]
      cases taken : step first with
      | ok done => simpa [applied, taken] using ih
      | error failure => simp [applied, taken]

end RestDispatch
