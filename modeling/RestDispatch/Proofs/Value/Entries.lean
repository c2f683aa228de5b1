import RestDispatch.Value.Basic

set_option autoImplicit false

/-!
Tables of entries by keys. Main statements: putting a value changes what is found under its key and
under no other, and keeps the keys different from each other; of several values put under one key the
last is found, and the table grows by one place for each of them exactly if their keys differ.
-/
namespace RestDispatch

variable {κ α : Type} [DecidableEq κ]

theorem lookup_cons_other (table : List (κ × α)) (key query : κ) (value : α) (other : query ≠ key) :
    ((key, value) :: table).lookup query = table.lookup query := by
  have test : (query == key) = false := by simpa using other
  rw [List.lookup_cons, test]

theorem lookup_put (table : List (κ × α)) (key query : κ) (value : α) :
    (put key value table).lookup query = if query = key then some value else table.lookup query := by
  induction table with
  | nil =>
    by_cases hit : query = key
    · simp [put, hit]
    · simp only [put, lookup_cons_other [] key query value hit, if_neg hit]
  | cons entry rest ih =>
    obtain ⟨k, v⟩ := entry
    by_cases same : k = key
    · subst same
      by_cases hit : query = k
      · simp [put, hit]
      · simp only [put, if_true, lookup_cons_other rest k query _ hit, if_neg hit]
    · rw [put, if_neg same]
      by_cases here : query = k
      · simp [here, same]
      · rw [lookup_cons_other _ k query v here, lookup_cons_other rest k query v here, ih]

theorem mem_of_mem_put (table : List (κ × α)) (key : κ) (value : α) (entry : κ × α)
    (member : entry ∈ put key value table) : entry = (key, value) ∨ entry ∈ table := by
  induction table with
  | nil => exact Or.inl (List.mem_singleton.mp member)
  | cons first rest ih =>
    obtain ⟨k, v⟩ := first
    by_cases same : k = key
    · rw [put, if_pos same] at member
      rcases List.mem_cons.mp member with rfl | later
      · exact Or.inl (by rw [same])
      · exact Or.inr (List.mem_cons_of_mem _ later)
    · rw [put, if_neg same] at member
      rcases List.mem_cons.mp member with rfl | later
      · exact Or.inr List.mem_cons_self
      · exact (ih later).imp id (List.mem_cons_of_mem _)

theorem mem_keys_put (table : List (κ × α)) (key query : κ) (value : α) :
    query ∈ (put key value table).map Prod.fst ↔ query = key ∨ query ∈ table.map Prod.fst := by
  induction table with
  | nil => simp [put]
  | cons first rest ih =>
    obtain ⟨k, v⟩ := first
    by_cases same : k = key
    · simp [put, same]
    · rw [put, if_neg same, List.map_cons, List.mem_cons, ih, List.map_cons, List.mem_cons]
      exact or_left_comm

theorem keys_put_nodup (table : List (κ × α)) (key : κ) (value : α) (distinct : (table.map Prod.fst).Nodup) :
    ((put key value table).map Prod.fst).Nodup := by
  induction table with
  | nil => simp [put]
  | cons first rest ih =>
    obtain ⟨k, v⟩ := first
    obtain ⟨fresh, others⟩ := List.nodup_cons.mp distinct
    by_cases same : k = key
    · simpa [put, same] using distinct
    · rw [put, if_neg same, List.map_cons]
      refine List.nodup_cons.mpr ⟨fun member => ?_, ih others⟩
      rcases (mem_keys_put rest key k value).mp member with equal | later
      · exact same equal
      · exact fresh later

theorem mem_of_lookup (table : List (κ × α)) (key : κ) (value : α) (found : table.lookup key = some value) :
    (key, value) ∈ table := by
  induction table with
  | nil => cases found
  | cons first rest ih =>
    obtain ⟨k, v⟩ := first
    by_cases same : key = k
    · subst same
      simp only [List.lookup_cons_self, Option.some.injEq] at found
      exact found ▸ List.mem_cons_self
    · rw [lookup_cons_other rest k key v same] at found
      exact List.mem_cons_of_mem _ (ih found)

theorem lookup_eq_none_iff (table : List (κ × α)) (key : κ) : table.lookup key = none ↔ key ∉ table.map Prod.fst := by
  induction table with
  | nil => simp
  | cons first rest ih =>
    obtain ⟨k, v⟩ := first
    by_cases same : key = k
    · simp [same]
    · rw [lookup_cons_other rest k key v same, ih, List.map_cons, List.mem_cons, not_or]
      exact ⟨fun absent => ⟨same, absent⟩, And.right⟩

theorem lookup_of_mem (table : List (κ × α)) (key : κ) (value : α) (distinct : (table.map Prod.fst).Nodup)
    (member : (key, value) ∈ table) : table.lookup key = some value := by
  induction table with
  | nil => cases member
  | cons first rest ih =>
    obtain ⟨k, v⟩ := first
    obtain ⟨fresh, others⟩ := List.nodup_cons.mp distinct
    rcases List.mem_cons.mp member with same | later
    · obtain ⟨rfl, rfl⟩ := Prod.mk.inj same
      exact List.lookup_cons_self
    · have different : key ≠ k := by
        rintro rfl
        exact fresh (List.mem_map.mpr ⟨(key, value), later, rfl⟩)
      rw [lookup_cons_other rest k key v different]
      exact ih others later

theorem lookup_is_some_iff (table : List (κ × α)) (key : κ) :
    (table.lookup key).isSome = true ↔ key ∈ table.map Prod.fst := by
  rw [← Option.ne_none_iff_isSome, ne_eq, lookup_eq_none_iff, Decidable.not_not]

theorem mem_iff_lookup (table : List (κ × α)) (key : κ) (value : α) (distinct : (table.map Prod.fst).Nodup) :
    (key, value) ∈ table ↔ table.lookup key = some value :=
  ⟨lookup_of_mem table key value distinct, mem_of_lookup table key value⟩

-- What is found does not depend on the order of different keys.
theorem lookup_perm (left right : List (κ × α)) (key : κ) (permuted : left.Perm right) (distinct : (left.map Prod.fst).Nodup) :
    left.lookup key = right.lookup key := by
  have distinctRight : (right.map Prod.fst).Nodup := (permuted.map Prod.fst).nodup_iff.mp distinct
  apply Option.ext
  intro value
  rw [← mem_iff_lookup left key value distinct, ← mem_iff_lookup right key value distinctRight, permuted.mem_iff]

theorem lookup_map_values {β : Type} (table : List (κ × α)) (change : α → β) (key : κ) :
    (table.map fun (k, v) => (k, change v)).lookup key = (table.lookup key).map change := by
  induction table with
  | nil => rfl
  | cons first rest ih =>
    obtain ⟨k, v⟩ := first
    by_cases same : key = k
    · simp [same]
    · rw [List.map_cons, lookup_cons_other _ k key (change v) same, ih, lookup_cons_other rest k key v same]

omit [DecidableEq κ] in
theorem keys_map_values {β : Type} (table : List (κ × α)) (change : α → β) :
    (table.map fun (k, v) => (k, change v)).map Prod.fst = table.map Prod.fst := by
  rw [List.map_map]
  rfl

theorem lookup_restricted (table : List (κ × α)) (keys : List κ) (key : κ) :
    (keys.filterMap fun k => (table.lookup k).map fun v => (k, v)).lookup key = if key ∈ keys then table.lookup key else none := by
  induction keys with
  | nil => rfl
  | cons first rest ih =>
    by_cases same : key = first
    · subst same
      cases held : table.lookup key with
      | none => simp [held, ih]
      | some v => simp [held]
    · have listed : key ∈ first :: rest ↔ key ∈ rest := by simp [same]
      simp only [listed, ← ih]
      cases held : table.lookup first with
      | none => simp [held]
      | some v => simp [held, lookup_cons_other _ first key v same]

omit [DecidableEq κ] in
-- Members that are listed by their keys, some of them left out.
theorem keys_filter_map_sublist {μ : Type} (members : List μ) (key : μ → κ) (value : μ → Option α) :
    ((members.filterMap fun member => (value member).map fun v => (key member, v)).map Prod.fst).Sublist (members.map key) := by
  induction members with
  | nil => exact .slnil
  | cons first rest ih =>
    cases given : value first with
    | none => simpa [given] using ih.cons (key first)
    | some v => simpa [given] using ih

-- Values that are changed, or left out, under the keys that they have.
theorem lookup_filter_map {β : Type} (table : List (κ × α)) (change : α → Option β) (key : κ) (distinct : (table.map Prod.fst).Nodup) :
    (table.filterMap fun entry => (change entry.2).map fun v => (entry.1, v)).lookup key = (table.lookup key).bind change := by
  induction table with
  | nil => rfl
  | cons first rest ih =>
    obtain ⟨k, v⟩ := first
    obtain ⟨fresh, others⟩ := List.nodup_cons.mp distinct
    by_cases same : key = k
    · subst same
      have absent : rest.lookup key = none := (lookup_eq_none_iff rest key).mpr fresh
      cases changed : change v with
      | none => simp [changed, ih others, absent]
      | some w => simp [changed]
    · rw [lookup_cons_other rest k key v same, ← ih others]
      cases changed : change v with
      | none => simp [changed]
      | some w => simp [changed, lookup_cons_other _ k key w same]

theorem lookup_filter_keys (table : List (κ × α)) (chosen : κ → Bool) (key : κ) :
    (table.filter fun entry => chosen entry.1).lookup key = if chosen key then table.lookup key else none := by
  induction table with
  | nil => simp
  | cons first rest ih =>
    obtain ⟨k, v⟩ := first
    by_cases same : key = k
    · subst same
      cases held : chosen key <;> simp [held, ih]
    · rw [lookup_cons_other rest k key v same, ← ih]
      cases held : chosen k with
      | false => simp [held]
      | true => simp [held, lookup_cons_other _ k key v same]

theorem mem_keys_restricted (table : List (κ × α)) (keys : List κ) (key : κ) :
    key ∈ (keys.filterMap fun k => (table.lookup k).map fun v => (k, v)).map Prod.fst ↔
      key ∈ keys ∧ key ∈ table.map Prod.fst := by
  rw [← lookup_is_some_iff, lookup_restricted, ← lookup_is_some_iff]
  by_cases listed : key ∈ keys <;> simp [listed]

theorem put_fresh (table : List (κ × α)) (key : κ) (value : α) (fresh : key ∉ table.map Prod.fst) :
    put key value table = table ++ [(key, value)] := by
  induction table with
  | nil => rfl
  | cons first rest ih =>
    obtain ⟨k, v⟩ := first
    simp only [List.map_cons, List.mem_cons, not_or] at fresh
    rw [put, if_neg (Ne.symm fresh.1), ih fresh.2, List.cons_append]

theorem length_put_known (table : List (κ × α)) (key : κ) (value : α) (known : key ∈ table.map Prod.fst) :
    (put key value table).length = table.length := by
  induction table with
  | nil => cases known
  | cons first rest ih =>
    obtain ⟨k, v⟩ := first
    by_cases same : k = key
    · rw [put, if_pos same]
      rfl
    · have later : key ∈ rest.map Prod.fst := (List.mem_cons.mp known).resolve_left (Ne.symm same)
      rw [put, if_neg same, List.length_cons, List.length_cons, ih later]

theorem put_all_cons (table entries : List (κ × α)) (key : κ) (value : α) :
    putAll table ((key, value) :: entries) = putAll (put key value table) entries := rfl

theorem put_all_fresh (table entries : List (κ × α)) (distinct : (entries.map Prod.fst).Nodup)
    (apart : ∀ key ∈ entries.map Prod.fst, key ∉ table.map Prod.fst) : putAll table entries = table ++ entries := by
  induction entries generalizing table with
  | nil => exact (List.append_nil table).symm
  | cons first rest ih =>
    obtain ⟨k, v⟩ := first
    obtain ⟨unmet, others⟩ := List.nodup_cons.mp distinct
    obtain ⟨fresh, later⟩ := List.forall_mem_cons.mp apart
    have still : ∀ key ∈ rest.map Prod.fst, key ∉ (table ++ [(k, v)]).map Prod.fst := by
      intro key member
      rw [List.map_append, List.mem_append, not_or]
      exact ⟨later key member, fun same => unmet (List.mem_singleton.mp same ▸ member)⟩
    rw [put_all_cons, put_fresh table k v fresh, ih _ others still, List.append_assoc]
    rfl

theorem mem_keys_put_all (table entries : List (κ × α)) (query : κ) :
    query ∈ (putAll table entries).map Prod.fst ↔ query ∈ table.map Prod.fst ∨ query ∈ entries.map Prod.fst := by
  induction entries generalizing table with
  | nil => simp [putAll]
  | cons first rest ih =>
    obtain ⟨k, v⟩ := first
    rw [put_all_cons, ih, mem_keys_put, List.map_cons, List.mem_cons]
    exact or_right_comm.trans or_comm |>.trans (by rw [or_left_comm])

theorem keys_put_all_nodup (table entries : List (κ × α)) (distinct : (table.map Prod.fst).Nodup) :
    ((putAll table entries).map Prod.fst).Nodup := by
  induction entries generalizing table with
  | nil => exact distinct
  | cons first rest ih => exact ih _ (keys_put_nodup table first.1 first.2 distinct)

theorem length_put_all_le (table entries : List (κ × α)) : (putAll table entries).length ≤ table.length + entries.length := by
  induction entries generalizing table with
  | nil => exact Nat.le_refl _
  | cons first rest ih =>
    obtain ⟨k, v⟩ := first
    have later := ih (put k v table)
    have here : (put k v table).length ≤ table.length + 1 := by
      by_cases known : k ∈ table.map Prod.fst
      · exact Nat.le_succ_of_le (Nat.le_of_eq (length_put_known table k v known))
      · exact Nat.le_of_eq (by rw [put_fresh table k v known, List.length_append, List.length_singleton])
    rw [put_all_cons, List.length_cons]
    omega

-- Every entry has a place of its own exactly if no key is met twice.
theorem length_put_all_iff (table entries : List (κ × α)) :
    (putAll table entries).length = table.length + entries.length ↔
      (entries.map Prod.fst).Nodup ∧ ∀ key ∈ entries.map Prod.fst, key ∉ table.map Prod.fst := by
  induction entries generalizing table with
  | nil => simp [putAll]
  | cons first rest ih =>
    obtain ⟨k, v⟩ := first
    rw [put_all_cons, List.map_cons, List.nodup_cons, List.length_cons]
    by_cases known : k ∈ table.map Prod.fst
    · have bound := length_put_all_le (put k v table) rest
      rw [length_put_known table k v known] at bound
      refine ⟨fun full => by omega, fun apart => ?_⟩
      exact absurd known (apart.2 k List.mem_cons_self)
    · have longer : (put k v table).length = table.length + 1 := by
        rw [put_fresh table k v known, List.length_append, List.length_singleton]
      have same : table.length + (rest.length + 1) = (put k v table).length + rest.length := by omega
      rw [same, ih]
      constructor
      · rintro ⟨distinct, apart⟩
        refine ⟨⟨fun again => apart k again ((mem_keys_put table k k v).mpr (Or.inl rfl)), distinct⟩, fun key member => ?_⟩
        rcases List.mem_cons.mp member with rfl | later
        · exact known
        · exact fun old => apart key later ((mem_keys_put table k key v).mpr (Or.inr old))
      · rintro ⟨⟨unmet, distinct⟩, apart⟩
        refine ⟨distinct, fun key member old => ?_⟩
        rcases (mem_keys_put table k key v).mp old with rfl | before
        · exact unmet member
        · exact apart key (List.mem_cons_of_mem k member) before

theorem filter_put (table : List (κ × α)) (key : κ) (value : α) (chosen : κ → Bool) :
    (put key value table).filter (fun entry => chosen entry.1) =
      if chosen key then put key value (table.filter fun entry => chosen entry.1) else table.filter fun entry => chosen entry.1 := by
  induction table with
  | nil => simp only [put, List.filter_cons, List.filter_nil]
  | cons first rest ih =>
    obtain ⟨k, v⟩ := first
    by_cases same : k = key
    · subst same
      cases held : chosen k <;> simp [put, held]
    · rw [put, if_neg same, List.filter_cons, ih]
      cases held : chosen k <;> cases chosen key <;> simp [put, held, same]

theorem filter_put_all_split (table entries : List (κ × α)) (chosen : κ → Bool) :
    (putAll table entries).filter (fun entry => chosen entry.1) =
      putAll (table.filter fun entry => chosen entry.1) (entries.filter fun entry => chosen entry.1) := by
  induction entries generalizing table with
  | nil => rfl
  | cons first rest ih =>
    obtain ⟨k, v⟩ := first
    rw [put_all_cons, ih, filter_put, List.filter_cons]
    cases chosen k <;> rfl

theorem filter_put_all (table entries : List (κ × α)) (chosen : κ → Bool) (unchosen : ∀ key ∈ entries.map Prod.fst, chosen key = false) :
    (putAll table entries).filter (fun entry => chosen entry.1) = table.filter fun entry => chosen entry.1 := by
  have passed : (entries.filter fun entry => chosen entry.1) = [] := by
    refine List.filter_eq_nil_iff.mpr fun entry member => ?_
    rw [unchosen entry.1 (List.mem_map_of_mem member)]
    exact Bool.false_ne_true
  rw [filter_put_all_split, passed]
  rfl

-- The key that was met first stays the first.
theorem head_key_put_all (first : κ × α) (table entries : List (κ × α)) :
    ((putAll (first :: table) entries).head?).map Prod.fst = some first.1 := by
  induction entries generalizing first table with
  | nil => rfl
  | cons entry rest ih =>
    obtain ⟨k, v⟩ := entry
    rw [put_all_cons, put]
    split
    case isTrue => exact ih _ _
    case isFalse => exact ih _ _

theorem lookup_put_all (table entries : List (κ × α)) (query : κ) :
    (putAll table entries).lookup query = (entries.reverse.lookup query).or (table.lookup query) := by
  induction entries generalizing table with
  | nil => rfl
  | cons first rest ih =>
    obtain ⟨k, v⟩ := first
    rw [put_all_cons, ih, lookup_put, List.reverse_cons, List.lookup_append, Option.or_assoc]
    by_cases same : query = k
    · simp [same]
    · rw [if_neg same, lookup_cons_other [] k query v same]
      rfl

-- Keys that are renamed apart are found as they were.
theorem lookup_rename (table : List (κ × α)) (rename : κ → κ) (key : κ)
    (apart : ∀ other ∈ table.map Prod.fst, rename key = rename other → key = other) :
    (table.map fun entry => (rename entry.1, entry.2)).lookup (rename key) = table.lookup key := by
  induction table with
  | nil => rfl
  | cons first rest ih =>
    obtain ⟨k, v⟩ := first
    have later := ih fun other member => apart other (List.mem_cons_of_mem _ member)
    by_cases same : key = k
    · simp [same]
    · have different : rename key ≠ rename k := fun equal => same (apart k List.mem_cons_self equal)
      rw [List.map_cons, lookup_cons_other _ (rename k) (rename key) v different, lookup_cons_other rest k key v same, later]

theorem put_rename (table : List (κ × α)) (rename : κ → κ) (key : κ) (value : α)
    (apart : ∀ other ∈ table.map Prod.fst, rename key = rename other → key = other) :
    put (rename key) value (table.map fun entry => (rename entry.1, entry.2)) =
      (put key value table).map fun entry => (rename entry.1, entry.2) := by
  induction table with
  | nil => rfl
  | cons first rest ih =>
    obtain ⟨k, v⟩ := first
    have later := ih fun other member => apart other (List.mem_cons_of_mem _ member)
    by_cases same : k = key
    · simp [put, same]
    · have different : rename k ≠ rename key := fun equal => same (apart k List.mem_cons_self equal.symm).symm
      simp only [List.map_cons, put, if_neg same, if_neg different, later]

end RestDispatch
