import RestDispatch.Text.Split

set_option autoImplicit false

/-!
Splitting and joining as inverses. Main statement: pieces without the separator are read back from the
text that joins them, so a text and its pieces determine each other.
-/
namespace RestDispatch.Text

theorem split_cons_piece {α : Type} [DecidableEq α] (separator c : α) (cs piece : List α) (pieces : List (List α))
    (other : c ≠ separator) (cut : split separator cs = piece :: pieces) :
    split separator (c :: cs) = (c :: piece) :: pieces := by
  rw [split, if_neg other, cut]

theorem split_of_clean {α : Type} [DecidableEq α] (separator : α) (piece : List α) (clean : separator ∉ piece) :
    split separator piece = [piece] := by
  induction piece with
  | nil => rfl
  | cons c cs ih =>
    simp only [List.mem_cons, not_or] at clean
    exact split_cons_piece separator c cs cs [] (Ne.symm clean.1) (ih clean.2)

theorem split_append {α : Type} [DecidableEq α] (separator : α) (piece rest : List α) (clean : separator ∉ piece) :
    split separator (piece ++ separator :: rest) = piece :: split separator rest := by
  induction piece with
  | nil => simp [split]
  | cons c cs ih =>
    simp only [List.mem_cons, not_or] at clean
    exact split_cons_piece separator c _ cs _ (Ne.symm clean.1) (ih clean.2)

-- Any separator parts the pieces before it from those behind it.
theorem split_parts {α : Type} [DecidableEq α] (separator : α) (front back : List α) :
    split separator (front ++ separator :: back) = split separator front ++ split separator back := by
  induction front with
  | nil => simp [split]
  | cons c cs ih =>
    by_cases same : c = separator
    · simp [split, same, ih]
    · obtain ⟨piece, pieces, cut⟩ := List.exists_cons_of_ne_nil (split_ne_nil separator cs)
      have whole : split separator (cs ++ separator :: back) = piece :: (pieces ++ split separator back) := by
        rw [ih, cut, List.cons_append]
      rw [List.cons_append, split_cons_piece separator c _ piece _ same whole, split_cons_piece separator c cs piece pieces same cut,
        List.cons_append]

theorem split_join {α : Type} [DecidableEq α] (separator : α) (pieces : List (List α)) (some : pieces ≠ [])
    (clean : ∀ piece ∈ pieces, separator ∉ piece) : split separator (join separator pieces) = pieces := by
  induction pieces with
  | nil => exact absurd rfl some
  | cons piece rest ih =>
    have first := clean piece List.mem_cons_self
    cases rest with
    | nil => exact split_of_clean separator piece first
    | cons next others =>
      have after := ih (by simp) fun other member => clean other (List.mem_cons_of_mem piece member)
      rw [join, split_append separator piece _ first, after]

theorem split_text_ne_nil (separator : Char) (text : String) : splitText separator text ≠ [] := by
  simpa [splitText] using split_ne_nil separator text.toList

theorem join_split_text (separator : Char) (text : String) : joinText separator (splitText separator text) = text := by
  simp [joinText, splitText, List.map_map, Function.comp_def, join_split]

theorem split_join_text (separator : Char) (pieces : List String) (some : pieces ≠ [])
    (clean : ∀ piece ∈ pieces, separator ∉ piece.toList) : splitText separator (joinText separator pieces) = pieces := by
  have inner : split separator (join separator (pieces.map String.toList)) = pieces.map String.toList := by
    apply split_join
    · simpa using some
    · intro piece member
      obtain ⟨text, inside, rfl⟩ := List.mem_map.mp member
      exact clean text inside
  simp [splitText, joinText, inner, List.map_map, Function.comp_def]

theorem clean_of_mem_split_text (separator : Char) (text piece : String) (member : piece ∈ splitText separator text) :
    separator ∉ piece.toList := by
  obtain ⟨cs, inside, rfl⟩ := List.mem_map.mp member
  simpa using not_mem_of_mem_split separator text.toList cs inside

theorem join_append {α : Type} (separator : α) (front back : List (List α)) (filled : front ≠ []) (some : back ≠ []) :
    join separator (front ++ back) = join separator front ++ separator :: join separator back := by
  induction front with
  | nil => exact absurd rfl filled
  | cons piece rest ih =>
    cases rest with
    | nil =>
      obtain ⟨next, others, rfl⟩ := List.exists_cons_of_ne_nil some
      rfl
    | cons next others =>
      rw [List.cons_append, List.cons_append, join, ← List.cons_append, ih (by simp), join, List.append_assoc,
        List.cons_append]

-- Joined pieces are the first of them, and every other one behind a separator.
theorem join_eq_flatten {α : Type} (separator : α) (piece : List α) (pieces : List (List α)) :
    join separator (piece :: pieces) = piece ++ (pieces.map (separator :: ·)).flatten := by
  induction pieces generalizing piece with
  | nil => simp [join]
  | cons next rest ih => rw [join, ih next, List.map_cons, List.flatten_cons, List.cons_append]

theorem piece_sublist {α : Type} (separator : α) (pieces : List (List α)) (piece : List α) (member : piece ∈ pieces) :
    piece.Sublist (join separator pieces) := by
  induction pieces with
  | nil => cases member
  | cons first rest ih =>
    cases rest with
    | nil =>
      obtain rfl := List.mem_singleton.mp member
      exact List.Sublist.refl piece
    | cons next others =>
      rw [join]
      rcases List.mem_cons.mp member with rfl | later
      · exact List.sublist_append_left piece _
      · exact ((ih later).trans (List.sublist_cons_self separator _)).trans (List.sublist_append_right first _)

-- Two separators stand side by side exactly if there is an empty piece between two others.
theorem doubled_iff {α : Type} [DecidableEq α] (separator : α) (cs : List α) :
    [separator, separator] <:+: cs ↔
      ∃ front back, front ≠ [] ∧ back ≠ [] ∧ split separator cs = front ++ [] :: back := by
  constructor
  · rintro ⟨before, after, rfl⟩
    refine ⟨split separator before, split separator after, split_ne_nil separator before, split_ne_nil separator after, ?_⟩
    rw [List.append_assoc, List.cons_append, List.cons_append, List.nil_append, split_parts, split, if_pos rfl]
  · rintro ⟨front, back, filled, some, cut⟩
    have inner : join separator ([] :: back) = separator :: join separator back :=
      join_append separator [[]] back (List.cons_ne_nil _ _) some
    have outer := join_append separator front ([] :: back) filled (List.cons_ne_nil _ _)
    refine ⟨join separator front, join separator back, ?_⟩
    rw [← join_split separator cs, cut, outer, inner, List.append_assoc]
    rfl

theorem join_text_append (separator : Char) (front back : List String) (filled : front ≠ []) (some : back ≠ []) :
    joinText separator (front ++ back) = joinText separator front ++ separator.toString ++ joinText separator back := by
  have joined := join_append separator (front.map String.toList) (back.map String.toList) (by simpa using filled)
    (by simpa using some)
  rw [joinText, List.map_append, joined, joinText, joinText, ← List.singleton_append, String.ofList_append,
    String.ofList_append, String.append_assoc]
  rfl

theorem join_text_single (separator : Char) (piece : String) : joinText separator [piece] = piece := by
  simp [joinText, join]

theorem join_text_cons (separator : Char) (piece : String) (pieces : List String) (some : pieces ≠ []) :
    joinText separator (piece :: pieces) = piece ++ separator.toString ++ joinText separator pieces := by
  have joined := join_text_append separator [piece] pieces (by simp) some
  rwa [join_text_single] at joined

-- Pieces that are themselves joined of pieces may be joined at once.
theorem join_text_flat_map {α : Type} (separator : Char) (f : α → List String) (items : List α)
    (filled : ∀ a ∈ items, f a ≠ []) :
    joinText separator (items.flatMap f) = joinText separator (items.map fun a => joinText separator (f a)) := by
  induction items with
  | nil => rfl
  | cons a rest ih =>
    have first := filled a List.mem_cons_self
    have later := ih fun b member => filled b (List.mem_cons_of_mem a member)
    cases rest with
    | nil => simp only [List.flatMap_cons, List.flatMap_nil, List.append_nil, List.map_cons, List.map_nil, join_text_single]
    | cons b others =>
      have some : (b :: others).flatMap f ≠ [] := fun none =>
        filled b (by simp) (List.append_eq_nil_iff.mp none).1
      have outer := join_text_append separator (f a) _ first some
      have inner := join_text_cons separator (joinText separator (f a))
        ((b :: others).map fun a => joinText separator (f a)) (by simp)
      exact outer.trans (later ▸ inner.symm)

-- A text is cut into certain pieces exactly if it is what joins them.
theorem split_text_mem_iff (separator : Char) (text : String) (options : List (List String))
    (some : ∀ pieces ∈ options, pieces ≠ []) (clean : ∀ pieces ∈ options, ∀ piece ∈ pieces, separator ∉ piece.toList) :
    splitText separator text ∈ options ↔ text ∈ options.map (joinText separator) := by
  rw [List.mem_map]
  constructor
  · intro member
    exact ⟨_, member, join_split_text separator text⟩
  · rintro ⟨pieces, member, rfl⟩
    rw [split_join_text separator pieces (some pieces member) (clean pieces member)]
    exact member

theorem cut_eq_some (separator : Char) (cs before after : List Char) (cut : cut? separator cs = some (before, after)) :
    cs = before ++ separator :: after := by
  induction cs generalizing before with
  | nil => cases cut
  | cons c rest ih =>
    rw [cut?] at cut
    by_cases same : c = separator
    · simp only [if_pos same, Option.some.injEq, Prod.mk.injEq] at cut
      obtain ⟨rfl, rfl⟩ := cut
      rw [same, List.nil_append]
    · simp only [if_neg same, Option.map_eq_some_iff, Prod.mk.injEq, Prod.exists] at cut
      obtain ⟨first, last, inner, rfl, rfl⟩ := cut
      rw [ih first inner, List.cons_append]

theorem cut_eq_none_iff (separator : Char) (cs : List Char) : cut? separator cs = none ↔ separator ∉ cs := by
  induction cs with
  | nil => simp [cut?]
  | cons c rest ih =>
    rw [cut?, List.mem_cons, not_or, ← ih]
    by_cases same : c = separator
    · simp [same]
    · simp [same, Ne.symm same]

-- The first separator is where a text is cut.
theorem cut_eq_some_iff (separator : Char) (cs before after : List Char) :
    cut? separator cs = some (before, after) ↔ separator ∉ before ∧ cs = before ++ separator :: after := by
  constructor
  · intro cut
    refine ⟨?_, cut_eq_some separator cs before after cut⟩
    induction cs generalizing before with
    | nil => cases cut
    | cons c rest ih =>
      rw [cut?] at cut
      by_cases same : c = separator
      · simp only [if_pos same, Option.some.injEq, Prod.mk.injEq] at cut
        simp [← cut.1]
      · simp only [if_neg same, Option.map_eq_some_iff, Prod.mk.injEq, Prod.exists] at cut
        obtain ⟨first, last, inner, rfl, rfl⟩ := cut
        simp [Ne.symm same, ih first inner]
  · rintro ⟨clean, rfl⟩
    induction before with
    | nil => simp [cut?]
    | cons c rest ih =>
      simp only [List.mem_cons, not_or] at clean
      rw [List.cons_append, cut?, if_neg (Ne.symm clean.1), ih clean.2]
      rfl

end RestDispatch.Text
