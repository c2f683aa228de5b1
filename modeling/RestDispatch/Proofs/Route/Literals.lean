import RestDispatch.Proofs.Route.Growth
import Mathlib.Data.List.Infix

set_option autoImplicit false

/-!
Rules without placeholders, looked up by their own text. The tokens of a rule are the parts of the same text read as a
path, less those that are empty. Main statement: so such a rule answers its own text unless two slashes stand side by side
in it, as a path keeps the empty part between them and no literal is empty.
-/
namespace RestDispatch

-- An empty part is cut off where a path ends, so one that is left has something behind it.
theorem mem_cut_end_iff (pieces : List String) :
    "" ∈ (if pieces.getLast? = some "" then pieces.dropLast else pieces) ↔
      ∃ front back, back ≠ [] ∧ pieces = front ++ "" :: back := by
  by_cases ended : pieces.getLast? = some ""
  · obtain ⟨kept, rfl⟩ := List.getLast?_eq_some_iff.mp ended
    rw [if_pos ended, List.dropLast_concat, List.mem_iff_append]
    constructor
    · rintro ⟨front, back, rfl⟩
      exact ⟨front, back ++ [""], by simp, by simp⟩
    · rintro ⟨front, back, some, same⟩
      obtain ⟨others, last, rfl⟩ := (List.eq_nil_or_concat back).resolve_left some
      have shorter : kept ++ [""] = (front ++ "" :: others) ++ [last] := by simpa using same
      exact ⟨front, others, (List.append_inj' shorter rfl).1⟩
  · rw [if_neg ended, List.mem_iff_append]
    constructor
    · rintro ⟨front, back, rfl⟩
      refine ⟨front, back, ?_, rfl⟩
      rintro rfl
      exact ended (by simp)
    · rintro ⟨front, back, _, same⟩
      exact ⟨front, back, same⟩

theorem mem_trim_parts_iff (pieces : List String) :
    "" ∈ trimParts pieces ↔ ∃ front back, front ≠ [] ∧ back ≠ [] ∧ pieces = front ++ "" :: back := by
  rw [trimParts, mem_cut_end_iff]
  by_cases led : pieces.head? = some ""
  · obtain ⟨rest, rfl⟩ := List.head?_eq_some_iff.mp led
    rw [if_pos led, List.tail_cons]
    constructor
    · rintro ⟨front, back, some, rfl⟩
      exact ⟨"" :: front, back, List.cons_ne_nil _ _, some, rfl⟩
    · rintro ⟨front, back, filled, some, same⟩
      obtain ⟨first, others, rfl⟩ := List.exists_cons_of_ne_nil filled
      exact ⟨others, back, some, (List.cons.inj same).2⟩
  · rw [if_neg led]
    constructor
    · rintro ⟨front, back, some, rfl⟩
      refine ⟨front, back, ?_, some, rfl⟩
      rintro rfl
      exact led rfl
    · rintro ⟨front, back, _, some, same⟩
      exact ⟨front, back, some, same⟩

-- A path has an empty part exactly if two slashes stand side by side in it.
theorem empty_part_iff_doubled (path : String) : "" ∈ splitPath path ↔ ['/', '/'] <:+: path.toList := by
  rw [splitPath, mem_trim_parts_iff, Text.doubled_iff]
  constructor
  · rintro ⟨front, back, filled, some, same⟩
    obtain ⟨before, rest, cut, rfl, behind⟩ := List.map_eq_append_iff.mp same
    obtain ⟨piece, after, rfl, empty, rfl⟩ := List.map_eq_cons_iff.mp behind
    obtain rfl : piece = [] := by simpa using empty
    exact ⟨before, after, by simpa using filled, by simpa using some, cut⟩
  · rintro ⟨front, back, filled, some, cut⟩
    exact ⟨front.map String.ofList, back.map String.ofList, by simpa using filled, by simpa using some, by simp [Text.splitText, cut]⟩

namespace Rule

-- The two ways to cut a text differ in the empty parts alone.
theorem tokens_eq_parts (text : String) : (tokens text).map String.ofList = (splitPath text).filter (· ≠ "") := by
  have solid : (tokens text).map String.ofList = (Text.splitText '/' text).filter (· ≠ "") := by
    have same : (fun cs : List Char => decide (String.ofList cs ≠ "")) = fun cs => !cs.isEmpty := by
      funext cs
      cases cs <;> simp
    rw [tokens, Text.splitText, List.filter_map]
    exact congrArg (fun p => ((Text.split '/' text.toList).filter p).map String.ofList) same.symm
  rw [solid, splitPath]
  have trimmed := pieces_of_trim_parts (Text.splitText '/' text)
  simp only [List.mem_cons, List.not_mem_nil, or_false] at trimmed
  generalize trimParts (Text.splitText '/' text) = parts at trimmed ⊢
  rcases trimmed with cut | cut | cut | cut <;> simp [cut]

theorem plain_token (text : String) (plain : Plain text.toList) (token : List Char) (member : token ∈ tokens text) : Plain token := by
  obtain ⟨piece, _⟩ := (mem_tokens_iff text token).mp member
  have within := Text.piece_sublist '/' _ token piece
  rw [Text.join_split] at within
  exact ⟨fun held => plain.opening (within.subset held), fun held => plain.closing (within.subset held)⟩

-- A text without brackets always is a rule, one of literals only.
theorem compile_plain (text : String) (plain : Plain text.toList) :
    compile text = .ok ⟨text, ((splitPath text).filter (· ≠ "")).map .literal⟩ := by
  have unnamed : ∀ texts : List String, Segment.names (texts.map .literal) = [] := by
    intro texts
    simp [Segment.names, Segment.variableName?]
  refine (compile_ok_iff_grammatical text _).mpr ⟨rfl, ⟨?_, ?_⟩, ?_⟩
  · rw [← tokens_eq_parts, List.map_map, List.forall₂_map_right_iff, List.forall₂_same]
    exact fun token member => .literal (plain_token text plain token member)
  · rw [unnamed]
    exact List.nodup_nil
  · intro segment member
    obtain ⟨literal, _, rfl⟩ := List.mem_map.mp (List.dropLast_subset _ member)
    rfl

end Rule

theorem align_literals (texts parts : List String) :
    align (texts.map .literal) parts = if parts = texts then some [] else none := by
  induction texts generalizing parts with
  | nil => cases parts <;> rfl
  | cons text rest ih =>
    cases parts with
    | nil => rfl
    | cons part others =>
      rw [List.map_cons, align, ih]
      by_cases same : part = text <;> simp [same]

-- A rule without placeholders that is the only one of its router. It answers the paths that have its parts and no empty
-- ones, so its own text is among them unless it has an empty part.
theorem literal_rule_answers_itself_iff (objects : Objects) (text : String) (target : Target) (route : Route Resource)
    (plain : Rule.Plain text.toList) (registered : (Router.add { objects } text target).1 = .ok route) :
    let router := (Router.add { objects } text target).2
    (router.resolve text = some ([], route.resource) ↔ ¬ ['/', '/'] <:+: text.toList) ∧
    (router.resolve text = none ↔ ['/', '/'] <:+: text.toList) ∧
    ∀ path, router.resolve path =
      if splitPath path = (splitPath text).filter (· ≠ "") then some ([], route.resource) else none := by
  intro router
  have answers : ∀ path, router.resolve path =
      if splitPath path = (splitPath text).filter (· ≠ "") then some ([], route.resource) else none := by
    intro path
    rcases Router.add_cases { objects } text target with ⟨e, refused, _⟩ | ⟨added, stored, table, entered⟩
    · rw [registered] at refused
      cases refused
    · rw [registered] at stored
      obtain rfl := Except.ok.inj stored
      have compiled := (Rule.compile_plain text plain).symm.trans entered.compiled
      rw [Router.resolve, table, List.nil_append, Table.resolve, List.findSome?_singleton, Rule.match?, ← Except.ok.inj compiled,
        align_literals]
      split <;> rfl
  have itself : splitPath text = (splitPath text).filter (· ≠ "") ↔ ¬ ['/', '/'] <:+: text.toList := by
    rw [← empty_part_iff_doubled, eq_comm, List.filter_eq_self]
    simp only [decide_eq_true_eq]
    exact ⟨fun each held => each "" held rfl, fun absent part member empty => absent (empty ▸ member)⟩
  refine ⟨?_, ?_, answers⟩
  · rw [answers, ← itself]
    simp
  · rw [answers, ← not_iff_not, ← itself]
    simp

theorem doubled_slash_unanswered :
    let added := Router.add {} "/a//b" (.fresh { name := "Page" })
    Rule.Plain "/a//b".toList ∧ ∃ route, added.1 = .ok route ∧ added.2.resolve "/a//b" ≠ some ([], route.resource) ∧
      added.2.resolve "/a//b" = none := by
  refine ⟨⟨by decide, by decide⟩, _, rfl, ?_, rfl⟩
  exact fun answered => nomatch answered

theorem slash_ended_rule_answers_itself :
    let added := Router.add {} "/a/b/" (.fresh { name := "Page" })
    ∃ route, Rule.Plain "/a/b/".toList ∧ added.1 = .ok route ∧ added.2.resolve "/a/b/" = some ([], route.resource) := by
  intro added
  have plain : Rule.Plain "/a/b/".toList := ⟨by decide, by decide⟩
  obtain ⟨answers, _⟩ := literal_rule_answers_itself_iff {} "/a/b/" (.fresh { name := "Page" }) _ plain rfl
  exact ⟨_, plain, rfl, answers.mpr (by decide)⟩

end RestDispatch
