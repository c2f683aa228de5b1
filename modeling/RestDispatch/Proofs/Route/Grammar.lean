import RestDispatch.Proofs.Route.Alignment
import Mathlib.Data.List.Forall2
import Mathlib.Data.List.Induction
import Mathlib.Data.List.Nodup

set_option autoImplicit false

/-!
The grammar of rules. Tokens are literals or placeholders in angle brackets, and what a token means does not depend
on the others. Main statement: exactly the rules compile whose tokens all mean something, each name only once and a
`path` only at the end; any other rule is refused for the leftmost token that is at fault, and for its `path` only if
none is.
-/
namespace RestDispatch.Rule

-- The words for types. A placeholder without one captures any part.
def typeWords : List (String × Converter) := [("str", .str), ("int", .int), ("float", .float), ("path", .path)]

structure Plain (token : List Char) : Prop where
  opening : '<' ∉ token
  closing : '>' ∉ token

-- `<name>`
structure Bare (token name : List Char) : Prop where
  written : token = '<' :: name ++ ['>']
  filled : name ≠ []
  plain : Plain name
  colonless : ':' ∉ name

-- `<type:name>`, whatever the type. The first colon ends the type.
structure Typed (token type name : List Char) : Prop where
  written : token = '<' :: (type ++ ':' :: name) ++ ['>']
  typeFilled : type ≠ []
  typePlain : Plain type
  typeColonless : ':' ∉ type
  nameFilled : name ≠ []
  namePlain : Plain name

inductive Means (token : List Char) : Segment → Prop where
  | literal (plain : Plain token) : Means token (.literal (String.ofList token))
  | bare (name : List Char) (bare : Bare token name) : Means token (.placeholder (String.ofList name) .part)
  | typed (type name : List Char) (converter : Converter) (typed : Typed token type name)
      (known : (String.ofList type, converter) ∈ typeWords) : Means token (.placeholder (String.ofList name) converter)

-- What is wrong with a token behind others that have names. The faults are in the order in which they are looked for.
inductive Faulty (rule : String) (earlier : List String) (token : List Char) : RouteError → Prop where
  | malformed (marked : ¬ Plain token) (unbare : ∀ name, ¬ Bare token name) (untyped : ∀ type name, ¬ Typed token type name) :
      Faulty rule earlier token (.malformedRule rule)
  | unknownType (type name : List Char) (typed : Typed token type name) (unknown : String.ofList type ∉ typeWords.map Prod.fst) :
      Faulty rule earlier token (.unknownConverter (String.ofList type))
  | repeated (name : String) (converter : Converter) (meant : Means token (.placeholder name converter)) (used : name ∈ earlier) :
      Faulty rule earlier token (.duplicateVariable name)

theorem plain_iff (token : List Char) : Plain token ↔ token.any isBracket = false := by
  rw [List.any_eq_false]
  constructor
  · rintro ⟨opening, closing⟩ c member
    have first : c ≠ '<' := fun same => opening (same ▸ member)
    have last : c ≠ '>' := fun same => closing (same ▸ member)
    simp [isBracket, first, last]
  · intro unmarked
    exact ⟨fun member => unmarked _ member (by decide), fun member => unmarked _ member (by decide)⟩

theorem marked_iff (token : List Char) : token.any isBracket = true ↔ ¬ Plain token := by
  rw [plain_iff, Bool.not_eq_false]

theorem plain_append_iff (front back : List Char) : Plain (front ++ back) ↔ Plain front ∧ Plain back := by
  simp only [plain_iff, List.any_append, Bool.or_eq_false_iff]

theorem plain_cons_iff (c : Char) (token : List Char) : Plain (c :: token) ↔ isBracket c = false ∧ Plain token := by
  simp only [plain_iff, List.any_cons, Bool.or_eq_false_iff]

theorem inside_eq_some_iff (token inner : List Char) : inside? token = some inner ↔ token = '<' :: inner ++ ['>'] ∧ Plain inner := by
  rw [plain_iff]
  constructor
  · intro found
    unfold inside? at found
    split at found
    · rename_i rest
      split at found
      · rename_i back reversed
        obtain rfl : rest = back.reverse ++ ['>'] := by rw [← List.reverse_reverse rest, reversed, List.reverse_cons]
        cases marked : back.any isBracket with
        | true => simp [marked] at found
        | false =>
          simp only [marked, Bool.false_eq_true, if_false, Option.some.injEq] at found
          subst found
          exact ⟨rfl, by simpa using marked⟩
      · cases found
    · cases found
  · rintro ⟨rfl, unmarked⟩
    simpa [inside?] using unmarked

theorem type_and_name_eq_some_iff (inner type name : List Char) :
    typeAndName? inner = some (type, name) ↔
      name ≠ [] ∧ ((type = [] ∧ ':' ∉ inner ∧ inner = name) ∨ (type ≠ [] ∧ ':' ∉ type ∧ inner = type ++ ':' :: name)) := by
  rw [typeAndName?]
  cases cut : Text.cut? ':' inner with
  | none =>
    have colonless := (Text.cut_eq_none_iff ':' inner).mp cut
    have uncut : inner ≠ type ++ ':' :: name := by
      rintro rfl
      simp at colonless
    cases inner with
    | nil =>
      simp only [List.isEmpty_nil, if_true, reduceCtorEq, false_iff]
      rintro ⟨filled, ⟨_, _, same⟩ | ⟨_, _, same⟩⟩
      · exact filled same.symm
      · exact uncut same
    | cons c rest =>
      simp only [List.isEmpty_cons, Bool.false_eq_true, if_false, Option.some.injEq, Prod.mk.injEq, colonless, uncut, and_false,
        or_false, not_false_eq_true, true_and]
      constructor
      · rintro ⟨rfl, rfl⟩
        simp
      · rintro ⟨_, rfl, same⟩
        exact ⟨rfl, same⟩
  | some halves =>
    obtain ⟨before, after⟩ := halves
    obtain ⟨clean, rfl⟩ := (Text.cut_eq_some_iff ':' inner before after).mp cut
    have marked : ':' ∈ before ++ ':' :: after := by simp
    constructor
    · intro found
      by_cases empty : (before.isEmpty || after.isEmpty) = true
      · simp [empty] at found
      · simp only [empty, if_false, Option.some.injEq, Prod.mk.injEq, Bool.false_eq_true] at found
        obtain ⟨rfl, rfl⟩ := found
        simp only [Bool.or_eq_true, List.isEmpty_iff, not_or] at empty
        exact ⟨empty.2, Or.inr ⟨empty.1, clean, rfl⟩⟩
    · rintro ⟨filled, ⟨_, colonless, _⟩ | ⟨typed, colonless, same⟩⟩
      · exact absurd marked colonless
      · have again := (Text.cut_eq_some_iff ':' _ type name).mpr ⟨colonless, same⟩
        rw [cut] at again
        obtain ⟨rfl, rfl⟩ := Prod.mk.inj (Option.some.inj again)
        simp [filled, typed]

-- A placeholder is parted as it is written, a bare one as one of no type.
theorem placeholder_read_iff (token type name : List Char) :
    (inside? token).bind typeAndName? = some (type, name) ↔ (type = [] ∧ Bare token name) ∨ Typed token type name := by
  rw [Option.bind_eq_some_iff]
  constructor
  · rintro ⟨inner, within, parted⟩
    obtain ⟨rfl, plain⟩ := (inside_eq_some_iff token inner).mp within
    obtain ⟨filled, ⟨untyped, colonless, rfl⟩ | ⟨typed, colonless, rfl⟩⟩ := (type_and_name_eq_some_iff inner type name).mp parted
    · exact Or.inl ⟨untyped, rfl, filled, plain, colonless⟩
    · obtain ⟨typePlain, rest⟩ := (plain_append_iff type _).mp plain
      exact Or.inr ⟨rfl, typed, typePlain, colonless, filled, ((plain_cons_iff ':' name).mp rest).2⟩
  · rintro (⟨rfl, bare⟩ | typed)
    · exact ⟨name, (inside_eq_some_iff token name).mpr ⟨bare.written, bare.plain⟩,
        (type_and_name_eq_some_iff name [] name).mpr ⟨bare.filled, Or.inl ⟨rfl, bare.colonless, rfl⟩⟩⟩
    · refine ⟨type ++ ':' :: name, (inside_eq_some_iff token _).mpr ⟨typed.written, ?_⟩,
        (type_and_name_eq_some_iff _ type name).mpr ⟨typed.nameFilled, Or.inr ⟨typed.typeFilled, typed.typeColonless, rfl⟩⟩⟩
      exact (plain_append_iff type _).mpr ⟨typed.typePlain, (plain_cons_iff ':' name).mpr ⟨by decide, typed.namePlain⟩⟩

theorem bare_marked (token name : List Char) (bare : Bare token name) : ¬ Plain token := by
  rw [bare.written]
  exact fun plain => plain.opening List.mem_cons_self

theorem typed_marked (token type name : List Char) (typed : Typed token type name) : ¬ Plain token := by
  rw [typed.written]
  exact fun plain => plain.opening List.mem_cons_self

theorem named_eq_some_iff (word : String) (converter : Converter) :
    Converter.named? word = some converter ↔ (word = "" ∧ converter = .part) ∨ (word, converter) ∈ typeWords := by
  have named : Converter.named? word = some converter ↔ converter.name = word := by
    constructor
    · exact fun found => by simpa using List.find?_some found
    · rintro rfl
      exact converter.named_name
  rw [named]
  cases converter <;> simp [typeWords, Converter.name, eq_comm]

theorem named_eq_none_iff (word : String) : Converter.named? word = none ↔ word ≠ "" ∧ word ∉ typeWords.map Prod.fst := by
  rw [Converter.named?, List.find?_eq_none]
  simp [Converter.all, typeWords, Converter.name, eq_comm]

theorem read_token_of_means (rule : String) (token : List Char) (segment : Segment) (meant : Means token segment) :
    readToken rule token = .ok segment := by
  cases meant with
  | literal plain => rw [readToken, (plain_iff token).mp plain, if_neg Bool.false_ne_true]
  | bare name bare =>
    rw [readToken, if_pos ((marked_iff token).mpr (bare_marked token name bare)),
      (placeholder_read_iff token [] name).mpr (Or.inl ⟨rfl, bare⟩)]
    rfl
  | typed type name converter typed known =>
    rw [readToken, if_pos ((marked_iff token).mpr (typed_marked token type name typed)),
      (placeholder_read_iff token type name).mpr (Or.inr typed)]
    simp only [(named_eq_some_iff _ converter).mpr (Or.inr known)]

theorem read_token_of_faulty (rule : String) (token : List Char) (e : RouteError) (fault : Faulty rule [] token e) :
    readToken rule token = .error e := by
  cases fault with
  | malformed marked unbare untyped =>
    have unread : (inside? token).bind typeAndName? = none := by
      rw [Option.eq_none_iff_forall_ne_some]
      rintro ⟨type, name⟩ parted
      rcases (placeholder_read_iff token type name).mp parted with ⟨_, bare⟩ | typed
      · exact unbare name bare
      · exact untyped type name typed
    rw [readToken, if_pos ((marked_iff token).mpr marked), unread]
  | unknownType type name typed unknown =>
    have unnamed := (named_eq_none_iff (String.ofList type)).mpr ⟨by simpa using typed.typeFilled, unknown⟩
    rw [readToken, if_pos ((marked_iff token).mpr (typed_marked token type name typed)),
      (placeholder_read_iff token type name).mpr (Or.inr typed)]
    simp only [unnamed]
  | repeated name converter meant used => cases used

theorem means_or_faulty (rule : String) (token : List Char) :
    (∃ segment, Means token segment) ∨ ∃ e, Faulty rule [] token e := by
  by_cases plain : Plain token
  · exact Or.inl ⟨_, .literal plain⟩
  by_cases bare : ∃ name, Bare token name
  · obtain ⟨name, bare⟩ := bare
    exact Or.inl ⟨_, .bare name bare⟩
  by_cases typed : ∃ type name, Typed token type name
  · obtain ⟨type, name, typed⟩ := typed
    by_cases known : String.ofList type ∈ typeWords.map Prod.fst
    · obtain ⟨⟨word, converter⟩, member, rfl⟩ := List.mem_map.mp known
      exact Or.inl ⟨_, .typed type name converter typed member⟩
    · exact Or.inr ⟨_, .unknownType type name typed known⟩
  · exact Or.inr ⟨_, .malformed plain (not_exists.mp bare) fun type => not_exists.mp (not_exists.mp typed type)⟩

theorem faulty_mono (rule : String) (earlier more : List String) (token : List Char) (e : RouteError)
    (wider : ∀ name ∈ earlier, name ∈ more) (fault : Faulty rule earlier token e) : Faulty rule more token e := by
  cases fault with
  | malformed marked unbare untyped => exact .malformed marked unbare untyped
  | unknownType type name typed unknown => exact .unknownType type name typed unknown
  | repeated name converter meant used => exact .repeated name converter meant (wider name used)

-- Tokens that mean something together: no name is given twice.
structure Grammatical (tokens : List (List Char)) (segments : List Segment) : Prop where
  meant : List.Forall₂ Means tokens segments
  distinct : (Segment.names segments).Nodup

-- Reading goes on behind tokens that mean something, with their names seen.
theorem read_tokens_behind (rule : String) (seen : List String) (before rest : List (List Char)) (segments : List Segment)
    (meant : List.Forall₂ Means before segments) (distinct : (Segment.names segments).Nodup)
    (fresh : ∀ name ∈ Segment.names segments, name ∉ seen) :
    readTokens rule seen (before ++ rest) =
      (readTokens rule ((Segment.names segments).reverse ++ seen) rest).map (segments ++ ·) := by
  induction meant generalizing seen with
  | nil => cases read : readTokens rule seen rest <;> simp [Segment.names, read, Except.map]
  | @cons token segment before segments here _ ih =>
    have first := read_token_of_means rule token segment here
    cases segment with
    | literal text =>
      have names : Segment.names (.literal text :: segments) = Segment.names segments := rfl
      simp only [List.cons_append, readTokens, first, ih seen distinct fresh, names]
      cases readTokens rule ((Segment.names segments).reverse ++ seen) rest <;> rfl
    | placeholder name converter =>
      obtain ⟨unmet, others⟩ := List.nodup_cons.mp distinct
      obtain ⟨unseen, later⟩ := List.forall_mem_cons.mp fresh
      have behind := ih (name :: seen) others fun other member inside => by
        rcases List.mem_cons.mp inside with rfl | old
        · exact unmet member
        · exact later other member old
      have names : (Segment.names (.placeholder name converter :: segments)).reverse ++ seen =
          (Segment.names segments).reverse ++ name :: seen := by
        rw [Segment.names_placeholder, List.reverse_cons, List.append_assoc, List.singleton_append]
      simp only [List.cons_append, readTokens, first, if_neg unseen, behind, names]
      cases readTokens rule ((Segment.names segments).reverse ++ name :: seen) rest <;> rfl

theorem read_tokens_of_grammatical (rule : String) (tokens : List (List Char)) (segments : List Segment)
    (grammatical : Grammatical tokens segments) : readTokens rule [] tokens = .ok segments := by
  have read := read_tokens_behind rule [] tokens [] segments grammatical.meant grammatical.distinct fun _ _ => List.not_mem_nil
  rw [List.append_nil] at read
  rw [read, readTokens, Except.map, List.append_nil]

theorem read_tokens_of_faulty (rule : String) (before after : List (List Char)) (token : List Char) (segments : List Segment)
    (e : RouteError) (grammatical : Grammatical before segments) (fault : Faulty rule (Segment.names segments) token e) :
    readTokens rule [] (before ++ token :: after) = .error e := by
  have read := read_tokens_behind rule [] before (token :: after) segments grammatical.meant grammatical.distinct
    fun _ _ => List.not_mem_nil
  rw [read, List.append_nil, readTokens]
  cases fault with
  | malformed marked unbare untyped => simp only [read_token_of_faulty rule token _ (.malformed marked unbare untyped), Except.map]
  | unknownType type name typed unknown => simp only [read_token_of_faulty rule token _ (.unknownType type name typed unknown), Except.map]
  | repeated name converter meant used =>
    simp only [read_token_of_means rule token _ meant, if_pos (List.mem_reverse.mpr used), Except.map]

-- Tokens are grammatical, or there is a first one that is at fault behind those before it.
theorem grammatical_or_faulty (rule : String) (tokens : List (List Char)) :
    (∃ segments, Grammatical tokens segments) ∨
      ∃ before token after segments e, tokens = before ++ token :: after ∧ Grammatical before segments ∧
        Faulty rule (Segment.names segments) token e := by
  induction tokens using List.reverseRecOn with
  | nil => exact Or.inl ⟨[], .nil, List.nodup_nil⟩
  | append_singleton tokens token ih =>
    rcases ih with ⟨segments, grammatical⟩ | ⟨before, first, after, segments, e, rfl, grammatical, fault⟩
    · rcases means_or_faulty rule token with ⟨segment, meant⟩ | ⟨e, fault⟩
      · by_cases used : ∃ name, segment.variableName? = some name ∧ name ∈ Segment.names segments
        · obtain ⟨name, named, used⟩ := used
          cases segment with
          | literal text => cases named
          | placeholder other converter =>
            obtain rfl := Option.some.inj named
            exact Or.inr ⟨tokens, token, [], segments, _, rfl, grammatical, .repeated other converter meant used⟩
        · refine Or.inl ⟨segments ++ [segment], List.rel_append grammatical.meant (.cons meant .nil), ?_⟩
          rw [Segment.names, List.filterMap_append, List.nodup_append]
          refine ⟨grammatical.distinct, ?_, ?_⟩
          · cases segment with
            | literal text => exact List.nodup_nil
            | placeholder name converter => exact List.nodup_singleton name
          · rintro name old _ last rfl
            obtain ⟨_, here, named⟩ := List.mem_filterMap.mp last
            exact used ⟨name, List.mem_singleton.mp here ▸ named, old⟩
      · have later := faulty_mono rule [] (Segment.names segments) token e (fun _ met => absurd met List.not_mem_nil) fault
        exact Or.inr ⟨tokens, token, [], segments, e, rfl, grammatical, later⟩
    · exact Or.inr ⟨before, first, after ++ [token], segments, e, by simp, grammatical, fault⟩

theorem read_tokens_ok_iff (rule : String) (tokens : List (List Char)) (segments : List Segment) :
    readTokens rule [] tokens = .ok segments ↔ Grammatical tokens segments := by
  refine ⟨fun read => ?_, read_tokens_of_grammatical rule tokens segments⟩
  rcases grammatical_or_faulty rule tokens with ⟨others, grammatical⟩ | ⟨before, token, after, others, e, rfl, grammatical, fault⟩
  · rw [read_tokens_of_grammatical rule tokens others grammatical] at read
    exact Except.ok.inj read ▸ grammatical
  · rw [read_tokens_of_faulty rule before after token others e grammatical fault] at read
    cases read

theorem read_tokens_error_iff (rule : String) (tokens : List (List Char)) (e : RouteError) :
    readTokens rule [] tokens = .error e ↔
      ∃ before token after segments, tokens = before ++ token :: after ∧ Grammatical before segments ∧
        Faulty rule (Segment.names segments) token e := by
  constructor
  · intro read
    rcases grammatical_or_faulty rule tokens with ⟨segments, grammatical⟩ | ⟨before, token, after, segments, f, rfl, grammatical, fault⟩
    · rw [read_tokens_of_grammatical rule tokens segments grammatical] at read
      cases read
    · rw [read_tokens_of_faulty rule before after token segments f grammatical fault] at read
      exact ⟨before, token, after, segments, rfl, grammatical, Except.error.inj read ▸ fault⟩
  · rintro ⟨before, token, after, segments, rfl, grammatical, fault⟩
    exact read_tokens_of_faulty rule before after token segments e grammatical fault

theorem compile_eq_ok_iff (text : String) (rule : Rule) :
    compile text = .ok rule ↔ ∃ segments, readTokens text [] (tokens text) = .ok segments ∧
      segments.dropLast.any Segment.takesRest = false ∧ rule = ⟨text, segments⟩ := by
  rw [compile]
  cases readTokens text [] (tokens text) with
  | error e => simp
  | ok segments =>
    cases early : segments.dropLast.any Segment.takesRest with
    | true => simp only [early, if_true, Except.ok.injEq, exists_eq_left', Bool.true_eq_false, false_and, reduceCtorEq]
    | false => simp only [early, Bool.false_eq_true, if_false, Except.ok.injEq, exists_eq_left', true_and, eq_comm]

theorem compile_ok_iff_grammatical (text : String) (rule : Rule) :
    compile text = .ok rule ↔
      rule.text = text ∧ Grammatical (tokens text) rule.segments ∧ ∀ segment ∈ rule.segments.dropLast, segment.takesRest = false := by
  rw [compile_eq_ok_iff]
  simp only [read_tokens_ok_iff, List.any_eq_false, Bool.not_eq_true]
  constructor
  · rintro ⟨segments, grammatical, closing, rfl⟩
    exact ⟨rfl, grammatical, closing⟩
  · rintro ⟨rfl, grammatical, closing⟩
    exact ⟨rule.segments, grammatical, closing, rfl⟩

theorem compile_classified (text : String) :
    (∀ rule, compile text = .ok rule ↔
      rule.text = text ∧ Grammatical (tokens text) rule.segments ∧ ∀ segment ∈ rule.segments.dropLast, segment.takesRest = false) ∧
    ∀ e, compile text = .error e ↔
      (∃ before token after segments, tokens text = before ++ token :: after ∧ Grammatical before segments ∧
        Faulty text (Segment.names segments) token e) ∨
      (e = .malformedRule text ∧ ∃ segments, Grammatical (tokens text) segments ∧ ∃ segment ∈ segments.dropLast, segment.takesRest = true) := by
  refine ⟨compile_ok_iff_grammatical text, fun e => ?_⟩
  rw [← read_tokens_error_iff, compile]
  simp only [← read_tokens_ok_iff text, ← List.any_eq_true]
  cases readTokens text [] (tokens text) with
  | error f => simp
  | ok segments =>
    cases early : segments.dropLast.any Segment.takesRest with
    | true =>
      simp only [early, if_true, Except.ok.injEq, exists_eq_left', Except.error.injEq, reduceCtorEq, false_or, and_true, eq_comm]
    | false => simp only [early, Bool.false_eq_true, if_false, Except.ok.injEq, exists_eq_left', reduceCtorEq, false_or, and_false]

end RestDispatch.Rule
