import RestDispatch.Proofs.Route.Resolution

set_option autoImplicit false

/-!
Paths that a rule spells when texts are put in place of its placeholders. Main statement: a route answers
exactly the paths that its rule spells with accepted texts and no earlier route matches, and it captures these texts.
-/
namespace RestDispatch

namespace Converter

theorem is_part_iff (text : String) : isPart text.toList = true ↔ text ≠ "" ∧ '/' ∉ text.toList := by
  have filled : (!text.toList.isEmpty) = true ↔ text ≠ "" := by simp
  rw [isPart, Bool.and_eq_true, filled, List.all_eq_true]
  refine and_congr_right fun _ => ⟨fun each held => ?_, fun clean c member => ?_⟩
  · simpa using each '/' held
  · simpa using fun equal : c = '/' => clean (equal ▸ member)

-- Any class of characters that leaves out the slash is one of parts.
theorem is_part_of_all (p : Char → Bool) (cs : List Char) (apart : p '/' = false) (passed : (!cs.isEmpty && cs.all p) = true) :
    isPart cs = true := by
  obtain ⟨filled, each⟩ := Bool.and_eq_true_iff.mp passed
  rw [isPart, filled, Bool.true_and, List.all_eq_true]
  intro c member
  have holds := List.all_eq_true.mp each c member
  have different : c ≠ '/' := by
    rintro rfl
    rw [apart] at holds
    cases holds
  simpa using different

-- What is accepted for one part is one part.
theorem accepts_part (converter : Converter) (text : String) (accepted : converter.accepts text = true)
    (modest : converter.multiSegment = false) : isPart text.toList = true := by
  cases converter with
  | part => exact accepted
  | str => exact is_part_of_all isWordChar _ (by decide) accepted
  | int => exact is_part_of_all Char.isDigit _ (by decide) accepted
  | float =>
    simp only [accepts] at accepted
    cases cut : Text.cut? '.' text.toList with
    | none => simp [cut] at accepted
    | some halves =>
      obtain ⟨whole, fraction⟩ := halves
      simp only [cut, Bool.and_eq_true] at accepted
      have left := is_part_of_all Char.isDigit whole (by decide) accepted.1
      have right := is_part_of_all Char.isDigit fraction (by decide) accepted.2
      rw [Text.cut_eq_some '.' _ _ _ cut]
      simp only [isPart, Bool.and_eq_true] at left right ⊢
      refine ⟨by simp, ?_⟩
      rw [List.all_append, List.all_cons, left.2, right.2]
      decide
  | path => cases modest

end Converter

def Segment.fill (values : Assignment) : Segment → String
  | .literal text => text
  | .placeholder name _ => values name

namespace Rule

-- The path that a rule describes when its placeholders are filled in.
def path (rule : Rule) (values : Assignment) : String := Text.joinText '/' (rule.segments.map (Segment.fill values))

def Admits (rule : Rule) (values : Assignment) : Prop := ∀ segment ∈ rule.segments, segment.Admits values

-- A slash may stand before the path, and one behind it unless there is nothing that it could end.
def spellings (rule : Rule) (values : Assignment) : List String :=
  let path := rule.path values
  ["/" ++ path, path] ++ if rule.segments.isEmpty then [] else ["/" ++ path ++ "/", path ++ "/"]

end Rule

-- The pieces of a path are its parts, and there is an empty piece at an end where a slash stands.
theorem pieces_of_trim_parts (pieces : List String) :
    pieces ∈ ["" :: trimParts pieces, trimParts pieces, "" :: (trimParts pieces ++ [""]), trimParts pieces ++ [""]] := by
  have behind : ∀ rest : List String,
      rest = (if rest.getLast? = some "" then rest.dropLast else rest) ∨
      rest = (if rest.getLast? = some "" then rest.dropLast else rest) ++ [""] := by
    intro rest
    by_cases ended : rest.getLast? = some ""
    · obtain ⟨front, rfl⟩ := List.getLast?_eq_some_iff.mp ended
      rw [if_pos ended, List.dropLast_concat]
      exact Or.inr rfl
    · rw [if_neg ended]
      exact Or.inl rfl
  rw [trimParts]
  by_cases led : pieces.head? = some ""
  · obtain ⟨rest, rfl⟩ := List.head?_eq_some_iff.mp led
    simp only [if_pos led, List.tail_cons, List.mem_cons, List.cons.injEq, true_and]
    rcases behind rest with whole | cut
    · exact Or.inl whole
    · exact Or.inr (Or.inr (Or.inl cut))
  · simp only [if_neg led]
    rcases behind pieces with whole | cut
    · exact List.mem_cons_of_mem _ (whole ▸ List.mem_cons_self)
    · refine List.mem_cons_of_mem _ (List.mem_cons_of_mem _ (List.mem_cons_of_mem _ ?_))
      exact List.mem_singleton.mpr cut

theorem trim_parts_eq_iff (pieces parts : List String) (solid : "" ∉ parts) :
    trimParts pieces = parts ↔ pieces ∈ ["" :: parts, parts, "" :: (parts ++ [""]), parts ++ [""]] := by
  constructor
  · rintro rfl
    exact pieces_of_trim_parts pieces
  · have led : parts.head? ≠ some "" := fun first => solid (List.mem_of_head? first)
    have ended : parts.getLast? ≠ some "" := fun last => solid (List.mem_of_getLast? last)
    simp only [List.mem_cons, List.not_mem_nil, or_false]
    rintro (rfl | rfl | rfl | rfl)
    · simp [trimParts, ended]
    · simp [trimParts, led, ended]
    · simp [trimParts]
    · cases parts with
      | nil => rfl
      | cons part rest =>
        have first : (part :: rest ++ [""]).head? ≠ some "" := led
        simp only [trimParts, if_neg first, List.getLast?_concat, if_true, List.dropLast_concat]

theorem split_path_eq_iff (path : String) (parts : List String) (solid : ∀ part ∈ parts, Converter.isPart part.toList = true) :
    splitPath path = parts ↔
      path ∈ ["/" ++ Text.joinText '/' parts, Text.joinText '/' parts] ++
        if parts.isEmpty then [] else ["/" ++ Text.joinText '/' parts ++ "/", Text.joinText '/' parts ++ "/"] := by
  have filled : "" ∉ parts := fun member => ((Converter.is_part_iff "").mp (solid "" member)).1 rfl
  have clean : ∀ part ∈ parts, '/' ∉ part.toList := fun part member => ((Converter.is_part_iff part).mp (solid part member)).2
  have slash : '/'.toString = "/" := rfl
  rw [splitPath, trim_parts_eq_iff _ _ filled]
  cases parts with
  | nil =>
    have never := Text.split_text_ne_nil '/' path
    have options : Text.splitText '/' path ∈ [[""], [], ["", ""], [""]] ↔ Text.splitText '/' path ∈ [["", ""], [""]] := by
      simp only [List.mem_cons, List.not_mem_nil, or_false, never, false_or]
      exact ⟨fun either => either.elim Or.inr id, fun either => Or.inr either⟩
    rw [List.nil_append, options, Text.split_text_mem_iff '/' path _ (by simp) (by simp)]
    rfl
  | cons part rest =>
    have some : part :: rest ≠ [] := List.cons_ne_nil part rest
    rw [Text.split_text_mem_iff '/' path _ (by simp) ?_]
    · simp only [List.map_cons, List.map_nil, Text.join_text_cons '/' "" (part :: rest) some,
        Text.join_text_append '/' (part :: rest) [""] some (by simp),
        Text.join_text_cons '/' "" (part :: rest ++ [""]) (by simp), Text.join_text_single, slash,
        String.empty_append, String.append_empty, String.append_assoc, List.isEmpty_cons]
      rfl
    · intro pieces member piece inside
      have known : piece = "" ∨ piece ∈ part :: rest := by
        simp only [List.mem_cons, List.not_mem_nil, or_false] at member
        rcases member with rfl | rfl | rfl | rfl <;> grind
      rcases known with rfl | old
      · simp
      · exact clean piece old

namespace Segment

theorem fill_eq_join (values : Assignment) (segment : Segment) : Text.joinText '/' (segment.parts values) = segment.fill values := by
  cases segment with
  | literal text => exact Text.join_text_single '/' text
  | placeholder name converter =>
    rw [parts, fill]
    cases converter.multiSegment with
    | true => exact Text.join_split_text '/' (values name)
    | false => exact Text.join_text_single '/' (values name)

theorem parts_ne_nil (values : Assignment) (segment : Segment) : segment.parts values ≠ [] := by
  cases segment with
  | literal text => simp [parts]
  | placeholder name converter =>
    rw [parts]
    split
    · exact Text.split_text_ne_nil '/' (values name)
    · simp

-- What an admitted text is read as are parts, several only where all that is left is taken.
theorem parts_solid (values : Assignment) (segment : Segment) (admits : segment.Admits values)
    (literal : ∀ text, segment = .literal text → Converter.isPart text.toList = true) (part : String)
    (member : part ∈ segment.parts values) : Converter.isPart part.toList = true := by
  cases segment with
  | literal text =>
    obtain rfl := List.mem_singleton.mp member
    exact literal part rfl
  | placeholder name converter =>
    have accepted : converter.accepts (values name) = true := admits
    rw [parts] at member
    by_cases greedy : converter.multiSegment = true
    · rw [if_pos greedy] at member
      obtain rfl : converter = .path := by simpa [Converter.multiSegment] using greedy
      obtain ⟨piece, inside, rfl⟩ := List.mem_map.mp member
      simpa using List.all_eq_true.mp accepted piece inside
    · rw [if_neg greedy] at member
      obtain rfl := List.mem_singleton.mp member
      exact converter.accepts_part (values name) accepted (by simpa using greedy)

end Segment

namespace Rule

theorem path_eq_join (rule : Rule) (values : Assignment) :
    rule.path values = Text.joinText '/' (rule.segments.flatMap (Segment.parts values)) := by
  rw [Text.join_text_flat_map '/' _ _ fun segment _ => segment.parts_ne_nil values, path]
  simp only [Segment.fill_eq_join]

-- A compiled rule aligns with the parts of the paths that it spells, and of no others.
theorem aligns_iff_spelled (text : String) (rule : Rule) (compiled : compile text = .ok rule) (values : Assignment) (path : String) :
    rule.Aligns values (splitPath path) ↔ rule.Admits values ∧ path ∈ rule.spellings values := by
  have empty : (rule.segments.flatMap (Segment.parts values)).isEmpty = rule.segments.isEmpty := by
    cases rule.segments with
    | nil => rfl
    | cons segment rest => simp [Segment.parts_ne_nil]
  have spelled : rule.Admits values →
      (splitPath path = rule.segments.flatMap (Segment.parts values) ↔ path ∈ rule.spellings values) := by
    intro admits
    rw [split_path_eq_iff, spellings, path_eq_join, empty]
    intro part member
    obtain ⟨segment, inside, held⟩ := List.mem_flatMap.mp member
    refine segment.parts_solid values (admits segment inside) (fun literal same => ?_) part held
    have whole := compile_literal text rule compiled literal (same ▸ inside)
    exact (Converter.is_part_iff literal).mpr ⟨whole.filled, whole.slashless⟩
  exact ⟨fun aligned => ⟨aligned.admitted, (spelled aligned.admitted).mp aligned.spelled⟩,
    fun both => ⟨both.1, (spelled both.1).mpr both.2⟩⟩

end Rule

namespace Table

variable {ρ : Type}

-- The route that answers a path, with what it captures.
def answering? (table : Table ρ) (path : String) : Option (Captures × Route ρ) :=
  table.findSome? fun route => (route.rule.match? (splitPath path)).map fun captures => (captures, route)

theorem resolve_eq_answering (table : Table ρ) (path : String) :
    table.resolve path = (table.answering? path).map fun hit => (hit.1, hit.2.resource) := by
  rw [resolve, answering?, List.map_findSome?]
  refine congrArg (fun f => table.findSome? f) (funext fun route => ?_)
  exact (Option.map_map (fun hit : Captures × Route ρ => (hit.1, hit.2.resource)) (fun captures => (captures, route)) _).symm

theorem answering_parted (table : Table ρ) (path : String) (captures : Captures) (route : Route ρ) :
    table.answering? path = some (captures, route) ↔ ∃ before after, table = before ++ route :: after ∧
      route.rule.match? (splitPath path) = some captures ∧ ∀ other ∈ before, other.rule.match? (splitPath path) = none := by
  rw [answering?, List.findSome?_eq_some_iff]
  constructor
  · rintro ⟨before, found, after, rfl, hit, missed⟩
    simp only [Option.map_eq_some_iff, Prod.mk.injEq] at hit
    obtain ⟨_, matched, rfl, rfl⟩ := hit
    exact ⟨before, after, rfl, matched, fun other inside => Option.map_eq_none_iff.mp (missed other inside)⟩
  · rintro ⟨before, after, rfl, matched, missed⟩
    exact ⟨before, route, after, rfl, by rw [matched]; rfl, fun other inside => Option.map_eq_none_iff.mpr (missed other inside)⟩

theorem answering_eq_some_iff (table : Table ρ) (path : String) (captures : Captures) (route : Route ρ) (valid : Valid table) :
    table.answering? path = some (captures, route) ↔ route ∈ table ∧ route.rule.match? (splitPath path) = some captures ∧
      ∀ other ∈ table, other.index < route.index → other.rule.match? (splitPath path) = none := by
  rw [answering_parted]
  constructor
  · rintro ⟨before, after, rfl, matched, missed⟩
    refine ⟨by simp, matched, fun other inside lower => ?_⟩
    exact missed other ((mem_before_iff before after route other valid.placed).mpr ⟨inside, lower⟩)
  · rintro ⟨member, matched, earlier⟩
    obtain ⟨before, after, rfl⟩ := List.append_of_mem member
    refine ⟨before, after, rfl, matched, fun other inside => ?_⟩
    obtain ⟨stored, lower⟩ := (mem_before_iff before after route other valid.placed).mp inside
    exact earlier other stored lower

end Table

-- The rule of a route is what its text compiles to.
theorem Table.registered_rule {ρ : Type} (table : Table ρ) (text : String) (rule : Rule) (route : Route ρ) (valid : Valid table)
    (compiled : Rule.compile text = .ok rule) (registered : table.get? text = some route) : route ∈ table ∧ route.rule = rule := by
  have member := List.mem_of_find?_eq_some registered
  have named : route.rule.text = text := by simpa using List.find?_some registered
  have stored := valid.compiled route member
  rw [named, compiled] at stored
  exact ⟨member, (Except.ok.inj stored).symm⟩

theorem spelled_path_resolves (objects : Objects) (steps : List RouterStep) (text : String) (rule : Rule) (route : Route Resource)
    (compiled : Rule.compile text = .ok rule)
    (registered : ((RouterState.new objects).run steps).router.table.get? text = some route) :
    let router := ((RouterState.new objects).run steps).router
    (∀ values, rule.Admits values → ∀ path ∈ rule.spellings values,
      (∀ other ∈ router.table, other.index < route.index → other.rule.match? (splitPath path) = none) →
      router.table.answering? path = some (rule.readings values, route) ∧
      router.resolve path = some (rule.readings values, route.resource)) ∧
    (∀ path captures, router.table.answering? path = some (captures, route) →
      ∃ values, rule.Admits values ∧ captures = rule.readings values ∧ path ∈ rule.spellings values) ∧
    (∀ path, router.resolve path = (router.table.answering? path).map fun hit => (hit.1, hit.2.resource)) := by
  intro router
  have valid : Table.Valid router.table :=
    (RouterState.run_valid (RouterState.new objects) steps (RouterState.new_valid objects)).table
  obtain ⟨member, rfl⟩ := router.table.registered_rule text rule route valid compiled registered
  have formed := Rule.compile_well_formed text route.rule compiled
  have links := router.table.resolve_eq_answering
  refine ⟨fun values admits path spelled earlier => ?_, fun path captures answered => ?_, links⟩
  · have aligned := (route.rule.aligns_iff_spelled text compiled values path).mpr ⟨admits, spelled⟩
    have matched := (Rule.match_eq_some_iff route.rule _ _ formed (split_path_clean path)).mpr ⟨values, aligned, rfl⟩
    have answered := (router.table.answering_eq_some_iff path _ route valid).mpr ⟨member, matched, earlier⟩
    refine ⟨answered, (links path).trans ?_⟩
    rw [answered]
    rfl
  · obtain ⟨_, matched, _⟩ := (router.table.answering_eq_some_iff path captures route valid).mp answered
    obtain ⟨values, aligned, rfl⟩ := (Rule.match_eq_some_iff route.rule _ _ formed (split_path_clean path)).mp matched
    obtain ⟨admits, spelled⟩ := (route.rule.aligns_iff_spelled text compiled values path).mp aligned
    exact ⟨values, admits, rfl, spelled⟩

-- Pages have numbers, and everything else that is asked for is a file.
def files : ResourceClass := { name := "Files" }

def fileSteps : List RouterStep :=
  [.add "/<int:page>/<part>" (.fresh { name := "Pages" }), .add "/files/<path:file>/" (.fresh files)]

def fileRule : Rule := { text := "/files/<path:file>/", segments := [.literal "files", .placeholder "file" .path] }

def fileRoute : Route Resource := ⟨fileRule, .object files 0, 1⟩

theorem spelled_file_resolves :
    let router := ((RouterState.new {}).run fileSteps).router
    Rule.compile "/files/<path:file>/" = .ok fileRule ∧ router.table.get? "/files/<path:file>/" = some fileRoute ∧
      router.resolve "files/a/b/" = some ([("file", "a/b")], .object files 0) := by
  intro router
  have compiled : Rule.compile "/files/<path:file>/" = .ok fileRule := rfl
  have registered : router.table.get? "/files/<path:file>/" = some fileRoute := rfl
  refine ⟨compiled, registered, ?_⟩
  obtain ⟨spelled, _⟩ := spelled_path_resolves {} fileSteps "/files/<path:file>/" fileRule fileRoute compiled registered
  refine (spelled (fun _ => "a/b") ?_ "files/a/b/" (by decide) ?_).2
  · intro segment member
    rcases List.mem_cons.mp member with rfl | last
    · trivial
    · obtain rfl := List.mem_singleton.mp last
      exact (by decide : Converter.path.accepts "a/b" = true)
  · intro other member lower
    rcases List.mem_cons.mp (member : other ∈ [_, _]) with rfl | last
    · rfl
    · obtain rfl := List.mem_singleton.mp last
      exact absurd lower (Nat.lt_irrefl 1)

end RestDispatch
