import RestDispatch.Proofs.Route.Growth
import Mathlib.Data.List.Find
import Mathlib.Data.List.Nodup

set_option autoImplicit false

/-!
Registrations in another order. An entry adds its rule, or nothing, whatever was registered before it. Main statement:
where no path is matched by two of the rules, a path is answered by the same rule with the same captures in whatever
order they were registered; and rules of which two segments at one place clash have no path in common.
-/
namespace RestDispatch

namespace Converter

theorem not_mem_of_all (p : Char → Bool) (c : Char) (cs : List Char) (apart : p c = false) (passed : cs.all p = true) : c ∉ cs := by
  intro member
  have holds := List.all_eq_true.mp passed c member
  rw [apart] at holds
  cases holds

theorem float_point (text : String) (accepted : float.accepts text = true) : '.' ∈ text.toList := by
  simp only [accepts] at accepted
  cases cut : Text.cut? '.' text.toList with
  | none => simp [cut] at accepted
  | some halves =>
    rw [Text.cut_eq_some '.' _ halves.1 halves.2 cut]
    simp

theorem str_pointless (text : String) (accepted : str.accepts text = true) : '.' ∉ text.toList :=
  not_mem_of_all isWordChar '.' _ (by decide) (Bool.and_eq_true_iff.mp accepted).2

theorem int_pointless (text : String) (accepted : int.accepts text = true) : '.' ∉ text.toList :=
  not_mem_of_all Char.isDigit '.' _ (by decide) (Bool.and_eq_true_iff.mp accepted).2

end Converter

namespace Segment

-- Segments of which no part of a path is both.
inductive Clash : Segment → Segment → Prop
  | literals (text other : String) (different : text ≠ other) : Clash (.literal text) (.literal other)
  | word (name other : String) : Clash (.placeholder name .str) (.placeholder other .float)
  | number (name other : String) : Clash (.placeholder name .int) (.placeholder other .float)
  | swapped (left right : Segment) (clash : Clash left right) : Clash right left

theorem clash_modest (left right : Segment) (clash : Clash left right) : left.takesRest = false ∧ right.takesRest = false := by
  induction clash with
  | literals text other different => exact ⟨rfl, rfl⟩
  | word name other => exact ⟨rfl, rfl⟩
  | number name other => exact ⟨rfl, rfl⟩
  | swapped left right clash ih => exact ih.symm

theorem clash_fill (v w : Assignment) (left right : Segment) (clash : Clash left right) (here : left.Admits v)
    (there : right.Admits w) : left.fill v ≠ right.fill w := by
  induction clash generalizing v w with
  | literals text other different => exact different
  | word name other =>
    intro (same : v name = w other)
    exact Converter.str_pointless (v name) here (same ▸ Converter.float_point (w other) there)
  | number name other =>
    intro (same : v name = w other)
    exact Converter.int_pointless (v name) here (same ▸ Converter.float_point (w other) there)
  | swapped left right clash ih => exact (ih w v there here).symm

theorem parts_modest (values : Assignment) (segment : Segment) (modest : segment.takesRest = false) :
    segment.parts values = [segment.fill values] := by
  cases segment with
  | literal text => rfl
  | placeholder name converter =>
    have single : converter.multiSegment = false := modest
    simp only [parts, single, Bool.false_eq_true, if_false, fill]

-- As only the last segment may take several parts, a segment that takes one has it at its own place.
theorem aligned_at (values : Assignment) (segments : List Segment) (found : List String) (place : Nat) (segment : Segment)
    (formed : WellFormed segments) (aligned : Aligned values segments found) (here : segments[place]? = some segment)
    (modest : segment.takesRest = false) : found[place]? = some (segment.fill values) := by
  induction segments generalizing found place with
  | nil => simp at here
  | cons first rest ih =>
    obtain ⟨_, after, rfl, behind⟩ := (aligned_cons values first rest found).mp aligned
    cases place with
    | zero =>
      obtain rfl : first = segment := by simpa using here
      rw [parts_modest values first modest]
      rfl
    | succ place =>
      have later : rest[place]? = some segment := by simpa using here
      have single : first.takesRest = false := by
        rw [← Bool.not_eq_true]
        intro greedy
        rw [well_formed_last first rest formed greedy] at later
        simp at later
      rw [parts_modest values first single]
      exact ih after place (well_formed_tail first rest formed) behind later

end Segment

namespace Rule

-- No path is matched by both.
def Apart (rule other : Rule) : Prop :=
  ∀ path v w, ¬ (rule.Aligns v (splitPath path) ∧ other.Aligns w (splitPath path))

def Clashes (rule other : Rule) : Prop :=
  ∃ (place : Nat) (left right : Segment), rule.segments[place]? = some left ∧ other.segments[place]? = some right ∧ Segment.Clash left right

theorem apart_of_clashes (rule other : Rule) (formed : Segment.WellFormed rule.segments)
    (otherFormed : Segment.WellFormed other.segments) (clashes : rule.Clashes other) : rule.Apart other := by
  obtain ⟨place, left, right, here, there, clash⟩ := clashes
  rintro path v w ⟨aligned, otherAligned⟩
  obtain ⟨leftModest, rightModest⟩ := Segment.clash_modest left right clash
  have first := Segment.aligned_at v rule.segments _ place left formed aligned here leftModest
  have second := Segment.aligned_at w other.segments _ place right otherFormed otherAligned there rightModest
  have same : left.fill v = right.fill w := Option.some.inj (first.symm.trans second)
  have leftAdmits := aligned.admitted left (List.mem_of_getElem? here)
  have rightAdmits := otherAligned.admitted right (List.mem_of_getElem? there)
  exact Segment.clash_fill v w left right clash leftAdmits rightAdmits same

theorem apart_unmatched (rule other : Rule) (formed : Segment.WellFormed rule.segments)
    (otherFormed : Segment.WellFormed other.segments) (apart : rule.Apart other) (path : String)
    (matched : (rule.match? (splitPath path)).isSome = true) : (other.match? (splitPath path)).isSome = false := by
  have clean := split_path_clean path
  obtain ⟨captures, hit⟩ := Option.isSome_iff_exists.mp matched
  obtain ⟨v, aligned, _⟩ := (match_eq_some_iff rule _ captures formed clean).mp hit
  have missed : other.match? (splitPath path) = none :=
    (match_eq_none_iff other _ otherFormed clean).mpr fun w otherAligned => apart path v w ⟨aligned, otherAligned⟩
  rw [missed]
  rfl

end Rule

namespace Table

variable {ρ : Type}

-- The rule that answers a path is the first that matches it.
theorem answering_rule (table : Table ρ) (path : String) :
    (table.answering? path).map (fun hit => hit.2.rule) =
      (table.map (·.rule)).find? fun rule => (rule.match? (splitPath path)).isSome := by
  induction table with
  | nil => rfl
  | cons route rest ih =>
    rw [answering?] at ih ⊢
    rw [List.findSome?_cons, List.map_cons, List.find?_cons]
    cases matched : route.rule.match? (splitPath path) with
    | none => simpa [matched] using ih
    | some captures => simp

theorem answering_matched (table : Table ρ) (path : String) (captures : Captures) (route : Route ρ)
    (answered : table.answering? path = some (captures, route)) :
    route ∈ table ∧ route.rule.match? (splitPath path) = some captures := by
  obtain ⟨found, member, matched⟩ := List.exists_of_findSome?_eq_some answered
  obtain ⟨_, hit, same⟩ := Option.map_eq_some_iff.mp matched
  obtain ⟨rfl, rfl⟩ := Prod.mk.inj same
  exact ⟨member, hit⟩

end Table

-- Whether a route to a target can be made: a class may refuse to be constructed.
def Target.stands : Target → Bool
  | .existing _ => true
  | .fresh cls => cls.refusal.isNone

theorem Objects.realize_stands (objects : Objects) (target : Target) :
    target.stands = true ↔ ∃ resource, (objects.realize target).1 = .ok resource := by
  cases target with
  | existing resource => simp [Target.stands, realize]
  | fresh cls =>
    simp only [Target.stands, realize, construct]
    cases cls.refusal with
    | none => simp
    | some fault => simp

-- The rule that an entry adds where its text is new.
def addedRule? (entry : String × Target) : Option Rule :=
  if entry.2.stands then (Rule.compile entry.1).toOption else none

theorem added_rule_some (entry : String × Target) (rule : Rule) (added : addedRule? entry = some rule) :
    Rule.compile entry.1 = .ok rule := by
  obtain ⟨_, compiled⟩ := Option.ite_none_right_eq_some.mp added
  cases result : Rule.compile entry.1 with
  | error e => simp [result, Except.toOption] at compiled
  | ok other =>
    rw [result] at compiled
    rw [Option.some.inj compiled]

theorem Router.add_rules (router : Router) (text : String) (target : Target) (fresh : router.table.contains text = false) :
    (router.add text target).2.table.map (·.rule) = router.table.map (·.rule) ++ (addedRule? (text, target)).toList := by
  rw [add, prepare, addedRule?]
  cases compiled : Rule.compile text with
  | error e => simp [Except.toOption]
  | ok rule =>
    have textual := Rule.compile_text text rule compiled
    have stands := router.objects.realize_stands target
    simp only [fresh, Bool.false_eq_true, if_false]
    cases realized : router.objects.realize target with
    | mk result objects =>
      rw [realized] at stands
      cases result with
      | error e =>
        have refused : target.stands = false := by
          rw [← Bool.not_eq_true, stands]
          simp
        simp [refused]
      | ok resource =>
        have done : target.stands = true := stands.mpr ⟨resource, rfl⟩
        rcases insert_cases { router with objects } ⟨rule, resource, router.table.length⟩ with ⟨taken, _⟩ | ⟨_, stored⟩
        · simp [textual, fresh] at taken
        · simp [stored, done, Except.toOption]

namespace RouterState

def additions (entries : List (String × Target)) : List RouterStep := entries.map fun entry => .add entry.1 entry.2

theorem run_additions_cons (state : RouterState) (entry : String × Target) (rest : List (String × Target)) :
    state.run (additions (entry :: rest)) = (state.step (.add entry.1 entry.2)).run (additions rest) := rfl

theorem run_additions_rules (state : RouterState) (entries : List (String × Target)) (distinct : (entries.map Prod.fst).Nodup)
    (fresh : ∀ entry ∈ entries, state.router.table.contains entry.1 = false) :
    (state.run (additions entries)).router.table.map (·.rule) =
      state.router.table.map (·.rule) ++ entries.filterMap addedRule? := by
  induction entries generalizing state with
  | nil => exact (List.append_nil _).symm
  | cons entry rest ih =>
    obtain ⟨unused, later⟩ := List.nodup_cons.mp distinct
    have first : (state.step (.add entry.1 entry.2)).router.table.map (·.rule) =
        state.router.table.map (·.rule) ++ (addedRule? entry).toList :=
      state.router.add_rules entry.1 entry.2 (fresh entry List.mem_cons_self)
    have still : ∀ other ∈ rest, (state.step (.add entry.1 entry.2)).router.table.contains other.1 = false := by
      intro other member
      have absent := fresh other (List.mem_cons_of_mem entry member)
      rw [← Bool.not_eq_true, Table.contains_iff, List.mem_map] at absent ⊢
      rintro ⟨route, stored, named⟩
      have inside : route.rule ∈ state.router.table.map (·.rule) ++ (addedRule? entry).toList :=
        first ▸ List.mem_map_of_mem stored
      rcases List.mem_append.mp inside with before | last
      · obtain ⟨old, stored, same⟩ := List.mem_map.mp before
        exact absent ⟨old, stored, same ▸ named⟩
      · have compiled := added_rule_some entry route.rule (Option.mem_toList.mp last)
        have textual := Rule.compile_text entry.1 route.rule compiled
        exact unused (List.mem_map.mpr ⟨other, member, named.symm.trans textual⟩)
    rw [run_additions_cons, ih _ later still, first, List.append_assoc]
    cases added : addedRule? entry <;> simp [added]

theorem run_additions_entered (state : RouterState) (entries : List (String × Target)) (route : Route Resource)
    (stored : route ∈ (state.run (additions entries)).router.table) :
    route ∈ state.router.table ∨ ∃ entry ∈ entries, route.Enters entry := by
  induction entries generalizing state with
  | nil => exact Or.inl stored
  | cons entry rest ih =>
    rcases ih (state.step (.add entry.1 entry.2)) stored with before | ⟨other, member, enters⟩
    · rcases Router.add_cases state.router entry.1 entry.2 with ⟨_, _, same⟩ | ⟨added, _, longer, enters⟩
      · exact Or.inl (same ▸ before)
      · rcases List.mem_append.mp (longer ▸ before) with old | last
        · exact Or.inl old
        · exact Or.inr ⟨entry, List.mem_cons_self, List.mem_singleton.mp last ▸ enters⟩
    · exact Or.inr ⟨other, List.mem_cons_of_mem entry member, enters⟩

-- Of the entries no two have rules that match the same path.
def Separate (entries : List (String × Target)) : Prop :=
  ∀ entry ∈ entries, ∀ other ∈ entries, entry.1 ≠ other.1 → ∀ rule otherRule,
    Rule.compile entry.1 = .ok rule → Rule.compile other.1 = .ok otherRule → rule.Apart otherRule

theorem added_rules_single (entries : List (String × Target)) (separate : Separate entries) (path : String) :
    {rule ∈ entries.filterMap addedRule? | (rule.match? (splitPath path)).isSome = true}.Subsingleton := by
  rintro rule ⟨inside, matched⟩ other ⟨otherInside, otherMatched⟩
  obtain ⟨entry, member, added⟩ := List.mem_filterMap.mp inside
  obtain ⟨otherEntry, otherMember, otherAdded⟩ := List.mem_filterMap.mp otherInside
  have compiled := added_rule_some entry rule added
  have otherCompiled := added_rule_some otherEntry other otherAdded
  by_cases same : entry.1 = otherEntry.1
  · rw [same, otherCompiled] at compiled
    exact (Except.ok.inj compiled).symm
  · have apart := separate entry member otherEntry otherMember same rule other compiled otherCompiled
    have missed := rule.apart_unmatched other (Rule.compile_well_formed _ rule compiled)
      (Rule.compile_well_formed _ other otherCompiled) apart path matched
    rw [missed] at otherMatched
    cases otherMatched

-- Whatever was constructed before, the same rule answers.
theorem answering_rule_reordered (objects others : Objects) (entries reordered : List (String × Target))
    (perm : entries.Perm reordered) (distinct : (entries.map Prod.fst).Nodup) (separate : Separate entries) (path : String) :
    (((new objects).run (additions entries)).router.table.answering? path).map (fun hit => hit.2.rule) =
      (((new others).run (additions reordered)).router.table.answering? path).map (fun hit => hit.2.rule) := by
  have otherDistinct : (reordered.map Prod.fst).Nodup := (perm.map Prod.fst).nodup_iff.mp distinct
  have rules := run_additions_rules (new objects) entries distinct fun _ _ => rfl
  have otherRules := run_additions_rules (new others) reordered otherDistinct fun _ _ => rfl
  rw [Table.answering_rule, Table.answering_rule, rules, otherRules]
  exact List.find?_eq_find?_of_perm (perm.filterMap addedRule?) (added_rules_single entries separate path)

-- A route knows the entry from which it is by its rule.
theorem entry_of_rule (entries : List (String × Target)) (distinct : (entries.map Prod.fst).Nodup) (entry other : String × Target)
    (member : entry ∈ entries) (otherMember : other ∈ entries) (route otherRoute : Route Resource) (enters : route.Enters entry)
    (otherEnters : otherRoute.Enters other) (same : route.rule = otherRoute.rule) : other = entry := by
  have text := Rule.compile_text entry.1 route.rule enters.compiled
  have otherText := Rule.compile_text other.1 otherRoute.rule otherEnters.compiled
  exact List.inj_on_of_nodup_map distinct otherMember member (by rw [← otherText, ← same, text])

theorem order_irrelevant_unless_overlapping :
    (∀ (objects others : Objects) (entries reordered : List (String × Target)), entries.Perm reordered →
      (entries.map Prod.fst).Nodup → Separate entries → ∀ path,
      let router := ((new objects).run (additions entries)).router
      let second := ((new others).run (additions reordered)).router
      (router.resolve path = none ∧ second.resolve path = none) ∨
      ∃ entry ∈ entries, ∃ captures route otherRoute,
        router.table.answering? path = some (captures, route) ∧ router.resolve path = some (captures, route.resource) ∧
        second.table.answering? path = some (captures, otherRoute) ∧ second.resolve path = some (captures, otherRoute.resource) ∧
        route.rule = otherRoute.rule ∧ route.Enters entry ∧ otherRoute.Enters entry) ∧
    (∀ text otherText rule other, Rule.compile text = .ok rule → Rule.compile otherText = .ok other → rule.Clashes other →
      rule.Apart other) := by
  constructor
  · intro objects others entries reordered perm distinct separate path router second
    have same : (router.table.answering? path).map (fun hit => hit.2.rule) =
        (second.table.answering? path).map (fun hit => hit.2.rule) :=
      answering_rule_reordered objects others entries reordered perm distinct separate path
    have links := router.table.resolve_eq_answering path
    have otherLinks := second.table.resolve_eq_answering path
    cases answered : router.table.answering? path with
    | none =>
      rw [answered] at same links
      have unanswered : second.table.answering? path = none := Option.map_eq_none_iff.mp same.symm
      rw [unanswered] at otherLinks
      exact Or.inl ⟨links, otherLinks⟩
    | some hit =>
      obtain ⟨captures, route⟩ := hit
      rw [answered] at same links
      obtain ⟨⟨otherCaptures, otherRoute⟩, otherAnswered, ruled⟩ := Option.map_eq_some_iff.mp same.symm
      rw [otherAnswered] at otherLinks
      obtain ⟨stored, matched⟩ := router.table.answering_matched path captures route answered
      obtain ⟨otherStored, otherMatched⟩ := second.table.answering_matched path otherCaptures otherRoute otherAnswered
      have ruled : otherRoute.rule = route.rule := ruled
      obtain ⟨entry, member, enters⟩ := (run_additions_entered (new objects) entries route stored).resolve_left (by simp [new])
      obtain ⟨other, otherMember, otherEnters⟩ :=
        (run_additions_entered (new others) reordered otherRoute otherStored).resolve_left (by simp [new])
      obtain rfl := entry_of_rule entries distinct entry other member (perm.mem_iff.mpr otherMember) route otherRoute enters
        otherEnters ruled.symm
      obtain rfl : captures = otherCaptures := by
        rw [ruled, matched] at otherMatched
        exact Option.some.inj otherMatched
      exact Or.inr ⟨other, member, captures, route, otherRoute, rfl, links, otherAnswered, otherLinks, ruled.symm, enters, otherEnters⟩
  · intro text otherText rule other compiled otherCompiled clashes
    exact rule.apart_of_clashes other (Rule.compile_well_formed text rule compiled)
      (Rule.compile_well_formed otherText other otherCompiled) clashes

-- Names and prices clash, and each is followed by a placeholder that takes all that is left.
def prices : ResourceClass := { name := "Prices" }

def shop : List (String × Target) :=
  [("/<str:name>/<path:page>", .fresh { name := "Names" }), ("/<float:price>/<path:page>", .fresh prices)]

def namesRule : Rule := { text := "/<str:name>/<path:page>", segments := [.placeholder "name" .str, .placeholder "page" .path] }

def pricesRule : Rule := { text := "/<float:price>/<path:page>", segments := [.placeholder "price" .float, .placeholder "page" .path] }

def pricesRoute (index : Nat) : Route Resource := ⟨pricesRule, .object prices 0, index⟩

theorem shop_order_irrelevant :
    let router := ((new {}).run (additions shop)).router
    let second := ((new {}).run (additions shop.reverse)).router
    shop.Perm shop.reverse ∧ (shop.map Prod.fst).Nodup ∧ Separate shop ∧
      ∃ route otherRoute, router.table.answering? "/2.5/a/b" = some ([("price", "2.5"), ("page", "a/b")], route) ∧
        second.table.answering? "/2.5/a/b" = some ([("price", "2.5"), ("page", "a/b")], otherRoute) ∧
        route.index = 1 ∧ otherRoute.index = 0 ∧ route.rule = otherRoute.rule := by
  intro router second
  have named : Rule.compile "/<str:name>/<path:page>" = .ok namesRule := rfl
  have priced : Rule.compile "/<float:price>/<path:page>" = .ok pricesRule := rfl
  obtain ⟨reorders, clashing⟩ := order_irrelevant_unless_overlapping
  have clash : Segment.Clash (.placeholder "name" .str) (.placeholder "price" .float) := .word "name" "price"
  have separate : Separate shop := by
    intro entry member other otherMember different rule otherRule compiled otherCompiled
    have clashes : rule.Clashes otherRule := by
      rcases List.mem_cons.mp member with rfl | last <;> rcases List.mem_cons.mp otherMember with rfl | otherLast
      · exact absurd rfl different
      · obtain rfl := List.mem_singleton.mp otherLast
        obtain rfl := Except.ok.inj (named.symm.trans compiled)
        obtain rfl := Except.ok.inj (priced.symm.trans otherCompiled)
        exact ⟨0, _, _, rfl, rfl, clash⟩
      · obtain rfl := List.mem_singleton.mp last
        obtain rfl := Except.ok.inj (priced.symm.trans compiled)
        obtain rfl := Except.ok.inj (named.symm.trans otherCompiled)
        exact ⟨0, _, _, rfl, rfl, .swapped _ _ clash⟩
      · obtain rfl := List.mem_singleton.mp last
        obtain rfl := List.mem_singleton.mp otherLast
        exact absurd rfl different
    exact clashing entry.1 other.1 rule otherRule compiled otherCompiled clashes
  have perm : shop.Perm shop.reverse := shop.reverse_perm.symm
  have distinct : (shop.map Prod.fst).Nodup := by decide
  have first : router.table.answering? "/2.5/a/b" = some ([("price", "2.5"), ("page", "a/b")], pricesRoute 1) := rfl
  have last : second.table.answering? "/2.5/a/b" = some ([("price", "2.5"), ("page", "a/b")], pricesRoute 0) := rfl
  have resolved : router.resolve "/2.5/a/b" = some ([("price", "2.5"), ("page", "a/b")], .object prices 0) := rfl
  refine ⟨perm, distinct, separate, pricesRoute 1, pricesRoute 0, first, last, rfl, rfl, ?_⟩
  rcases reorders {} {} shop shop.reverse perm distinct separate "/2.5/a/b" with
    ⟨missed, _⟩ | ⟨_, _, _, route, otherRoute, answered, _, otherAnswered, _, ruled, _⟩
  · cases resolved.symm.trans missed
  · obtain ⟨_, rfl⟩ := Prod.mk.inj (Option.some.inj (first.symm.trans answered))
    obtain ⟨_, rfl⟩ := Prod.mk.inj (Option.some.inj (last.symm.trans otherAnswered))
    exact ruled

end RouterState
end RestDispatch
