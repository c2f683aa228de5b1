import RestDispatch.Proofs.App.Undefined
import RestDispatch.Proofs.CommandLine.Loading
import Mathlib.Data.List.Nodup

set_option autoImplicit false

/-!
Listing the routes of an application. Main statement: in whatever state the application is, its routes are listed in the order
in which they are tried, and a verb is listed with a route exactly if the requests with it that come to the route are not answered
as requests with an undefined method. A response of a handler's own may look like that answer.
-/
namespace RestDispatch

namespace Text

-- A letter that is echoed as it stands: it begins no style and has bytes.
def isPlainChar (c : Char) : Bool := c ≠ escapeChar && (half? c).isNone

def isPlain (text : String) : Bool := text.toList.all isPlainChar

theorem plain_append (a b : String) : isPlain (a ++ b) = (isPlain a && isPlain b) := by
  simp [isPlain]

theorem plain_blanks (count : Nat) : isPlain (String.ofList (List.replicate count ' ')) = true := by
  have blank : isPlainChar ' ' = true := by decide
  rw [isPlain, String.toList_ofList, List.all_eq_true]
  intro c member
  rw [List.eq_of_mem_replicate member, blank]

theorem plain_intercalate (separator : String) (pieces : List String) (plain : isPlain separator = true)
    (each : ∀ piece ∈ pieces, isPlain piece = true) : isPlain (separator.intercalate pieces) = true := by
  induction pieces with
  | nil => rfl
  | cons piece rest ih =>
    obtain ⟨first, later⟩ := List.forall_mem_cons.mp each
    cases rest with
    | nil => simpa using first
    | cons next others => rw [String.intercalate_cons_cons, plain_append, plain_append, first, plain, ih later]; rfl

theorem plain_unescaped (text : String) (plain : isPlain text = true) : escapeChar ∉ text.toList := by
  intro member
  have kept := List.all_eq_true.mp plain escapeChar member
  simp [isPlainChar] at kept

theorem append_plain_half (a b : String) (plain : isPlain b = true) : holdsHalf (a ++ b) = holdsHalf a := by
  have whole : holdsHalf b = false := by
    apply List.any_eq_false.mpr
    intro c member
    have kept := List.all_eq_true.mp plain c member
    simp only [isPlainChar, Bool.and_eq_true, Option.isNone_iff_eq_none] at kept
    simp [kept.2]
  rw [holdsHalf, holdsHalf, String.toList_append, List.any_append, ← holdsHalf, ← holdsHalf, whole, Bool.or_false]

theorem unstyled_unescaped (text : String) (plain : escapeChar ∉ text.toList) : unstyled text = text := by
  rw [unstyled, unstyled_from_of_not_mem _ plain, String.ofList_toList]

-- What begins with a blank is no part of a style before it.
theorem unstyled_before_blank (text gap : String) (begins : gap.toList.head? = some ' ') (plain : isPlain gap = true) :
    unstyled (text ++ gap) = unstyled text ++ gap := by
  obtain ⟨rest, same⟩ := List.head?_eq_some_iff.mp begins
  have unescaped : escapeChar ∉ rest := by
    intro member
    exact plain_unescaped gap plain (same ▸ List.mem_cons_of_mem ' ' member)
  apply String.toList_inj.mp
  rw [unstyled, String.toList_append, same, unstyled_from_blank, unstyled_from_of_not_mem _ unescaped, String.toList_ofList,
    String.toList_append, unstyled, String.toList_ofList, same]

end Text

theorem Verb.name_injective : Function.Injective Verb.name := by
  intro a b same
  have named := a.named_name
  rw [same, b.named_name] at named
  exact (Option.some.inj named).symm

namespace Registry

-- The names that are listed for a resource.
def listed (registry : Registry) (resource : Resource) : List String :=
  ((registry.allowed resource).map Verb.name).mergeSort fun a b => decide (a ≤ b)

theorem listed_serves (registry : Registry) (resource : Resource) (endpoint : Endpoint)
    (present : registry.endpoint? resource = some endpoint) (methods : endpoint.methods = resource.methodTable) :
    resource.Serves (registry.listed resource) := by
  have permuted : (registry.listed resource).Perm ((registry.allowed resource).map Verb.name) := List.mergeSort_perm _ _
  constructor
  case sorted =>
    have ordered : (registry.listed resource).Pairwise (· ≤ ·) := sorted_texts _
    have verbs : registry.allowed resource = resource.methodTable.map Prod.fst := by
      simp only [allowed, present, methods]
    have single : (registry.listed resource).Nodup := by
      rw [permuted.nodup_iff, verbs]
      have different : (resource.methodTable.map Prod.fst).Nodup := resource.method_table_verbs.nodup (by decide)
      exact different.map Verb.name_injective
    refine (ordered.and single).imp fun {a b} both => ?_
    exact Std.lt_of_le_of_ne both.1 both.2
  case served =>
    intro name
    rw [permuted.mem_iff, List.mem_map]
    simp only [registry.allowed_iff resource endpoint _ present methods]
    constructor
    · rintro ⟨verb, ⟨handler, serves⟩, same⟩
      exact ⟨verb, handler, same, serves⟩
    · rintro ⟨verb, handler, same, serves⟩
      exact ⟨verb, ⟨handler, serves⟩, same⟩

end Registry

-- The verbs of a route as they stand in a listing.
def namesText (names : List String) : String := if names.isEmpty then "-" else ", ".intercalate names

theorem names_text_plain (resource : Resource) (names : List String) (serves : resource.Serves names) :
    Text.isPlain (namesText names) = true := by
  rw [namesText]
  split
  · decide
  · refine Text.plain_intercalate ", " names (by decide) fun name member => ?_
    obtain ⟨verb, _, rfl, _⟩ := (serves.served name).mp member
    cases verb <;> decide

theorem verbs_text_eq (app : App) (route : Route Resource) : verbsText app route = namesText (app.registry.listed route.resource) := by
  have filled : (app.registry.listed route.resource).isEmpty = ((app.registry.allowed route.resource).map Verb.name).isEmpty :=
    (List.mergeSort_perm _ _).isEmpty_eq
  simp only [verbsText, namesText, filled]
  rfl

namespace Command

-- What stands behind the rule in a line of a listing.
def lineEnd (blanks : Nat) (names : List String) : String :=
  String.ofList (List.replicate blanks ' ') ++ "  " ++ namesText names ++ "\n"

-- The line of a rule in a listing where all rules take up `width`. The blanks make up for what the rule lacks, whatever is shown of it.
def routeLine (terminal : Bool) (width : Nat) (rule : String) (names : List String) : String :=
  echoed terminal rule ++ lineEnd (width - rule.length) names

theorem padded_line (width : Nat) (rule : String) (names : List String) :
    Launch.padded width rule ++ "  " ++ namesText names ++ "\n" = rule ++ lineEnd (width - rule.length) names := by
  simp only [Launch.padded, lineEnd, String.append_assoc]

theorem line_end_plain (blanks : Nat) (names : List String) (plain : Text.isPlain (namesText names) = true) :
    Text.isPlain (lineEnd blanks names) = true := by
  have fixed : Text.isPlain "  " = true ∧ Text.isPlain "\n" = true := by decide
  simp only [lineEnd, Text.plain_append, Text.plain_blanks, plain, fixed, Bool.and_self]

theorem line_end_begins (blanks : Nat) (names : List String) : (lineEnd blanks names).toList.head? = some ' ' := by
  cases blanks <;> simp [lineEnd, List.replicate_succ]

theorem echoed_unescaped (terminal : Bool) (text : String) (shown : terminal = true ∨ Text.escapeChar ∉ text.toList) :
    echoed terminal text = text := by
  rw [echoed]
  split
  · rfl
  · exact Text.unstyled_unescaped text (shown.resolve_left ‹_›)

theorem echoed_line (terminal : Bool) (width : Nat) (rule : String) (names : List String) (plain : Text.isPlain (namesText names) = true) :
    echoed terminal (rule ++ lineEnd (width - rule.length) names) = routeLine terminal width rule names := by
  rw [routeLine, echoed, echoed]
  split
  · rfl
  · exact Text.unstyled_before_blank rule _ (line_end_begins _ names) (line_end_plain _ names plain)

-- Echoing one text for each item, of which `shown` is what is seen and `half` tells whether it can be written.
theorem echo_all_each {α : Type} (terminal : Bool) (items : List α) (text shown : α → String) (half : α → Bool)
    (whole : ∀ a ∈ items, Text.holdsHalf (text a) = half a) (seen : ∀ a ∈ items, echoed terminal (text a) = shown a) :
    echoAll terminal (items.map text) =
      { exit := if items.any half then .number 1 else .number 0
        stdout := String.join ((items.takeWhile fun a => !half a).map shown) } := by
  induction items with
  | nil => rfl
  | cons a rest ih =>
    obtain ⟨wholeFirst, wholeRest⟩ := List.forall_mem_cons.mp whole
    obtain ⟨seenFirst, seenRest⟩ := List.forall_mem_cons.mp seen
    rw [List.map_cons, echoAll, ih wholeRest seenRest, wholeFirst, seenFirst]
    cases stops : half a <;> simp [stops]

theorem echo_all_served (terminal : Bool) (texts : List String) : (echoAll terminal texts).served = [] := by
  have each := echo_all_each terminal texts id (echoed terminal) Text.holdsHalf (fun _ _ => rfl) fun _ _ => rfl
  rw [List.map_id] at each
  rw [each]

theorem execute_routes (workplace : Workplace) (terminal : Bool) (path target : String) (app : App)
    (loaded : (workplace.load path).result = .ok (target, app)) :
    execute workplace terminal (.routes path) =
      .ok { perform terminal target app (.routes path) with served := (workplace.load path).served } := by
  have alone : (perform terminal target app (.routes path)).served = [] := echo_all_served terminal app.listing
  simp only [execute, Command.target, loaded, Except.map, alone, List.append_nil]

end Command

-- A listing of routes on which `width` is the length of the longest rule. It ends at the first rule that has no bytes.
structure Command.Lists (terminal : Bool) (table : Table Resource) (names : Route Resource → List String) (width : Nat) (ending : Ending) :
    Prop where
  bound : ∀ route ∈ table, route.rule.text.length ≤ width
  attained : ∃ route ∈ table, route.rule.text.length = width
  tried : ∀ path captures route, table.answering? path = some (captures, route) ↔ ∃ before after, table = before ++ route :: after ∧
    route.rule.match? (splitPath path) = some captures ∧ ∀ other ∈ before, other.rule.match? (splitPath path) = none
  shown : ∀ route ∈ table, terminal = true ∨ Text.escapeChar ∉ route.rule.text.toList →
    routeLine terminal width route.rule.text (names route) =
      Launch.padded width route.rule.text ++ "  " ++ namesText (names route) ++ "\n"
  stdout : ending.stdout = String.join ((table.takeWhile fun route => !Text.holdsHalf route.rule.text).map fun route =>
    routeLine terminal width route.rule.text (names route))
  stderr : ending.stderr = ""
  exit : ending.exit = if table.any fun route => Text.holdsHalf route.rule.text then .number 1 else .number 0

namespace App

def width (app : App) : Nat := (app.registry.router.table.map fun route => route.rule.text.length).foldl max 0

theorem width_longest (app : App) (routed : app.registry.router.table ≠ []) :
    (∀ route ∈ app.registry.router.table, route.rule.text.length ≤ app.width) ∧
      ∃ route ∈ app.registry.router.table, route.rule.text.length = app.width := by
  have some : (app.registry.router.table.map fun route => route.rule.text.length) ≠ [] := by simpa using routed
  have longest : app.width = (app.registry.router.table.map fun route => route.rule.text.length).max some := by
    rw [width, List.foldl_max_eq_max some, Nat.zero_max]
  constructor
  · intro route member
    have length : route.rule.text.length ∈ app.registry.router.table.map fun route => route.rule.text.length :=
      List.mem_map_of_mem member
    exact longest ▸ List.le_max_of_mem length
  · obtain ⟨route, member, same⟩ := List.mem_map.mp (List.max_mem some)
    exact ⟨route, member, same.trans longest.symm⟩

theorem listing_lines (app : App) (routed : app.registry.router.table ≠ []) :
    app.listing = app.registry.router.table.map fun route =>
      route.rule.text ++ Command.lineEnd (app.width - route.rule.text.length) (app.registry.listed route.resource) := by
  have filled : app.registry.router.table.isEmpty = false := by simpa using routed
  rw [listing]
  simp only [filled, Bool.false_eq_true, if_false]
  refine List.map_congr_left fun route _ => ?_
  rw [verbs_text_eq, ← Command.padded_line]
  rfl

theorem routes_listed (app : App) (terminal : Bool) (target path : String) (routed : app.registry.router.table ≠ [])
    (serves : ∀ route ∈ app.registry.router.table, route.resource.Serves (app.registry.listed route.resource)) :
    Command.Lists terminal app.registry.router.table (fun route => app.registry.listed route.resource) app.width
      (Command.perform terminal target app (.routes path)) := by
  have plain : ∀ route ∈ app.registry.router.table, Text.isPlain (namesText (app.registry.listed route.resource)) = true :=
    fun route member => names_text_plain route.resource _ (serves route member)
  have performed : Command.perform terminal target app (.routes path) =
      { exit := if app.registry.router.table.any fun route => Text.holdsHalf route.rule.text then .number 1 else .number 0
        stdout := String.join ((app.registry.router.table.takeWhile fun route => !Text.holdsHalf route.rule.text).map fun route =>
          Command.routeLine terminal app.width route.rule.text (app.registry.listed route.resource)) } := by
    rw [Command.perform, app.listing_lines routed]
    refine Command.echo_all_each terminal _ _ _ _ (fun route member => ?_) fun route member => ?_
    · exact Text.append_plain_half _ _ (Command.line_end_plain _ _ (plain route member))
    · exact Command.echoed_line terminal app.width _ _ (plain route member)
  obtain ⟨bound, attained⟩ := app.width_longest routed
  constructor
  case bound => exact bound
  case attained => exact attained
  case tried => exact app.registry.router.table.answering_parted
  case shown =>
    intro route _ unescaped
    rw [Command.routeLine, Command.echoed_unescaped terminal _ unescaped, Command.padded_line]
  all_goals rw [performed]

end App

namespace AppState

-- What is listed of an application in use, and what becomes of the requests to it.
theorem listing_tells_dispatch (strict debug : Bool) (started : List (String × Nat)) (steps : List AppStep)
    (guarded : ∀ step ∈ steps, step.Guarded) (state : AppState) (reached : ((new strict debug started).run steps).2 = state)
    (workplace : Workplace) (terminal : Bool) (path target : String) (loaded : (workplace.load path).result = .ok (target, state.app))
    (routed : state.registry.router.table ≠ []) (something : ∀ route ∈ state.registry.router.table, route.resource.isNothing = false) :
    ∃ names width ending, Command.execute workplace terminal (.routes path) = .ok ending ∧ ending.served = (workplace.load path).served ∧
      Command.Lists terminal state.registry.router.table names width ending ∧
      ∀ route ∈ state.registry.router.table, route.resource.Serves (names route) ∧
        ∀ scope channel asked method captures, scope.kind = "http" → scope.path = some asked → scope.method = some method →
          state.registry.router.table.answering? asked = some (captures, route) →
            Answer.Told (state.registry.answer scope channel).1 (state.app.dispatcher.handle scope channel).2 (names route) method ∧
              ((∀ step ∈ steps, step.Plain) → (state.app.call scope channel).2 = (state.app.dispatcher.handle scope channel).2) := by
  have sound : Sound state := reached ▸ run_sound _ steps guarded (new_sound strict debug started)
  have serves : ∀ route ∈ state.registry.router.table, route.resource.Serves (state.registry.listed route.resource) := by
    intro route member
    obtain ⟨endpoint, present, methods⟩ := sound.registry.served route member
    exact state.registry.listed_serves route.resource endpoint present methods
  have lists := state.app.routes_listed terminal target path routed serves
  refine ⟨_, _, _, Command.execute_routes workplace terminal path target state.app loaded, rfl, { lists with }, fun route member => ?_⟩
  refine ⟨serves route member, fun scope channel asked method captures http asks named answering => ?_⟩
  have handled : (state.app.dispatcher.handle scope channel).2 =
      Dispatcher.send state.app.dispatcher.debug (state.registry.answer scope channel).1 := by
    simp only [Dispatcher.handle, http, ne_eq, not_true_eq_false, if_false]
    rfl
  rw [handled]
  constructor
  · exact state.registry.answer_told state.made _ scope channel asked method sound.registry captures route answering asks named
      (something route member) _ (serves route member)
  · intro plain
    have bare : App.Bare debug state.app := reached ▸ run_bare debug _ steps plain ⟨rfl, rfl, Or.inl rfl⟩
    rw [(App.call_bare debug state.app scope channel bare).2 http, bare.debug]
    rfl

-- An application in a file of the current directory.
def published (app : App) : Workplace := { disk := { files := [(["main.py"], { result := .ok [("app", some app)] })] } }

theorem published_loaded (app : App) : (published app).load "main.py" = { result := .ok ("main:app", app) } := by
  rfl

-- Books that can be had and deleted, and a number.
def booksPage : ResourceClass :=
  let handler : Handler :=
    { label := "Books"
      signature := { parameters := [] }
      run := fun situation => ⟨.ok (.content (.data .null)), situation.items⟩ }
  { name := "Books", methods := [("get", handler), ("delete", handler)] }

def booksSteps : List AppStep :=
  [.setup (.hold (.int 5)), .setup (.add "/books/<int:id>" (.fresh booksPage) []), .setup (.add "/five" (.made 0) [])]

def booksScope (method : String) : Scope := { method := some method, path := some "/books/7" }

theorem books_listed :
    let state := ((new false false []).run booksSteps).2
    (∀ step ∈ booksSteps, step.Guarded) ∧ ((published state.app).load "main.py").result = .ok ("main:app", state.app) ∧
    state.registry.router.table ≠ [] ∧ (∀ route ∈ state.registry.router.table, route.resource.isNothing = false) ∧
    (∃ ending, Command.execute (published state.app) false (.routes "main.py") = .ok ending ∧ ending.exit = .number 0) ∧
    (state.app.call (booksScope "PATCH") {}).2 = Answer.undefinedSent "PATCH" ∧
    ∀ other, (state.registry.answer (booksScope "GET") {}).1 ≠ .ok (.undefinedMethod other) := by
  intro state
  have plain : ∀ step ∈ booksSteps, step.Plain := by
    intro step member middleware
    simp only [booksSteps, List.mem_cons, List.not_mem_nil, or_false] at member
    rcases member with rfl | rfl | rfl <;> exact AppStep.noConfusion
  have guarded : ∀ step ∈ booksSteps, step.Guarded := fun step member => step.guarded_of_plain (plain step member)
  have loaded : ((published state.app).load "main.py").result = .ok ("main:app", state.app) := by
    rw [published_loaded]
  have routed : state.registry.router.table ≠ [] := List.cons_ne_nil _ _
  have something : ∀ route ∈ state.registry.router.table, route.resource.isNothing = false := by
    intro route member
    rcases List.mem_cons.mp member with rfl | member
    · rfl
    · obtain rfl := List.mem_singleton.mp member
      rfl
  obtain ⟨names, width, ending, executed, _, lists, told⟩ := listing_tells_dispatch false false [] booksSteps guarded state rfl
    (published state.app) false "main.py" "main:app" loaded routed something
  have exit : ending.exit = .number 0 := lists.exit
  obtain ⟨serves, answers⟩ := told ⟨_, .object booksPage 0, 0⟩ List.mem_cons_self
  refine ⟨guarded, loaded, routed, something, ⟨ending, executed, exit⟩, ?unlisted, ?listed⟩
  case unlisted =>
    obtain ⟨refused, bare⟩ := answers (booksScope "PATCH") {} "/books/7" "PATCH" [("id", "7")] rfl rfl rfl rfl
    rw [bare plain]
    refine refused.unlisted fun member => ?_
    obtain ⟨verb, handler, upper, serving⟩ := (serves.served _).mp member
    obtain rfl : verb = .patch := Verb.name_injective upper
    cases serving
  case listed =>
    obtain ⟨answered, _⟩ := answers (booksScope "GET") {} "/books/7" "GET" [("id", "7")] rfl rfl rfl rfl
    exact answered.answered.mp ((serves.served _).mpr ⟨.get, _, rfl, rfl⟩)

-- A page whose own response is that to an undefined method.
def mirrorPage : ResourceClass :=
  { name := "Mirror"
    methods := [("get",
      { label := "Mirror.get"
        signature := { parameters := [] }
        run := fun situation =>
          ⟨.ok (.response
            { body := Text.Utf8.bytes "\x7b\"code\":400,\"error\":\x7b\"message\":\"get method is undefined.\"\x7d\x7d"
              status := 400
              mediaType := "application/json" }), situation.items⟩ })] }

-- A route that stands alone is listed without blanks behind its rule.
theorem single_listed (app : App) (terminal : Bool) (route : Route Resource) (name : String) (table : app.registry.router.table = [route])
    (only : app.registry.listed route.resource = [name]) :
    ∃ ending, Command.execute (published app) terminal (.routes "main.py") = .ok ending ∧
      ending.stdout = (Command.echoAll terminal [route.rule.text ++ "  " ++ name ++ "\n"]).stdout := by
  have wide : app.width = route.rule.text.length := by
    simp [App.width, table]
  have listing : app.listing = [route.rule.text ++ "  " ++ name ++ "\n"] := by
    rw [app.listing_lines (by simp [table]), table, List.map_cons, List.map_nil, only, wide, Nat.sub_self]
    simp [Command.lineEnd, namesText, String.append_assoc]
  refine ⟨_, Command.execute_routes (published app) terminal "main.py" "main:app" app (by rw [published_loaded]), ?_⟩
  rw [← listing]
  rfl

-- A rule that holds a style, and one that holds half a surrogate pair.
def redRule : String := "/\x1b[31mred"

def halfRule : String := String.ofList ['/', Text.heldHalf 0xD800]

def mirrorSteps (rule : String) : List AppStep := [.setup (.add rule (.fresh mirrorPage) [])]

theorem listing_departs :
    let red := ((new false false []).run (mirrorSteps redRule)).2
    let half := ((new false false []).run (mirrorSteps halfRule)).2
    red.registry.router.table.map (·.rule.text) = [redRule] ∧ half.registry.router.table.map (·.rule.text) = [halfRule] ∧
    (∃ ending, Command.execute (published red.app) false (.routes "main.py") = .ok ending ∧
      ending.stdout ≠ redRule ++ "  " ++ "GET" ++ "\n") ∧
    (∃ ending, Command.execute (published half.app) true (.routes "main.py") = .ok ending ∧
      ending.stdout ≠ halfRule ++ "  " ++ "GET" ++ "\n") ∧
    red.registry.listed (.object mirrorPage 0) = ["GET"] ∧
    (red.app.call { method := some "GET", path := some redRule } {}).2 = Answer.undefinedSent "GET" := by
  intro red half
  let route (rule word : String) : Route Resource := ⟨{ text := rule, segments := [.literal word] }, .object mirrorPage 0, 0⟩
  let halfWord := String.ofList [Text.heldHalf 0xD800]
  have one : ["GET"].mergeSort (fun a b => decide (a ≤ b)) = ["GET"] := List.mergeSort_singleton _
  obtain ⟨plain, executed, printed⟩ := single_listed red.app false (route redRule "\x1b[31mred") "GET" rfl one
  obtain ⟨cut, halved, nothing⟩ := single_listed half.app true (route halfRule halfWord) "GET" rfl one
  refine ⟨rfl, rfl, ⟨plain, executed, ?styled⟩, ⟨cut, halved, ?unprinted⟩, one, rfl⟩
  case styled =>
    rw [printed]
    decide
  case unprinted =>
    rw [nothing]
    decide

end AppState
end RestDispatch
