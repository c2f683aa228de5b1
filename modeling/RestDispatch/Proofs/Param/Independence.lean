import RestDispatch.Proofs.Param.Refusing
import Mathlib.Data.List.Nodup

set_option autoImplicit false

/-!
Parameters beside each other. Main statement: where the keys differ, what becomes of a parameter follows from its own options
and the data under its own name; so neither the order of the parameters nor other parameters nor other data matter to it.
-/
namespace RestDispatch

-- What was declared, without where its default is kept.
def Declaration.stated (declaration : Declaration) : String × Options := (declaration.name, declaration.options)

def ParserStep.Spares (name : String) : ParserStep → Prop
  | .declare _ _ => True
  | .remove names => name ∉ names

theorem Unread.of_failure (unread : Unread) (rejection : Rejection) (message : String) (failure : unread.failure = .rejected rejection message) :
    unread = .rejected rejection := by
  cases unread with
  | raised fault => cases failure
  | rejected told =>
    rw [Unread.failure, Rejection.failure] at failure
    split at failure
    · exact congrArg _ (ParseFailure.rejected.inj failure).1
    · cases failure

namespace Parser

-- The same declarations, in whatever order.
def Reordered (left right : Parser) : Prop :=
  (left.declarations.map Declaration.stated).Perm (right.declarations.map Declaration.stated)

-- What a parse says about a parameter: the value that is delivered under its key, or what it is refused with in its name.
inductive Settles (parser : Parser) (data : Fields) (declaration : Declaration) : Except Unread Value → Prop where
  | delivered (delivered : Entries) (value : Value) (parsed : parser.parse data = .ok delivered)
      (found : delivered.lookup declaration.key = some value) : Settles parser data declaration (.ok value)
  | refused (rejection : Rejection) (message : String) (failed : parser.parse data = .error (.rejected rejection message))
      (named : rejection.key = declaration.name) : Settles parser data declaration (.error (.rejected rejection))

section
variable (parser : Parser) (data : Fields)

theorem parse_distinct (delivered : Entries) (distinct : parser.keys.Nodup) (parsed : parser.parse data = .ok delivered) :
    delivered = parser.declarations.map (Declaration.entry data) := by
  obtain ⟨_, rfl⟩ := (parse_ok_iff parser data delivered).mp parsed
  have keys : ((parser.declarations.map (Declaration.entry data)).map Prod.fst).Nodup := by
    rw [entry_keys]
    exact distinct
  apply put_all_fresh [] _ keys
  intro key _ member
  cases member

theorem stated_entries (declarations : List Declaration) :
    declarations.map (Declaration.entry data) =
      (declarations.map Declaration.stated).map fun (name, options) => Declaration.entry data ⟨name, options, true⟩ := by
  rw [List.map_map]
  rfl

theorem stated_reads (declarations : List Declaration) :
    (∀ declaration ∈ declarations, ∃ value, declaration.reading data = .ok value) ↔
      ∀ stated ∈ declarations.map Declaration.stated, ∃ value, stated.2.deliver stated.1 (data.named? stated.1) = .ok value := by
  rw [List.forall_mem_map]
  rfl

theorem parses_reordered (other : Parser) (reordered : other.Reordered parser) :
    (∃ delivered, other.parse data = .ok delivered) ↔ ∃ delivered, parser.parse data = .ok delivered := by
  simp only [parse_ok_iff, stated_reads, reordered.mem_iff, exists_and_left, exists_eq, and_true]

theorem delivered_reordered (other : Parser) (delivered reordered : Entries) (distinct : parser.keys.Nodup) (same : other.Reordered parser)
    (parsed : parser.parse data = .ok delivered) (again : other.parse data = .ok reordered) : reordered.Perm delivered := by
  have permuted : (other.declarations.map (Declaration.entry data)).Perm (parser.declarations.map (Declaration.entry data)) := by
    rw [stated_entries, stated_entries]
    exact same.map _
  have keys : other.keys.Perm parser.keys := by
    have renamed := permuted.map Prod.fst
    rw [entry_keys, entry_keys] at renamed
    exact renamed
  rw [parse_distinct parser data delivered distinct parsed, parse_distinct other data reordered (keys.nodup_iff.mpr distinct) again]
  exact permuted

-- A parse looks at the data under the declared names only.
theorem parse_from_elsewhere (elsewhere : Fields) (declarations : List Declaration) (delivered : Entries)
    (same : ∀ declaration ∈ declarations, elsewhere.named? declaration.name = data.named? declaration.name) :
    parseFrom elsewhere declarations delivered = parseFrom data declarations delivered := by
  induction declarations generalizing delivered with
  | nil => rfl
  | cons declaration rest ih =>
    obtain ⟨here, later⟩ := List.forall_mem_cons.mp same
    rw [parseFrom, parseFrom, here]
    cases declaration.options.deliver declaration.name (data.named? declaration.name) with
    | error unread => rfl
    | ok value => exact ih _ later

theorem parse_elsewhere (elsewhere : Fields) (same : ∀ name ∈ parser.names, elsewhere.named? name = data.named? name) :
    parser.parse elsewhere = parser.parse data := by
  have each : ∀ declaration ∈ parser.declarations, elsewhere.named? declaration.name = data.named? declaration.name := by
    intro declaration member
    exact same declaration.name (List.mem_map_of_mem member)
  rw [parse, parse, parse_from_elsewhere data elsewhere _ _ each]

theorem delivered_own (declaration : Declaration) (delivered : Entries) (value : Value) (distinct : parser.keys.Nodup)
    (declared : declaration ∈ parser.declarations) (parsed : parser.parse data = .ok delivered) :
    delivered.lookup declaration.key = some value ↔ declaration.reading data = .ok value := by
  have keys : (delivered.map Prod.fst).Nodup := by
    rw [parse_distinct parser data delivered distinct parsed, entry_keys]
    exact distinct
  obtain ⟨read, success⟩ := ((parse_ok_iff parser data delivered).mp parsed).1 declaration declared
  have member : (declaration.key, read) ∈ delivered := by
    rw [parse_distinct parser data delivered distinct parsed]
    refine List.mem_map.mpr ⟨declaration, declared, ?_⟩
    rw [Declaration.entry, success]
    rfl
  rw [lookup_of_mem delivered declaration.key read keys member, success]
  constructor
  · intro same
    exact congrArg _ (Option.some.inj same)
  · intro same
    exact congrArg _ (Except.ok.inj same)

-- A refusal in the name of a parameter is that of its own reading, as no other parameter has this name.
theorem refused_own (declaration : Declaration) (rejection : Rejection) (message : String) (distinct : parser.names.Nodup)
    (declared : declaration ∈ parser.declarations) (failed : parser.parse data = .error (.rejected rejection message))
    (named : rejection.key = declaration.name) : declaration.reading data = .error (.rejected rejection) := by
  obtain ⟨before, other, after, stage, stops⟩ := stops_of_failure parser data _ failed
  obtain ⟨unread, refuses, stopped⟩ := other.options.deliver_refused (data.named? other.name) other.name stage stops.refused
  have passed : ∀ earlier ∈ before, ∃ value, earlier.reading data = .ok value := by
    intro earlier member
    exact (earlier.reads_iff data).mpr (stops.passed earlier member)
  have met := parse_from_refused data before after other [] unread passed stopped
  rw [← stops.split] at met
  have failure : unread.failure = .rejected rejection message := by
    rw [parse, met] at failed
    exact Except.error.inj failed
  obtain rfl := Unread.of_failure unread rejection message failure
  have same : other = declaration := by
    have member : other ∈ parser.declarations := by simp [stops.split]
    apply List.inj_on_of_nodup_map distinct member declared
    rw [← named, (other.options.refuses_named _ _ stage rejection refuses).1]
  rw [← same]
  exact stopped

theorem settles_own (declaration : Declaration) (result : Except Unread Value) (names : parser.names.Nodup) (keys : parser.keys.Nodup)
    (declared : declaration ∈ parser.declarations) (settled : parser.Settles data declaration result) : declaration.reading data = result := by
  cases settled with
  | delivered delivered value parsed found => exact (delivered_own parser data declaration delivered value keys declared parsed).mp found
  | refused rejection message failed named => exact refused_own parser data declaration rejection message names declared failed named

theorem settled_of_parsed (declaration : Declaration) (delivered : Entries) (keys : parser.keys.Nodup) (declared : declaration ∈ parser.declarations)
    (parsed : parser.parse data = .ok delivered) : ∃ value, parser.Settles data declaration (.ok value) := by
  obtain ⟨value, success⟩ := ((parse_ok_iff parser data delivered).mp parsed).1 declaration declared
  exact ⟨value, .delivered delivered value parsed ((delivered_own parser data declaration delivered value keys declared parsed).mpr success)⟩

end

theorem step_spares (parser : Parser) (step : ParserStep) (declaration : Declaration) (declared : declaration ∈ parser.declarations)
    (spared : step.Spares declaration.name) : declaration ∈ (parser.step step).declarations := by
  cases step with
  | remove removed => exact List.mem_filter.mpr ⟨declared, decide_eq_true spared⟩
  | declare name settings =>
    rw [Parser.step]
    cases added : parser.declare name settings with
    | error clash => exact declared
    | ok success =>
      obtain ⟨next, options⟩ := success
      obtain ⟨_, _, _, rfl⟩ := declare_ok parser next name settings options added
      exact List.mem_append_left _ declared

theorem run_spares (parser : Parser) (steps : List ParserStep) (declaration : Declaration) (declared : declaration ∈ parser.declarations)
    (spared : ∀ step ∈ steps, step.Spares declaration.name) : declaration ∈ (parser.run steps).declarations := by
  induction steps generalizing parser with
  | nil => exact declared
  | cons step rest ih =>
    obtain ⟨first, later⟩ := List.forall_mem_cons.mp spared
    exact ih (parser.step step) (step_spares parser step declaration declared first) later

theorem filter_kept (declarations : List Declaration) (removed : List String)
    (kept : ∀ declaration ∈ declarations, declaration.name ∉ removed) : declarations.filter (·.name ∉ removed) = declarations := by
  apply List.filter_eq_self.mpr
  intro declaration member
  exact decide_eq_true (kept declaration member)

-- Steps that remove nothing of what is there leave it in front of what they add.
structure Extends (parser later : Parser) (added : List Declaration) : Prop where
  base : later.base = parser.base
  declarations : later.declarations = parser.declarations ++ added

theorem step_extends (parser later : Parser) (added : List Declaration) (step : ParserStep) (extended : Extends parser later added)
    (spared : ∀ name ∈ parser.names, step.Spares name) : ∃ more, Extends parser (later.step step) more := by
  cases step with
  | remove removed =>
    have kept : parser.declarations.filter (·.name ∉ removed) = parser.declarations := by
      apply filter_kept
      exact fun declaration member => spared declaration.name (List.mem_map_of_mem member)
    refine ⟨added.filter (·.name ∉ removed), extended.base, ?_⟩
    rw [Parser.step, Parser.remove, extended.declarations, List.filter_append, kept]
  | declare name settings =>
    rw [Parser.step]
    cases success : later.declare name settings with
    | error clash => exact ⟨added, extended⟩
    | ok made =>
      obtain ⟨next, options⟩ := made
      obtain ⟨_, _, _, rfl⟩ := declare_ok later next name settings options success
      exact ⟨added ++ [⟨name, options, _⟩], extended.base, by rw [extended.declarations, List.append_assoc]⟩

theorem run_extends (parser later : Parser) (added : List Declaration) (steps : List ParserStep) (extended : Extends parser later added)
    (spared : ∀ step ∈ steps, ∀ name ∈ parser.names, step.Spares name) : ∃ more, Extends parser (later.run steps) more := by
  induction steps generalizing later added with
  | nil => exact ⟨added, extended⟩
  | cons step rest ih =>
    obtain ⟨first, others⟩ := List.forall_mem_cons.mp spared
    obtain ⟨more, next⟩ := step_extends parser later added step extended first
    exact ih (later.step step) more next others

theorem spared_keys (parser : Parser) (steps : List ParserStep) (spared : ∀ step ∈ steps, ∀ name ∈ parser.names, step.Spares name) :
    parser.keys ⊆ (parser.run steps).keys := by
  obtain ⟨added, extended⟩ := run_extends parser parser [] steps ⟨rfl, (List.append_nil _).symm⟩ spared
  rw [keys, keys, extended.declarations, List.map_append]
  exact List.subset_append_left _ _

-- What was added is gone when all of its names are removed again.
theorem removed_again (parser : Parser) (steps : List ParserStep) (removed : List String) (apart : parser.Apart)
    (spared : ∀ step ∈ steps, ∀ name ∈ parser.names, step.Spares name) (kept : ∀ name ∈ parser.names, name ∉ removed)
    (all : ∀ name ∈ (parser.run steps).names, name ∈ parser.names ∨ name ∈ removed) : (parser.run steps).remove removed = parser := by
  have itself : Extends parser parser [] := ⟨rfl, (List.append_nil _).symm⟩
  obtain ⟨added, extended⟩ := run_extends parser parser [] steps itself spared
  have distinct := (run_apart parser steps apart).names
  rw [names, extended.declarations, List.map_append] at distinct
  have old : parser.declarations.filter (·.name ∉ removed) = parser.declarations := by
    apply filter_kept
    exact fun declaration member => kept declaration.name (List.mem_map_of_mem member)
  have new : added.filter (·.name ∉ removed) = [] := by
    apply List.filter_eq_nil_iff.mpr
    intro declaration member
    have named : declaration.name ∈ added.map Declaration.name := List.mem_map_of_mem member
    have listed : declaration.name ∈ (parser.run steps).names := by
      rw [names, extended.declarations, List.map_append]
      exact List.mem_append_right _ named
    rcases all declaration.name listed with known | gone
    · exact absurd rfl ((List.nodup_append.mp distinct).2.2 declaration.name known declaration.name named)
    · simpa using gone
  rw [remove, extended.declarations, List.filter_append, old, new, List.append_nil, extended.base]

-- A parameter that is removed and declared again comes last.
theorem declared_again (parser again : Parser) (declaration : Declaration) (settings : Settings) (distinct : parser.names.Nodup)
    (declared : declaration ∈ parser.declarations)
    (success : (parser.remove [declaration.name]).declare declaration.name settings = .ok (again, declaration.options)) :
    again.Reordered parser := by
  obtain ⟨_, _, _, rfl⟩ := declare_ok _ again declaration.name settings declaration.options success
  obtain ⟨before, after, split⟩ := List.append_of_mem declared
  have others : ∀ other ∈ before ++ after, other.name ≠ declaration.name := by
    rw [names, split, List.map_append, List.map_cons, List.nodup_middle, ← List.map_append] at distinct
    intro other member same
    apply (List.nodup_cons.mp distinct).1
    rw [← same]
    exact List.mem_map_of_mem member
  have rest : (parser.remove [declaration.name]).declarations = before ++ after := by
    have kept : (before ++ after).filter (·.name ∉ [declaration.name]) = before ++ after := by
      apply filter_kept
      exact fun other member => mt List.mem_singleton.mp (others other member)
    rw [remove, split, List.filter_append, List.filter_cons_of_neg (by simp), ← List.filter_append, kept]
  have stated : Declaration.stated ⟨declaration.name, declaration.options, (settings.lookup "default").isNone⟩ = declaration.stated := rfl
  rw [Reordered, rest, split]
  simp only [List.map_append, List.map_cons, List.map_nil, stated]
  exact (List.perm_append_singleton _ _).trans List.perm_middle.symm

-- How the parameters of a parser are independent of each other, for some data.
structure Independent (parser : Parser) (data : Fields) : Prop where
  order : ∀ other : Parser, other.Reordered parser →
    ((∃ delivered, other.parse data = .ok delivered) ↔ ∃ delivered, parser.parse data = .ok delivered) ∧
      ∀ delivered reordered, parser.parse data = .ok delivered → other.parse data = .ok reordered →
        reordered.Perm delivered ∧ ∀ key, reordered.lookup key = delivered.lookup key
  again : ∀ declaration ∈ parser.declarations, ∀ settings later,
    (parser.remove [declaration.name]).declare declaration.name settings = .ok (later, declaration.options) → later.Reordered parser
  elsewhere : ∀ other : Fields, (∀ name ∈ parser.names, other.named? name = data.named? name) → parser.parse other = parser.parse data
  undone : ∀ more removed, (∀ step ∈ more, ∀ name ∈ parser.names, step.Spares name) → (∀ name ∈ parser.names, name ∉ removed) →
    (∀ name ∈ (parser.run more).names, name ∈ parser.names ∨ name ∈ removed) → (parser.run more).remove removed = parser
  own : ∀ declaration ∈ parser.declarations, ∀ more, (∀ step ∈ more, step.Spares declaration.name) → (parser.run more).keys.Nodup →
    ∀ other : Fields,
      (∀ delivered, (parser.run more).parse other = .ok delivered → ∃ value, (parser.run more).Settles other declaration (.ok value)) ∧
      (other.named? declaration.name = data.named? declaration.name →
        ∀ result, (parser.run more).Settles other declaration result → declaration.reading data = result)

-- So they are in every parser that declarations and removals lead to, if its keys differ.
theorem parameters_independent (base : Settings) (parser : Parser) (steps : List ParserStep) (data : Fields)
    (created : Parser.new base = .ok parser) (distinct : (parser.run steps).keys.Nodup) : (parser.run steps).Independent data := by
  have unused : parser.Apart := by
    rw [new_ok base parser created]
    exact ⟨List.nodup_nil, List.Pairwise.nil⟩
  have apart := run_apart parser steps unused
  generalize parser.run steps = reached at distinct apart
  constructor
  case order =>
    intro other reordered
    refine ⟨parses_reordered reached data other reordered, ?_⟩
    intro delivered permuted parsed again
    have same := delivered_reordered reached data other delivered permuted distinct reordered parsed again
    have keys : (delivered.map Prod.fst).Nodup := by
      rw [parse_distinct reached data delivered distinct parsed, entry_keys]
      exact distinct
    exact ⟨same, fun key => lookup_perm permuted delivered key same ((same.map Prod.fst).nodup_iff.mpr keys)⟩
  case again =>
    intro declaration declared settings later success
    exact declared_again reached later declaration settings apart.names declared success
  case elsewhere => exact parse_elsewhere reached data
  case undone =>
    intro more removed spared kept all
    exact removed_again reached more removed apart spared kept all
  case own =>
    intro declaration declared more spared keys other
    have still := run_spares reached more declaration declared spared
    have names := (run_apart reached more apart).names
    refine ⟨fun delivered => settled_of_parsed _ other declaration delivered keys still, ?_⟩
    intro same result settled
    have read := settles_own _ other declaration result names keys still settled
    rw [Declaration.reading, same] at read
    exact read

def query : ParserStep := .declare "q" [("dest", .data (.text (Text.lettersOf "query"))), ("trim", .data (.bool true))]

def page : ParserStep := .declare "page" [("default", .data (.int 1))]

-- A search form, declared in either order, on a query that says more than it asks for.
theorem search_in_either_order :
    let form := ({} : Parser).run [query, page]
    let other := ({} : Parser).run [page, query]
    let data : Fields := [(Text.lettersOf "q", .text (Text.lettersOf " tea "))]
    let tea := Value.text (Text.lettersOf "tea")
    Parser.new [] = .ok {} ∧ form.keys.Nodup ∧ other.Reordered form ∧
      form.parse ((Text.lettersOf "sort", .null) :: data) = .ok [("query", tea), ("page", .int 1)] ∧
      other.parse data = .ok [("page", .int 1), ("query", tea)] ∧ (form.run [page]).remove ["sort"] = form := by
  intro form other data tea
  have created : Parser.new [] = .ok {} := rfl
  have distinct : form.keys.Nodup := by decide
  have reordered : other.Reordered form := List.Perm.swap _ _ []
  have independent := parameters_independent [] {} [query, page] data created distinct
  have parsed : form.parse data = .ok [("query", tea), ("page", .int 1)] := rfl
  have undeclared : ∀ name ∈ form.names, (Text.lettersOf name == Text.lettersOf "sort") = false := by decide
  have more : form.parse ((Text.lettersOf "sort", .null) :: data) = form.parse data := by
    apply independent.elsewhere
    intro name member
    rw [Fields.named?, List.lookup_cons, undeclared name member]
    rfl
  have undone := independent.undone [page] ["sort"] (by simp [page, ParserStep.Spares]) (by decide) (by decide)
  exact ⟨created, distinct, reordered, more.trans parsed, rfl, undone⟩

end Parser
end RestDispatch
