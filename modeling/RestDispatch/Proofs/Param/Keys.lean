import RestDispatch.Param.Parser
import RestDispatch.Proofs.Value.Entries
import RestDispatch.Proofs.Value.Sequence

set_option autoImplicit false

/-!
The keys under which a parser delivers. Declarations and removals, whether they succeed or not, keep the
declared names distinct, and no parameter gets the name of an earlier one as its key. Main statement: so two
parameters share a key exactly if the earlier of them is redirected to it; a parse then delivers fewer
entries than parameters were declared, and under a shared key only what the last of its parameters read.
-/
namespace RestDispatch

namespace Declaration

def redirect? (declaration : Declaration) : Option String := declaration.options.dest.filter (· ≠ "")

theorem key_eq (declaration : Declaration) : declaration.key = declaration.redirect?.getD declaration.name := by
  rw [key, redirect?]
  cases declaration.options.dest with
  | none => rfl
  | some dest => by_cases blank : dest = "" <;> simp [blank, Option.filter]

def reading (declaration : Declaration) (data : Fields) : Except Unread Value :=
  declaration.options.deliver declaration.name (data.named? declaration.name)

-- What a parameter adds to the delivered entries if its reading succeeds.
def entry (data : Fields) (declaration : Declaration) : String × Value :=
  (declaration.key, (declaration.reading data).toOption.getD .null)

end Declaration

inductive ParserStep where
  | declare (name : String) (settings : Settings)
  | remove (names : List String)

namespace Parser

def step (parser : Parser) : ParserStep → Parser
  | .declare name settings =>
    match parser.declare name settings with
    | .ok (declared, _) => declared
    | .error _ => parser
  | .remove names => parser.remove names

def run (parser : Parser) (steps : List ParserStep) : Parser := steps.foldl step parser

def keys (parser : Parser) : List String := parser.declarations.map Declaration.key

-- An earlier name is never taken again, neither as a name nor as a key. An earlier key may be.
structure Apart (parser : Parser) : Prop where
  names : parser.names.Nodup
  keys : parser.declarations.Pairwise fun earlier later => later.key ≠ earlier.name

theorem new_read (base : Settings) (parser : Parser) (created : Parser.new base = .ok parser) :
    ∃ options, Options.read base = .ok options ∧ parser = { base := options.settings } := by
  obtain ⟨_, _, made⟩ := (bind_eq_ok _ _ _).mp created
  cases read : Options.read base with
  | error found => simp [read] at made
  | ok options =>
    simp only [read, Except.ok.injEq] at made
    exact ⟨options, rfl, made.symm⟩

theorem new_ok (base : Settings) (parser : Parser) (created : Parser.new base = .ok parser) : parser = { base := parser.base } := by
  obtain ⟨options, _, rfl⟩ := new_read base parser created
  rfl

theorem declare_ok (parser declared : Parser) (name : String) (settings : Settings) (options : Options)
    (success : parser.declare name settings = .ok (declared, options)) :
    Options.read (putAll parser.base settings) = .ok options ∧ name ∉ parser.names ∧
      (∀ dest, options.dest = some dest → dest ∉ parser.names) ∧
      declared = { parser with declarations := parser.declarations ++ [⟨name, options, (settings.lookup "default").isNone⟩] } := by
  obtain ⟨_, _, added⟩ := (bind_eq_ok _ _ _).mp success
  by_cases taken : name ∈ parser.names
  · simp [taken] at added
  · rw [if_neg taken] at added
    cases read : Options.read (putAll parser.base settings) with
    | error found => simp [read] at added
    | ok found =>
      cases clash : found.dest.filter (· ∈ parser.names) with
      | some dest => simp [read, clash] at added
      | none =>
        simp only [read, clash, Except.ok.injEq, Prod.mk.injEq] at added
        obtain ⟨rfl, rfl⟩ := added
        refine ⟨rfl, taken, fun dest redirected => ?_, rfl⟩
        simpa [redirected, Option.filter] using clash

theorem apart_of_declared (parser : Parser) (declaration : Declaration) (apart : parser.Apart)
    (fresh : declaration.name ∉ parser.names) (unnamed : declaration.key ∉ parser.names) :
    Apart { parser with declarations := parser.declarations ++ [declaration] } := by
  constructor
  · rw [names, List.map_append, List.nodup_append]
    refine ⟨apart.names, by simp, fun earlier member later last equal => fresh ?_⟩
    have same : later = declaration.name := by simpa using last
    rw [← same, ← equal]
    exact member
  · refine List.pairwise_append.mpr ⟨apart.keys, by simp, fun earlier member later last equal => unnamed ?_⟩
    obtain rfl := List.mem_singleton.mp last
    rw [equal]
    exact List.mem_map_of_mem member

theorem apart_of_removed (parser : Parser) (removed : List String) (apart : parser.Apart) : (parser.remove removed).Apart :=
  ⟨apart.names.sublist (List.filter_sublist.map _), apart.keys.sublist List.filter_sublist⟩

theorem step_apart (parser : Parser) (step : ParserStep) (apart : parser.Apart) : (parser.step step).Apart := by
  cases step with
  | remove removed => exact apart_of_removed parser removed apart
  | declare name settings =>
    rw [Parser.step]
    cases declared : parser.declare name settings with
    | error clash => exact apart
    | ok success =>
      obtain ⟨next, options⟩ := success
      obtain ⟨_, fresh, unnamed, rfl⟩ := declare_ok parser next name settings options declared
      refine apart_of_declared parser _ apart fresh ?_
      rw [Declaration.key_eq, Declaration.redirect?]
      cases redirect : options.dest.filter (· ≠ "") with
      | none => exact fresh
      | some dest => exact unnamed dest (Option.filter_eq_some_iff.mp redirect).1

theorem run_apart (parser : Parser) (steps : List ParserStep) (apart : parser.Apart) : (parser.run steps).Apart := by
  induction steps generalizing parser with
  | nil => exact apart
  | cons step rest ih => exact ih (parser.step step) (step_apart parser step apart)

-- A key is taken twice only by a redirection: a parameter that keeps its name as its key shares it with none.
theorem keys_nodup_iff (parser : Parser) (apart : parser.Apart) :
    parser.keys.Nodup ↔ parser.declarations.Pairwise fun earlier later => earlier.redirect? ≠ some later.key := by
  rw [keys, List.Nodup, List.pairwise_map]
  constructor
  · refine fun distinct => distinct.imp fun {earlier later} different redirected => different ?_
    rw [earlier.key_eq, redirected, Option.getD_some]
  · refine fun unmet => (unmet.and apart.keys).imp fun {earlier later} ⟨other, unnamed⟩ same => ?_
    rw [earlier.key_eq] at same
    cases redirect : earlier.redirect? with
    | none => exact unnamed (by rw [← same, redirect, Option.getD_none])
    | some dest => exact other (by rw [← same, redirect, Option.getD_some])

theorem parse_from_ok_iff (data : Fields) (declarations : List Declaration) (delivered result : Entries) :
    parseFrom data declarations delivered = .ok result ↔
      (∀ declaration ∈ declarations, ∃ value, declaration.reading data = .ok value) ∧
        result = putAll delivered (declarations.map (Declaration.entry data)) := by
  induction declarations generalizing delivered with
  | nil => simp [parseFrom, putAll, eq_comm]
  | cons declaration rest ih =>
    have reading : declaration.options.deliver declaration.name (data.named? declaration.name) = declaration.reading data := rfl
    rw [parseFrom, reading, List.map_cons, Declaration.entry, put_all_cons]
    cases read : declaration.reading data with
    | error unread => simp [read]
    | ok value => simp [read, ih, Except.toOption]

theorem parse_ok_iff (parser : Parser) (data : Fields) (result : Entries) :
    parser.parse data = .ok result ↔
      (∀ declaration ∈ parser.declarations, ∃ value, declaration.reading data = .ok value) ∧
        result = putAll [] (parser.declarations.map (Declaration.entry data)) := by
  rw [← parse_from_ok_iff, parse]
  cases parseFrom data parser.declarations [] <;> simp

theorem entry_keys (data : Fields) (declarations : List Declaration) :
    (declarations.map (Declaration.entry data)).map Prod.fst = declarations.map Declaration.key := by
  rw [List.map_map]
  rfl

theorem delivered_keys (parser : Parser) (data : Fields) (delivered : Entries) (parsed : parser.parse data = .ok delivered)
    (key : String) : key ∈ delivered.map Prod.fst ↔ key ∈ parser.keys := by
  obtain ⟨_, rfl⟩ := (parse_ok_iff parser data delivered).mp parsed
  rw [mem_keys_put_all, entry_keys]
  simp [keys]

theorem delivered_length_iff (parser : Parser) (data : Fields) (delivered : Entries) (parsed : parser.parse data = .ok delivered) :
    delivered.length = parser.declarations.length ↔ parser.keys.Nodup := by
  obtain ⟨_, rfl⟩ := (parse_ok_iff parser data delivered).mp parsed
  have full := length_put_all_iff [] (parser.declarations.map (Declaration.entry data))
  rw [entry_keys, List.length_map, List.length_nil, Nat.zero_add] at full
  rw [full]
  simp [keys]

-- Of the parameters that share a key it is the last whose value is delivered.
theorem delivered_last (parser : Parser) (data : Fields) (delivered : Entries) (parsed : parser.parse data = .ok delivered)
    (before after : List Declaration) (declaration : Declaration) (split : parser.declarations = before ++ declaration :: after)
    (last : declaration.key ∉ after.map Declaration.key) :
    ∃ value, declaration.reading data = .ok value ∧ delivered.lookup declaration.key = some value := by
  obtain ⟨read, rfl⟩ := (parse_ok_iff parser data delivered).mp parsed
  obtain ⟨value, success⟩ := read declaration (by simp [split])
  have unmet : (after.map (Declaration.entry data)).reverse.lookup declaration.key = none := by
    rw [lookup_eq_none_iff, List.map_reverse, entry_keys, List.mem_reverse]
    exact last
  have here : declaration.entry data = (declaration.key, value) := by
    rw [Declaration.entry, success]
    rfl
  refine ⟨value, success, ?_⟩
  rw [lookup_put_all, split, List.map_append, List.map_cons, List.reverse_append, List.reverse_cons, List.append_assoc,
    List.lookup_append, unmet, here]
  simp

-- What the keys amount to however the parser was built up. Only a later parameter can take a key that is no name.
theorem keys_distinct_unless_redirected (base : Settings) (parser : Parser) (steps : List ParserStep)
    (created : Parser.new base = .ok parser) :
    let reached := parser.run steps
    reached.names.Nodup ∧
      (reached.keys.Nodup ↔ reached.declarations.Pairwise fun earlier later => earlier.redirect? ≠ some later.key) ∧
      ∀ data delivered, reached.parse data = .ok delivered →
        (delivered.map Prod.fst).Nodup ∧
        (∀ key, key ∈ delivered.map Prod.fst ↔ key ∈ reached.keys) ∧
        (delivered.length = reached.declarations.length ↔ reached.keys.Nodup) ∧
        (∀ before declaration after, reached.declarations = before ++ declaration :: after →
          declaration.key ∉ after.map Declaration.key →
          ∃ value, declaration.reading data = .ok value ∧ delivered.lookup declaration.key = some value) := by
  have unused : parser.Apart := by
    rw [new_ok base parser created]
    exact ⟨List.nodup_nil, List.Pairwise.nil⟩
  have apart := run_apart parser steps unused
  refine ⟨apart.names, keys_nodup_iff _ apart, fun data delivered parsed => ⟨?_, ?_, ?_, ?_⟩⟩
  · obtain ⟨_, rfl⟩ := (parse_ok_iff _ data delivered).mp parsed
    exact keys_put_all_nodup [] _ List.nodup_nil
  · exact delivered_keys _ data delivered parsed
  · exact delivered_length_iff _ data delivered parsed
  · exact fun before declaration after => delivered_last _ data delivered parsed before after declaration

def redirectTwice : List ParserStep :=
  [.declare "a" [("dest", .data (.text (Text.lettersOf "x")))], .declare "b" [("dest", .data (.text (Text.lettersOf "x")))]]

theorem redirected_twice_delivered_once :
    let reached := ({} : Parser).run redirectTwice
    let data : Fields := [(Text.lettersOf "a", .int 1), (Text.lettersOf "b", .int 2)]
    Parser.new [] = .ok {} ∧ reached.names = ["a", "b"] ∧ ¬ reached.keys.Nodup ∧
      ∃ delivered, reached.parse data = .ok delivered ∧ delivered.length ≠ reached.declarations.length ∧
        delivered.lookup "x" = some (.int 2) := by
  intro reached data
  have created : Parser.new [] = .ok {} := rfl
  obtain ⟨_, unmet, delivers⟩ := keys_distinct_unless_redirected [] {} redirectTwice created
  have shared : ¬ reached.keys.Nodup := fun distinct =>
    (List.pairwise_cons.mp (unmet.mp distinct)).1 _ List.mem_cons_self rfl
  have parsed : reached.parse data = .ok [("x", .int 2)] := rfl
  obtain ⟨_, _, full, last⟩ := delivers data _ parsed
  obtain ⟨value, read, found⟩ := last [_] _ [] rfl (by simp)
  have second : value = .int 2 := (Except.ok.inj read).symm
  exact ⟨created, rfl, shared, _, parsed, fun complete => shared (full.mp complete), second ▸ found⟩

end Parser
end RestDispatch
