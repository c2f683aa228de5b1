import RestDispatch.Proofs.Json.Halves
import RestDispatch.Proofs.Json.Numerals
import RestDispatch.Proofs.Json.Written
import RestDispatch.Proofs.Text.Decoding
import RestDispatch.Proofs.Value.Sequence

set_option autoImplicit false

/-!
Which values are written as texts of the standard grammar. Main statement: exactly those in which every float is finite; the
text of any other has a word outside of its strings.
-/
namespace RestDispatch

open Text (letters)
open Text.Utf8 (isHalf)

namespace Value

mutual

def finite : Value → Bool
  | .float x => Decimal.isFinite x
  | .list items => itemsFinite items
  | .object fields => fieldsFinite fields
  | _ => true

def itemsFinite : List Value → Bool
  | [] => true
  | v :: vs => finite v && itemsFinite vs

def fieldsFinite : Fields → Bool
  | [] => true
  | (_, v) :: fs => finite v && fieldsFinite fs

end

end Value

namespace Json

-- A text that no word strays into if it is sound, and that is then derived.
structure Shaped (symbol : Symbol) (sound : Bool) (cs : List Char) : Prop where
  scans : Scans cs (!sound)
  derives : sound = true → Derives symbol cs

structure EachShaped (symbol : Symbol) (sound : Bool) (parts : List (List Char)) : Prop where
  scans : ∀ part ∈ parts, Scans part (strays part)
  strays : parts.any strays = !sound
  derives : sound = true → ∀ part ∈ parts, Derives symbol part

theorem derived_shaped (symbol : Symbol) (cs : List Char) (derived : Derives symbol cs) : Shaped symbol true cs :=
  ⟨derived_scans symbol cs derived, fun _ => derived⟩

theorem element_shaped (sound : Bool) (cs : List Char) (shaped : Shaped .value sound cs) : Shaped .element sound cs := by
  refine ⟨shaped.scans, fun holds => ?_⟩
  have unpadded := Derives.element [] cs [] (by simp [IsBlanks]) (shaped.derives holds) (by simp [IsBlanks])
  rwa [List.append_nil, List.nil_append] at unpadded

theorem member_shaped (sound : Bool) (name cs : List Char) (quoted : Quoted name) (shaped : Shaped .value sound cs) :
    Shaped .member sound (name ++ ':' :: cs) := by
  constructor
  case scans =>
    have value := scans_append [':'] cs false _ (scans_marks [':'] rfl) shaped.scans
    exact scans_append name (':' :: cs) false _ (scans_quoted name quoted) value
  case derives =>
    intro holds
    have unpadded := Derives.member [] name [] cs (by simp [IsBlanks]) quoted (by simp [IsBlanks])
      ((element_shaped sound cs shaped).derives holds)
    rwa [List.append_nil, List.nil_append] at unpadded

theorem none_shaped (symbol : Symbol) : EachShaped symbol true [] := ⟨by simp, rfl, by simp⟩

theorem more_shaped (symbol : Symbol) (sound others : Bool) (part : List Char) (parts : List (List Char))
    (first : Shaped symbol sound part) (rest : EachShaped symbol others parts) : EachShaped symbol (sound && others) (part :: parts) := by
  have itself : strays part = !sound := first.scans.strays
  constructor
  case scans =>
    refine List.forall_mem_cons.mpr ⟨?_, rest.scans⟩
    rw [itself]
    exact first.scans
  case strays => rw [List.any_cons, itself, rest.strays, Bool.not_and]
  case derives =>
    intro holds
    rw [Bool.and_eq_true] at holds
    exact List.forall_mem_cons.mpr ⟨first.derives holds.1, rest.derives holds.2⟩

theorem joined_scans (symbol : Symbol) (sound : Bool) (parts : List (List Char)) (shaped : EachShaped symbol sound parts) :
    Scans (Text.join ',' parts) (!sound) := by
  rw [← shaped.strays]
  exact scans_join parts shaped.scans

theorem array_shaped (sound : Bool) (parts : List (List Char)) (shaped : EachShaped .element sound parts) :
    Shaped .value sound ('[' :: (Text.join ',' parts ++ [']'])) := by
  refine ⟨scans_framed '[' ']' _ _ rfl rfl (joined_scans .element sound parts shaped), fun holds => ?_⟩
  by_cases none : parts = []
  · subst none
    exact .emptyArray [] (by simp [IsBlanks])
  · exact .array parts none (shaped.derives holds)

theorem object_shaped (sound : Bool) (parts : List (List Char)) (shaped : EachShaped .member sound parts) :
    Shaped .value sound ('\x7b' :: (Text.join ',' parts ++ ['\x7d'])) := by
  refine ⟨scans_framed '\x7b' '\x7d' _ _ rfl rfl (joined_scans .member sound parts shaped), fun holds => ?_⟩
  by_cases none : parts = []
  · subst none
    exact .emptyObject [] (by simp [IsBlanks])
  · exact .object parts none (shaped.derives holds)

theorem short_escape_spelled : ∀ pair ∈ shortEscapes, pair.2 ∈ ['"', '\\', '/', 'b', 'f', 'n', 'r', 't'] := by decide

theorem code_escape_spelled : ∀ code < 0x20,
    ['0', '0', Nat.digitChar (code / 16), Nat.digitChar (code % 16)].all (fun digit => (hexDigit? digit).isSome) = true := by
  decide

theorem string_char_spelled (c : Char) : Spelling (stringChar c) := by
  rw [stringChar]
  cases escape : escapeLetter? c with
  | some letter => exact .short letter (short_escape_spelled (c, letter) (short_escape_listed c letter escape))
  | none =>
    obtain ⟨quote, backslash⟩ := plain_char c escape
    by_cases control : c.toNat < 0x20
    · simp only [if_pos control, (code_escape c.toNat control).1]
      exact .code _ _ _ _ (List.all_eq_true.mp (code_escape_spelled c.toNat control))
    · simp only [if_neg control]
      exact .plain c (by omega) quote backslash

theorem string_text_quoted (cs : List Char) : ∃ quoted, stringText (letters cs) = letters quoted ∧ Quoted quoted := by
  refine ⟨'"' :: ((cs.map stringChar).flatten ++ ['"']), ?_, .spelled _ ?_⟩
  · simp [stringText, letters, List.flatMap, stringLetter, Function.comp_def, List.map_flatten]
  · intro spelling member
    obtain ⟨c, within, rfl⟩ := List.mem_map.mp member
    exact string_char_spelled c

theorem join_letters (parts : List (List Char)) : Text.join (.char ',') (parts.map letters) = letters (Text.join ',' parts) := by
  induction parts using Text.join.induct with
  | case1 => rfl
  | case2 part => rfl
  | case3 part next parts ih =>
    rw [List.map_cons, List.map_cons, Text.join, ← List.map_cons, ih, Text.join]
    simp [letters]

theorem bracketed_letters (start stop : Char) (parts : List (List Char)) :
    bracketed start stop (parts.map letters) = letters (start :: (Text.join ',' parts ++ [stop])) := by
  rw [bracketed, join_letters]
  simp [letters]

def Writes (symbol : Symbol) (sound : Bool) (text : List Letter) : Prop := ∃ cs, text = letters cs ∧ Shaped symbol sound cs

def EachWrites (symbol : Symbol) (sound : Bool) (texts : List (List Letter)) : Prop :=
  ∃ parts, texts = parts.map letters ∧ EachShaped symbol sound parts

theorem none_writes (symbol : Symbol) : EachWrites symbol true [] := ⟨[], rfl, none_shaped symbol⟩

theorem more_writes (symbol : Symbol) (sound others : Bool) (text : List Letter) (texts : List (List Letter))
    (first : Writes symbol sound text) (rest : EachWrites symbol others texts) : EachWrites symbol (sound && others) (text :: texts) := by
  obtain ⟨part, rfl, shaped⟩ := first
  obtain ⟨parts, rfl, each⟩ := rest
  exact ⟨part :: parts, rfl, more_shaped symbol sound others part parts shaped each⟩

theorem element_writes (sound : Bool) (text : List Letter) (writes : Writes .value sound text) : Writes .element sound text := by
  obtain ⟨cs, rfl, shaped⟩ := writes
  exact ⟨cs, rfl, element_shaped sound cs shaped⟩

theorem member_writes (sound : Bool) (key text : List Letter) (whole : key.any isHalf = false) (writes : Writes .value sound text) :
    Writes .member sound (stringText key ++ .char ':' :: text) := by
  obtain ⟨name, rfl⟩ := whole_chars key whole
  obtain ⟨cs, rfl, shaped⟩ := writes
  obtain ⟨quoted, spelled, wellformed⟩ := string_text_quoted name
  exact ⟨quoted ++ ':' :: cs, by rw [spelled]; simp [letters], member_shaped sound quoted cs wellformed shaped⟩

theorem array_writes (sound : Bool) (texts : List (List Letter)) (each : EachWrites .element sound texts) :
    Writes .value sound (bracketed '[' ']' texts) := by
  obtain ⟨parts, rfl, shaped⟩ := each
  exact ⟨_, bracketed_letters '[' ']' parts, array_shaped sound parts shaped⟩

theorem object_writes (sound : Bool) (texts : List (List Letter)) (each : EachWrites .member sound texts) :
    Writes .value sound (bracketed '\x7b' '\x7d' texts) := by
  obtain ⟨parts, rfl, shaped⟩ := each
  exact ⟨_, bracketed_letters '\x7b' '\x7d' parts, object_shaped sound parts shaped⟩

theorem word_writes (word : String) (plain : Text.lettersOf word = letters word.toList) (known : word ∈ ["null", "true", "false"]) :
    Writes .value true (Text.lettersOf word) :=
  ⟨word.toList, plain, derived_shaped .value _ (.word _ (List.mem_map_of_mem known))⟩

theorem text_writes (text : List Letter) (whole : text.any isHalf = false) : Writes .value true (stringText text) := by
  obtain ⟨cs, rfl⟩ := whole_chars text whole
  obtain ⟨quoted, spelled, wellformed⟩ := string_text_quoted cs
  exact ⟨quoted, spelled, derived_shaped .value quoted (.string quoted wellformed)⟩

theorem int_writes (i : Int) : Writes .value true (letters (Value.intChars i)) :=
  ⟨_, rfl, derived_shaped .value _ (.number _ (int_numeral i))⟩

theorem float_writes (x : Float) : Writes .value (Decimal.isFinite x) (letters (floatText x)) :=
  ⟨floatText x, rfl, scans_float x, fun finite => .number _ (float_numeral x finite)⟩

theorem parts_whole (texts : List (List Letter)) (start stop : Char) (whole : (bracketed start stop texts).any isHalf = false) :
    ∀ text ∈ texts, text.any isHalf = false := by
  rw [bracketed_half, List.any_eq_false] at whole
  exact fun text member => by simpa using whole text member

mutual

theorem encode_writes (bounds : Bounds) (v : Value) (text : List Letter) (written : encode bounds v = .ok text)
    (whole : text.any isHalf = false) : Writes .value v.finite text := by
  cases v with
  | null =>
    obtain rfl := Except.ok.inj written
    exact word_writes "null" (by decide) (by decide)
  | bool b =>
    obtain rfl := Except.ok.inj written
    cases b with
    | false => exact word_writes "false" (by decide) (by decide)
    | true => exact word_writes "true" (by decide) (by decide)
  | int i =>
    obtain ⟨_, rfl⟩ := (int_text_ok_iff bounds i text).mp written
    exact int_writes i
  | float x =>
    obtain rfl := Except.ok.inj written
    exact float_writes x
  | text t =>
    obtain rfl := Except.ok.inj written
    exact text_writes t (by rwa [string_text_half] at whole)
  | list items =>
    obtain ⟨_, texts, parts, rfl⟩ := (nested_ok_iff bounds _ _ _ text).mp written
    exact array_writes _ texts (encode_items_write bounds.inside items texts parts (parts_whole texts _ _ whole))
  | object fields =>
    obtain ⟨_, texts, parts, rfl⟩ := (nested_ok_iff bounds _ _ _ text).mp written
    exact object_writes _ texts (encode_fields_write bounds.inside fields texts parts (parts_whole texts _ _ whole))
  | function name kind => cases written

theorem encode_items_write (bounds : Bounds) (items : List Value) (texts : List (List Letter))
    (written : encodeItems bounds items = .ok texts) (whole : ∀ text ∈ texts, text.any isHalf = false) :
    EachWrites .element (Value.itemsFinite items) texts := by
  cases items with
  | nil =>
    obtain rfl := Except.ok.inj written
    exact none_writes .element
  | cons v vs =>
    obtain ⟨text, others, first, rest, rfl⟩ := encode_items_cons bounds v vs texts written
    obtain ⟨wholeFirst, wholeRest⟩ := List.forall_mem_cons.mp whole
    have element := element_writes _ text (encode_writes bounds v text first wholeFirst)
    exact more_writes .element _ _ text others element (encode_items_write bounds vs others rest wholeRest)

theorem encode_fields_write (bounds : Bounds) (fields : Fields) (texts : List (List Letter))
    (written : encodeFields bounds fields = .ok texts) (whole : ∀ text ∈ texts, text.any isHalf = false) :
    EachWrites .member (Value.fieldsFinite fields) texts := by
  cases fields with
  | nil =>
    obtain rfl := Except.ok.inj written
    exact none_writes .member
  | cons field rest =>
    obtain ⟨key, v⟩ := field
    obtain ⟨text, others, first, later, rfl⟩ := encode_fields_cons bounds key v rest texts written
    obtain ⟨wholeFirst, wholeRest⟩ := List.forall_mem_cons.mp whole
    rw [List.any_append, Bool.or_eq_false_iff, string_text_half, List.any_cons, Bool.or_eq_false_iff] at wholeFirst
    have member := member_writes _ key text wholeFirst.1 (encode_writes bounds v text first wholeFirst.2.2)
    exact more_writes .member _ _ _ others member (encode_fields_write bounds rest others later wholeRest)

end

-- Bytes are those of one text only.
theorem encoded_chars (text : List Letter) (bytes : Bytes) (written : Text.Utf8.encodeLetters text = .ok bytes) :
    ∃ cs, text = letters cs ∧ bytes = Text.Utf8.encode cs := by
  have complete := Text.Utf8.encode_letters_is_ok text
  rw [written] at complete
  obtain ⟨cs, rfl⟩ := whole_chars text ((Bool.not_eq_true' _).mp complete.symm)
  rw [Text.Utf8.encode_letters_chars] at written
  exact ⟨cs, rfl, (Except.ok.inj written).symm⟩

theorem shaped_bytes (sound : Bool) (cs : List Char) (shaped : Shaped .value sound cs) : IsJson (Text.Utf8.encode cs) ↔ sound = true := by
  constructor
  · rintro ⟨ds, derived, same⟩
    obtain rfl := Text.Utf8.encode_injective cs ds same
    have clean := (derived_scans .element cs derived).strays
    rw [shaped.scans.strays] at clean
    exact (Bool.not_eq_false' _).mp clean
  · intro holds
    exact ⟨cs, (element_shaped sound cs shaped).derives holds, rfl⟩

end Json
end RestDispatch
