import RestDispatch.Proofs.Json.Written
import RestDispatch.Proofs.Text.Decoding
import RestDispatch.Proofs.Value.Entries

set_option autoImplicit false

/-!
The text of a value, read back. Main statement: a value that a JSON text carries whole is read from its text as it was,
as long as its lists and objects lie no deeper inside each other than the reader allows; otherwise reading stops there.
-/
namespace RestDispatch

open Text (letters)

namespace Json

def Stop.Deep (stop : Stop) : Prop := ∃ nest, stop = .tooDeep nest

def ReadError.Deep (e : ReadError) : Prop := ∃ nest, e = .tooDeep nest

-- The characters that may come first in a value: none is skipped, and none closes a list.
def opens (c : Char) : Bool := c.toNat < 0x80 && !isBlank c && c ≠ ']'

theorem skip_opens (c : Char) (rest : List Letter) (first : opens c = true) : skip (.char c :: rest) = .char c :: rest := by
  have unblank : isBlank c = false := by simp_all [opens]
  simp [skip, isBlankLetter, unblank]

theorem digit_opens (c : Char) (digit : c.isDigit = true) : opens c = true := by
  have blank : isBlank c = false := by
    simp only [isBlank, Bool.or_eq_false_iff, decide_eq_false_iff_not]
    refine ⟨⟨⟨?_, ?_⟩, ?_⟩, ?_⟩ <;> (rintro rfl; exact absurd digit (by decide))
  have closing : c ≠ ']' := by
    rintro rfl
    exact absurd digit (by decide)
  have basic : c.toNat < 0x80 := by
    simp only [Char.isDigit, Bool.and_eq_true, decide_eq_true_eq, UInt32.le_iff_toNat_le] at digit
    exact Nat.lt_of_le_of_lt digit.2 (by decide)
  simp [opens, blank, closing, basic]

theorem written_opens (v : Value) (portable : v.portable = true) : ∃ c rest, written v = .char c :: rest ∧ opens c = true := by
  cases v with
  | null => exact ⟨'n', letters "ull".toList, by decide, by decide⟩
  | bool b =>
    cases b with
    | true => exact ⟨'t', letters "rue".toList, by decide, by decide⟩
    | false => exact ⟨'f', letters "alse".toList, by decide, by decide⟩
  | int i =>
    obtain ⟨first, rest, digits⟩ := List.exists_cons_of_ne_nil (Nat.toDigits_ne_nil (n := i.natAbs) (b := 10))
    have digit : first.isDigit = true := digits_are_digits i.natAbs first (by simp [digits])
    simp only [written, Value.intChars, digits]
    split
    · exact ⟨'-', letters (first :: rest), rfl, by decide⟩
    · exact ⟨first, letters rest, rfl, digit_opens first digit⟩
  | float x => cases portable
  | text t => exact ⟨_, _, rfl, rfl⟩
  | list items => exact ⟨_, _, rfl, rfl⟩
  | object fields => exact ⟨_, _, rfl, rfl⟩
  | function name kind => cases portable

theorem items_open (v : Value) (vs : List Value) (portable : v.portable = true) :
    ∃ c others, Text.join (.char ',') (writtenItems (v :: vs)) = .char c :: others ∧ opens c = true := by
  obtain ⟨c, others, first, opening⟩ := written_opens v portable
  exact ⟨c, _, by rw [writtenItems, first, Text.join_cons], opening⟩

theorem skip_written (v : Value) (portable : v.portable = true) (rest : List Letter) : skip (written v ++ rest) = written v ++ rest := by
  obtain ⟨c, others, first, opening⟩ := written_opens v portable
  rw [first, List.cons_append, skip_opens c _ opening]

theorem bracketed_append (start stop : Char) (parts : List (List Letter)) (rest : List Letter) :
    bracketed start stop parts ++ rest = .char start :: (Text.join (.char ',') parts ++ .char stop :: rest) := by
  simp [bracketed]

theorem members_open (field : List Letter × Value) (fields : Fields) :
    ∃ others, Text.join (.char ',') (writtenFields (field :: fields)) = .char '"' :: others := by
  obtain ⟨key, v⟩ := field
  exact ⟨_, by rw [writtenFields, stringText, List.cons_append, List.cons_append, Text.join_cons]⟩

theorem bracketed_length (start stop : Char) (parts : List (List Letter)) :
    (bracketed start stop parts).length = (Text.join (.char ',') parts).length + 2 := by
  simp [bracketed]

theorem string_text_append (text rest : List Letter) :
    stringText text ++ rest = .char '"' :: (text.flatMap stringLetter ++ .char '"' :: rest) := by
  simp [stringText]

section
variable (fuel : Nat) (bounds : Bounds)

theorem value_scalar (c : Char) (text : List Letter) (scalar : isScalarChar c = true) :
    value (fuel + 1) bounds (.char c :: text) = Json.scalar bounds (.char c :: text) := by
  have quote : c ≠ '"' := by rintro rfl; cases scalar
  have bracket : c ≠ '[' := by rintro rfl; cases scalar
  have brace : c ≠ '\x7b' := by rintro rfl; cases scalar
  simp [value, quote, bracket, brace]

theorem scalar_reads (cs : List Char) (v : Value) (rest : List Letter) (nonempty : cs ≠ []) (scalars : ∀ c ∈ cs, isScalarChar c = true)
    (ends : scalarRun rest = []) (read : scalarChars bounds cs = .ok (v, [])) :
    Within Stop.Deep (value (fuel + 1) bounds (letters cs ++ rest)) bounds 0 (v, rest) := by
  obtain ⟨c, others, rfl⟩ := List.exists_cons_of_ne_nil nonempty
  have whole := scalar_read bounds (c :: others) rest v scalars ends read
  rw [letters, List.map_cons, List.cons_append] at whole ⊢
  rw [value_scalar fuel bounds c _ (scalars c List.mem_cons_self), whole]
  exact .flat bounds (v, rest)

theorem word_reads (word : String) (v : Value) (rest : List Letter) (plain : Text.lettersOf word = letters word.toList)
    (nonempty : word.toList ≠ []) (scalars : word.toList.all isScalarChar = true) (ends : scalarRun rest = [])
    (read : scalarChars bounds word.toList = .ok (v, [])) :
    Within Stop.Deep (value (fuel + 1) bounds (Text.lettersOf word ++ rest)) bounds 0 (v, rest) := by
  rw [plain]
  exact scalar_reads fuel bounds word.toList v rest nonempty (List.all_eq_true.mp scalars) ends read

theorem string_reads (cs : List Char) (rest : List Letter) :
    Within Stop.Deep (value (fuel + 1) bounds (stringText (letters cs) ++ rest)) bounds 0 (.text (letters cs), rest) := by
  rw [string_text_append, value, string_tail_read]
  exact .flat bounds _

theorem value_array (c : Char) (text : List Letter) (first : opens c = true) :
    value (fuel + 1) bounds (.char '[' :: .char c :: text) =
      if bounds.exhausted then .error (.tooDeep .array)
      else (items fuel bounds.inside (.char c :: text)).map fun (vs, left) => (.list vs, left) := by
  have closing : c ≠ ']' := by simp_all [opens]
  simp [value, skip_opens c text first, closing]

theorem value_object (text : List Letter) :
    value (fuel + 1) bounds (.char '\x7b' :: .char '"' :: text) =
      if bounds.exhausted then .error (.tooDeep .object)
      else (members fuel bounds.inside (.char '"' :: text)).map fun (fs, left) => (.object (putAll [] fs), left) := rfl

theorem members_first (cs : List Char) (text : List Letter) :
    members (fuel + 1) bounds (stringText (letters cs) ++ .char ':' :: text) =
      (do
        let (first, rest) ← (value fuel bounds (skip text) : Except Stop (Value × List Letter))
        match skip rest with
        | .char '\x7d' :: left => .ok ([(letters cs, first)], left)
        | .char ',' :: more => (members fuel bounds (skip more)).map fun (fs, left) => ((letters cs, first) :: fs, left)
        | other => .error (.problem .expectedComma other.length)) := by
  rw [string_text_append, members, string_tail_read]
  rfl

end

-- A step goes to every nest and one to every thing in it, and each of these has a letter of its own: two steps for a letter
-- are enough.
mutual

theorem value_read (v : Value) (portable : v.portable = true) (fuel : Nat) (bounds : Bounds)
    (roomy : bounds.Roomy) (rest : List Letter) (ends : scalarRun rest = [])
    (enough : 2 * (written v).length ≤ fuel) : Within Stop.Deep (value fuel bounds (written v ++ rest)) bounds v.depth (v, rest) := by
  obtain ⟨c, others, first, opening⟩ := written_opens v portable
  obtain ⟨left, rfl⟩ : ∃ left, fuel = left + 1 := by
    rw [first, List.length_cons] at enough
    exact ⟨fuel - 1, by omega⟩
  cases v with
  | null => exact word_reads left bounds "null" .null rest (by decide) (by decide) (by decide) ends rfl
  | bool b =>
    cases b with
    | true => exact word_reads left bounds "true" (.bool true) rest (by decide) (by decide) (by decide) ends rfl
    | false => exact word_reads left bounds "false" (.bool false) rest (by decide) (by decide) (by decide) ends rfl
  | int i =>
    have some : Value.intChars i ≠ [] := by
      unfold Value.intChars
      dsimp only
      split <;> simp
    exact scalar_reads left bounds _ (.int i) rest some (int_chars_scalars i) ends
      (int_chars_read bounds i (bounds.roomy_int roomy i portable))
  | float x => cases portable
  | text t =>
    obtain ⟨cs, rfl⟩ := whole_chars t (by simpa [Value.portable] using portable)
    exact string_reads left bounds cs rest
  | list items =>
    rw [written, bracketed_length] at enough
    rw [written, bracketed_append, Value.depth]
    cases items with
    | nil => exact .nested _ ⟨.array, rfl⟩ (.flat _ _)
    | cons w ws =>
      have inner := items_read (w :: ws) (by simp) portable left bounds.inside (bounds.roomy_inside roomy) rest (by omega)
      rw [Value.portable, Value.itemsPortable, Bool.and_eq_true] at portable
      obtain ⟨d, later, lead, opening⟩ := items_open w ws portable.1
      rw [lead, List.cons_append] at inner ⊢
      rw [value_array left bounds d _ opening]
      exact .nested _ ⟨.array, rfl⟩ (inner.map _)
  | object fields =>
    rw [written, bracketed_length] at enough
    rw [written, bracketed_append, Value.depth]
    rw [Value.portable, Bool.and_eq_true, decide_eq_true_eq] at portable
    cases fields with
    | nil => exact .nested _ ⟨.object, rfl⟩ (.flat _ _)
    | cons field others =>
      have inner := members_read (field :: others) (by simp) portable.2 left bounds.inside (bounds.roomy_inside roomy) rest (by omega)
      obtain ⟨later, lead⟩ := members_open field others
      have kept : putAll [] (field :: others) = field :: others := put_all_fresh [] (field :: others) portable.1 (by simp)
      have whole := inner.map fun (fs, left) => (Value.object (putAll [] fs), left)
      dsimp only at whole
      rw [kept] at whole
      rw [lead, List.cons_append] at whole ⊢
      rw [value_object left bounds]
      exact .nested _ ⟨.object, rfl⟩ whole
  | function name kind => cases portable

theorem items_read (items : List Value) (nonempty : items ≠ []) (portable : Value.itemsPortable items = true) (fuel : Nat)
    (bounds : Bounds) (roomy : bounds.Roomy) (rest : List Letter)
    (enough : 2 * (Text.join (.char ',') (writtenItems items)).length + 1 ≤ fuel) :
    Within Stop.Deep (Json.items fuel bounds (Text.join (.char ',') (writtenItems items) ++ .char ']' :: rest)) bounds
      (Value.itemsDepth items) (items, rest) := by
  obtain ⟨left, rfl⟩ : ∃ left, fuel = left + 1 := ⟨fuel - 1, by omega⟩
  cases items with
  | nil => exact absurd rfl nonempty
  | cons v vs =>
    rw [Value.itemsPortable, Bool.and_eq_true] at portable
    cases vs with
    | nil =>
      rw [writtenItems, writtenItems, Text.join] at enough ⊢
      have first := value_read v portable.1 left bounds roomy (.char ']' :: rest) rfl (by omega)
      exact first.bind _ (.flat bounds ([v], rest))
    | cons w ws =>
      rw [writtenItems, writtenItems, Text.join, List.length_append, List.length_cons] at enough
      have first := value_read v portable.1 left bounds roomy
        (.char ',' :: (Text.join (.char ',') (writtenItems (w :: ws)) ++ .char ']' :: rest)) rfl (by omega)
      have others := items_read (w :: ws) (by simp) portable.2 left bounds roomy rest (by rw [writtenItems]; omega)
      have spelled : Text.join (.char ',') (writtenItems (v :: w :: ws)) ++ .char ']' :: rest =
          written v ++ .char ',' :: (Text.join (.char ',') (writtenItems (w :: ws)) ++ .char ']' :: rest) := by
        simp [writtenItems, Text.join]
      rw [Value.itemsPortable, Bool.and_eq_true] at portable
      obtain ⟨c, later, lead, opening⟩ := items_open w ws portable.2.1
      rw [lead, List.cons_append] at first others spelled
      have step : skip (.char c :: (later ++ .char ']' :: rest)) = .char c :: (later ++ .char ']' :: rest) := skip_opens c _ opening
      rw [← step] at others
      rw [spelled]
      exact first.bind _ (others.map _)

theorem members_read (fields : Fields) (nonempty : fields ≠ []) (portable : Value.fieldsPortable fields = true) (fuel : Nat)
    (bounds : Bounds) (roomy : bounds.Roomy) (rest : List Letter)
    (enough : 2 * (Text.join (.char ',') (writtenFields fields)).length + 1 ≤ fuel) :
    Within Stop.Deep (members fuel bounds (Text.join (.char ',') (writtenFields fields) ++ .char '\x7d' :: rest)) bounds
      (Value.fieldsDepth fields) (fields, rest) := by
  obtain ⟨left, rfl⟩ : ∃ left, fuel = left + 1 := ⟨fuel - 1, by omega⟩
  cases fields with
  | nil => exact absurd rfl nonempty
  | cons field others =>
    obtain ⟨key, v⟩ := field
    simp only [Value.fieldsPortable, Bool.and_eq_true] at portable
    obtain ⟨cs, rfl⟩ := whole_chars key (by simpa using portable.1.1)
    cases others with
    | nil =>
      rw [writtenFields, writtenFields, Text.join, List.length_append, List.length_cons] at enough
      have first := value_read v portable.1.2 left bounds roomy (.char '\x7d' :: rest) rfl (by omega)
      have spelled : Text.join (.char ',') (writtenFields [(letters cs, v)]) ++ .char '\x7d' :: rest =
          stringText (letters cs) ++ .char ':' :: (written v ++ .char '\x7d' :: rest) := by
        simp [writtenFields, Text.join]
      rw [spelled, members_first, skip_written v portable.1.2]
      exact first.bind _ (.flat bounds ([(letters cs, v)], rest))
    | cons next later =>
      obtain ⟨name, w⟩ := next
      rw [writtenFields, writtenFields, Text.join, List.length_append, List.length_append, List.length_cons, List.length_cons] at enough
      have first := value_read v portable.1.2 left bounds roomy
        (.char ',' :: (Text.join (.char ',') (writtenFields ((name, w) :: later)) ++ .char '\x7d' :: rest)) rfl (by omega)
      have others := members_read ((name, w) :: later) (by simp) portable.2 left bounds roomy rest (by rw [writtenFields]; omega)
      have spelled : Text.join (.char ',') (writtenFields ((letters cs, v) :: (name, w) :: later)) ++ .char '\x7d' :: rest =
          stringText (letters cs) ++ .char ':' ::
            (written v ++ .char ',' :: (Text.join (.char ',') (writtenFields ((name, w) :: later)) ++ .char '\x7d' :: rest)) := by
        simp [writtenFields, Text.join]
      obtain ⟨tail, lead⟩ := members_open (name, w) later
      rw [lead, List.cons_append] at first others spelled
      rw [spelled, members_first, skip_written v portable.1.2]
      exact first.bind _ (others.map _)

end

theorem decode_written (bounds : Bounds) (roomy : bounds.Roomy) (v : Value) (portable : v.portable = true) :
    Within ReadError.Deep (decode bounds (written v)) bounds v.depth v := by
  have skipped : skip (written v) = written v := by simpa using skip_written v portable []
  have reads := value_read v portable (2 * (written v).length + 1) bounds roomy [] rfl (by omega)
  rw [List.append_nil] at reads
  rw [decode, skipped]
  constructor
  · intro admits
    rw [reads.admitted admits]
    rfl
  · intro deep
    obtain ⟨_, stopped, nest, rfl⟩ := reads.tooDeep deep
    exact ⟨.tooDeep nest, by rw [stopped], nest, rfl⟩

def writtenBytes (v : Value) : Bytes := Text.Utf8.encode (Text.leadingChars (written v))

theorem written_chars (v : Value) (portable : v.portable = true) :
    ∃ c cs, written v = letters (c :: cs) ∧ c.toNat < 0x80 ∧ ∀ other ∈ c :: cs, other.toNat ≠ 0 := by
  obtain ⟨c, others, first, opening⟩ := written_opens v portable
  obtain ⟨cs, spelled, visible⟩ := visible_chars (written v) (written_visible v portable)
  obtain ⟨d, ds, rfl⟩ : ∃ d ds, cs = d :: ds := by
    apply List.exists_cons_of_ne_nil
    rintro rfl
    rw [spelled] at first
    cases first
  have same : c = d := by
    rw [spelled] at first
    exact (Letter.char.inj (List.cons.inj first).1).symm
  subst same
  refine ⟨c, ds, spelled, by simp_all [opens], fun other member => ?_⟩
  have shown := visible other member
  omega

theorem decode_bytes_written (bounds : Bounds) (roomy : bounds.Roomy) (v : Value)
    (portable : v.portable = true) : Within ReadError.Deep (decodeBytes bounds (writtenBytes v)) bounds v.depth v := by
  obtain ⟨c, cs, spelled, basic, nonzero⟩ := written_chars v portable
  have decoded := decode_written bounds roomy v portable
  rw [spelled] at decoded
  rw [decodeBytes, writtenBytes, spelled, Text.leadingChars_letters, Text.decode_detected_encode c cs basic nonzero]
  exact decoded

theorem encode_written_letters (v : Value) (portable : v.portable = true) : Text.Utf8.encodeLetters (written v) = .ok (writtenBytes v) := by
  obtain ⟨c, cs, spelled, _, _⟩ := written_chars v portable
  rw [writtenBytes, spelled, Text.Utf8.encode_letters_chars, Text.leadingChars_letters]

end Json
end RestDispatch
