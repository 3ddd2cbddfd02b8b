import FlowMeter.Json.Value
import FlowMeter.Proofs.Dotted

/-!
# JSON is read back

A reader for the whole grammar of JSON: blanks between tokens, all escapes within strings, numbers with
fraction and exponent, members of objects in their order with none left out. It reads the compact text of a
value as that value. The step for strings is that the text of one character is read as this character,
whatever follows; so the end of a string is found where it stands, and nothing within a string ends it
early.
-/

namespace FlowMeter.Json

/-- What a JSON text stands for. A number is `mantissa * 10 ^ exponent`, without rounding. The members of an
object are all kept, in their order. -/
inductive Datum where
  | null
  | boolean (value : Bool)
  | number (mantissa exponent : Int)
  | string (text : String)
  | array (items : List Datum)
  | object (members : List (String × Datum))
deriving Repr

/-- Reads something off the front of a text and leaves the rest. -/
abbrev Reader (A : Type) := List Char → Option (A × List Char)

variable {A B : Type}

/-- Whether a character may stand between tokens. -/
def isBlank (c : Char) : Bool :=
  c == ' ' || c == '\t' || c == '\n' || c == '\r'

/-- A text without the blanks at its front. -/
def skipBlanks (text : List Char) : List Char :=
  text.dropWhile isBlank

/-! ### Strings -/

/-- The character that a character behind a backslash stands for. -/
def unescape? : Char → Option Char
  | '"' => some '"'
  | '\\' => some '\\'
  | '/' => some '/'
  | 'b' => some '\x08'
  | 'f' => some '\x0c'
  | 'n' => some '\n'
  | 'r' => some '\r'
  | 't' => some '\t'
  | _ => none

/-- Whether a unit is the first half of a character. -/
def isHighUnit (unit : Nat) : Bool :=
  0xd800 ≤ unit && unit < 0xdc00

/-- Whether a unit is the second half of a character. -/
def isLowUnit (unit : Nat) : Bool :=
  0xdc00 ≤ unit && unit < 0xe000

/-- The character of two halves. -/
def joinUnits (high low : Nat) : Char :=
  Char.ofNat (0x10000 + (high - 0xd800) * 0x400 + (low - 0xdc00))

/-- Puts a character in front of those that are read. -/
def push (c : Char) (read : Option (List Char × List Char)) : Option (List Char × List Char) :=
  read.map fun (chars, rest) => (c :: chars, rest)

/-- Reads the characters of a string and the quote that ends it. A half of a character without its other
half is refused, and so is a control character that is not escaped. -/
def readChars? : Reader (List Char)
  | '"' :: rest => some ([], rest)
  | '\\' :: 'u' :: a :: b :: c :: d :: rest => do
    let unit ← Decimal.read? 16 [a, b, c, d]
    if isHighUnit unit then
      match rest with
      | '\\' :: 'u' :: e :: f :: g :: h :: rest => do
        let low ← Decimal.read? 16 [e, f, g, h]
        if isLowUnit low then push (joinUnits unit low) (readChars? rest) else none
      | _ => none
    else if isLowUnit unit then none
    else push (Char.ofNat unit) (readChars? rest)
  | '\\' :: c :: rest => do push (← unescape? c) (readChars? rest)
  | c :: rest => if c.toNat < 0x20 then none else push c (readChars? rest)
  | [] => none

/-- Reads a string. -/
def readString? : Reader String
  | '"' :: rest => (readChars? rest).map fun (chars, rest) => (String.ofList chars, rest)
  | _ => none

/-! ### Numbers -/

/-- Reads digits, at least one. -/
def readDigits? : Reader (List Char) := fun text =>
  let digits := text.takeWhile Char.isDigit
  if digits.isEmpty then none else some (digits, text.dropWhile Char.isDigit)

/-- Reads the digits in front of a fraction, without needless zeros. -/
def readWhole? : Reader (List Char) := fun text => do
  let (digits, rest) ← readDigits? text
  if digits.head? = some '0' ∧ 1 < digits.length then none else some (digits, rest)

/-- Reads the digits of a fraction, if there is one. -/
def readFraction? : Reader (List Char)
  | '.' :: rest => readDigits? rest
  | rest => some ([], rest)

/-- Reads the sign of an exponent, if there is one: whether it is a minus. -/
def readSign : List Char → Bool × List Char
  | '-' :: rest => (true, rest)
  | '+' :: rest => (false, rest)
  | rest => (false, rest)

/-- A number with its sign. -/
def signed (negative : Bool) (digits : List Char) : Int :=
  if negative then -(Nat.ofDigitChars 10 digits 0) else Nat.ofDigitChars 10 digits 0

/-- Reads an exponent, which is zero where there is none. -/
def readExponent? : Reader Int := fun text =>
  match text with
  | c :: rest =>
    if c = 'e' ∨ c = 'E' then do
      let (negative, rest) := readSign rest
      let (digits, rest) ← readDigits? rest
      some (signed negative digits, rest)
    else some (0, text)
  | [] => some (0, [])

/-- Reads the minus of a number, if there is one. -/
def readMinus : List Char → Bool × List Char
  | '-' :: rest => (true, rest)
  | rest => (false, rest)

/-- Reads a number. -/
def readNumber? : Reader Datum := fun text => do
  let (negative, rest) := readMinus text
  let (whole, rest) ← readWhole? rest
  let (fraction, rest) ← readFraction? rest
  let (exponent, rest) ← readExponent? rest
  some (.number (signed negative (whole ++ fraction)) (exponent - fraction.length), rest)

/-! ### Values -/

/-- Reads a word that stands for something. -/
def readWord? (word : String) (datum : Datum) : Reader Datum := fun text =>
  (word.toList.isPrefixOf? text).map (datum, ·)

/-- Reads at most so many items, at least one, with commas between them, and the character that closes
them. -/
def readItems? (readItem : Reader A) (close : Char) : Nat → Reader (List A)
  | 0, _ => none
  | count + 1, text => do
    let (item, rest) ← readItem (skipBlanks text)
    match skipBlanks rest with
    | ',' :: rest => do
      let (items, rest) ← readItems? readItem close count rest
      some (item :: items, rest)
    | c :: rest => if c = close then some ([item], rest) else none
    | [] => none

/-- Reads items with commas between them, and the character that closes them. An item has at least one
character, so there are no more items than characters. -/
def readSequence? (readItem : Reader A) (close : Char) : Reader (List A) := fun text =>
  match skipBlanks text with
  | c :: rest => if c = close then some ([], rest) else readItems? readItem close text.length text
  | [] => none

/-- Reads a member of an object. -/
def readMember? (readValue : Reader Datum) : Reader (String × Datum) := fun text => do
  let (name, rest) ← readString? text
  match skipBlanks rest with
  | ':' :: rest => do
    let (value, rest) ← readValue (skipBlanks rest)
    some ((name, value), rest)
  | _ => none

/-- Reads a value with at most so many levels. -/
def readValue? : Nat → Reader Datum
  | 0, _ => none
  | depth + 1, text =>
    match text with
    | '"' :: _ => (readString? text).map fun (string, rest) => (.string string, rest)
    | '[' :: rest =>
      (readSequence? (readValue? depth) ']' rest).map fun (items, rest) => (.array items, rest)
    | '\x7b' :: rest =>
      (readSequence? (readMember? (readValue? depth)) '\x7d' rest).map fun (members, rest) =>
        (.object members, rest)
    | 't' :: _ => readWord? "true" (.boolean true) text
    | 'f' :: _ => readWord? "false" (.boolean false) text
    | 'n' :: _ => readWord? "null" .null text
    | _ => readNumber? text

/-- What a text stands for: one value, with blanks around it. A level has at least one character, so there
are no more levels than characters. -/
def read? (text : String) : Option Datum := do
  let (datum, rest) ← readValue? text.length (skipBlanks text.toList)
  if (skipBlanks rest).isEmpty then some datum else none

/-! ### Strings are read back -/

/-- A control character is read from its unit. -/
theorem readChars?_control {c : Char} (h : c.toNat < 0x20) (rest : List Char) :
    readChars? (['\\', 'u', '0', '0', hexDigit (c.toNat / 16), hexDigit (c.toNat % 16)] ++ rest) =
      push c (readChars? rest) := by
  have hhigh : Decimal.digitValue? 16 (c.toNat / 16).digitChar = some (c.toNat / 16) :=
    Decimal.digitValue?_digitChar (by decide) (by omega)
  have hlow : Decimal.digitValue? 16 (c.toNat % 16).digitChar = some (c.toNat % 16) :=
    Decimal.digitValue?_digitChar (by decide) (by omega)
  have hzero : Decimal.digitValue? 16 '0' = some 0 := by decide
  have hunit : Decimal.read? 16 ['0', '0', hexDigit (c.toNat / 16), hexDigit (c.toNat % 16)] =
      some c.toNat := by
    simp [Decimal.read?, Decimal.readDigits?, hexDigit, hzero, hhigh, hlow, Nat.div_add_mod']
  have hnotHigh : isHighUnit c.toNat = false := by simp [isHighUnit]; omega
  have hnotLow : isLowUnit c.toNat = false := by simp [isLowUnit]; omega
  simp [readChars?, hunit, hnotHigh, hnotLow, Char.ofNat_toNat]

/-- A character that needs no escape is read as it is. -/
theorem readChars?_plain {c : Char} (hquote : c ≠ '"') (hbackslash : c ≠ '\\') (h : ¬c.toNat < 0x20)
    (rest : List Char) : readChars? (c :: rest) = push c (readChars? rest) := by
  rw [readChars?, if_neg h]
  · exact hquote
  · exact fun _ _ _ _ _ hc _ => hbackslash hc
  · exact fun _ _ hc _ => hbackslash hc

/-- A character is read back from its text within a string, whatever follows. -/
theorem readChars?_escapeChar (c : Char) (rest : List Char) :
    readChars? (escapeChar c ++ rest) = push c (readChars? rest) := by
  unfold escapeChar
  split_ifs with h₁ h₂ h₃ h₄ h₅ h₆ h₇ h₈
  · rw [beq_iff_eq.mp h₁]; rfl
  · rw [beq_iff_eq.mp h₂]; rfl
  · rw [beq_iff_eq.mp h₃]; rfl
  · rw [beq_iff_eq.mp h₄]; rfl
  · rw [beq_iff_eq.mp h₅]; rfl
  · rw [beq_iff_eq.mp h₆]; rfl
  · rw [beq_iff_eq.mp h₇]; rfl
  · exact readChars?_control h₈ rest
  · exact readChars?_plain (by simpa using h₁) (by simpa using h₂) h₈ rest

/-- The characters of a text are read back up to the quote behind them. -/
theorem readChars?_flatMap_escapeChar (chars rest : List Char) :
    readChars? (chars.flatMap escapeChar ++ '"' :: rest) = some (chars, rest) := by
  induction chars with
  | nil => rfl
  | cons c chars ih =>
    rw [List.flatMap_cons, List.append_assoc, readChars?_escapeChar, ih]
    rfl

/-- A string is read back, whatever follows. -/
theorem readString?_quote (text : String) (rest : List Char) :
    readString? (quote text ++ rest) = some (text, rest) := by
  rw [quote, List.cons_append, List.cons_append, List.append_assoc, readString?, List.singleton_append,
    readChars?_flatMap_escapeChar, Option.map_some]
  exact congrArg (fun text => some (text, rest)) String.ofList_toList

/-! ### Values are read back -/

/-- What may stand behind a value: a comma, the end of a list, or nothing. -/
def ValueEnd (rest : List Char) : Prop :=
  ∀ c ∈ rest.head?, c = ',' ∨ c = ']' ∨ c = '\x7d'

/-- A value ends at a comma. -/
theorem ValueEnd.comma (rest : List Char) : ValueEnd (',' :: rest) := by
  rintro c ⟨⟩
  exact .inl rfl

/-- A value ends at the mark that closes an array or an object. -/
theorem ValueEnd.close {close : Char} (h : close = ']' ∨ close = '\x7d') (rest : List Char) :
    ValueEnd (close :: rest) := by
  rintro c ⟨⟩
  exact .inr h

/-- Whether a text starts with a token other than the end of a list. -/
def StartsItem (text : List Char) : Prop :=
  ∃ c rest, text = c :: rest ∧ ¬isBlank c ∧ c ≠ ']' ∧ c ≠ '\x7d'

/-- A text that is read as something, whatever follows that may stand behind a value. -/
structure ReadsBack (read : Reader A) (text : List Char) (a : A) : Prop where
  startsItem : StartsItem text
  read_append : ∀ rest, ValueEnd rest → read (text ++ rest) = some (a, rest)

/-- What starts an item does so whatever follows. -/
theorem StartsItem.append {text : List Char} (h : StartsItem text) (rest : List Char) :
    StartsItem (text ++ rest) := by
  obtain ⟨c, text, rfl, hc⟩ := h
  exact ⟨c, text ++ rest, rfl, hc⟩

/-- Nothing is skipped in front of an item. -/
theorem StartsItem.skipBlanks_eq {text : List Char} (h : StartsItem text) : skipBlanks text = text := by
  obtain ⟨c, text, rfl, hblank, -⟩ := h
  exact List.dropWhile_cons_of_neg hblank

/-- Texts that are joined with a comma between each two. -/
theorem eq_intercalate {text : B → List Char} {join : List B → List Char} (hnil : join [] = [])
    (hone : ∀ b, join [b] = text b)
    (hmore : ∀ b next rest, join (b :: next :: rest) = text b ++ ',' :: join (next :: rest))
    (items : List B) : join items = [','].intercalate (items.map text) := by
  induction items with
  | nil => exact hnil
  | cons item items ih =>
    cases items with
    | nil => rw [hone, List.map_singleton, List.intercalate_singleton]
    | cons next items =>
      rw [hmore, ih]
      simp only [List.map_cons, List.intercalate_cons_cons, List.append_assoc, List.singleton_append]

/-- Texts with a separator between each two are at most one more than the characters. -/
theorem length_le_length_intercalate (c : Char) (texts : List (List Char)) :
    texts.length ≤ ([c].intercalate texts).length + 1 := by
  induction texts with
  | nil => exact Nat.zero_le _
  | cons text texts ih =>
    cases texts with
    | nil => simp
    | cons next texts =>
      rw [List.intercalate_cons_cons]
      simp only [List.length_cons, List.length_append, List.length_nil] at ih ⊢
      omega

/-- A text is not longer than the texts that it is one of, with separators between them. -/
theorem length_le_of_mem_intercalate {c : Char} {text : List Char} {texts : List (List Char)}
    (h : text ∈ texts) : text.length ≤ ([c].intercalate texts).length := by
  induction texts with
  | nil => nomatch h
  | cons first texts ih =>
    cases texts with
    | nil => rw [List.mem_singleton.mp h, List.intercalate_singleton]
    | cons next texts =>
      rw [List.intercalate_cons_cons, List.length_append, List.length_append]
      obtain rfl | h := List.mem_cons.mp h
      · omega
      · exact (ih h).trans (Nat.le_add_left _ _)

/-- The last item is read back with the character that closes the items. -/
theorem readItems?_last {read : Reader A} {text : List Char} {a : A} (h : ReadsBack read text a)
    {close : Char} (hclose : close = ']' ∨ close = '\x7d') (count : Nat) (rest : List Char) :
    readItems? read close (count + 1) (text ++ close :: rest) = some ([a], rest) := by
  rw [readItems?, (h.startsItem.append _).skipBlanks_eq, h.read_append _ (.close hclose rest)]
  obtain rfl | rfl := hclose <;> rfl

/-- An item is read back with the comma behind it. -/
theorem readItems?_comma {read : Reader A} {text : List Char} {a : A} (h : ReadsBack read text a)
    (close : Char) (count : Nat) (rest : List Char) :
    readItems? read close (count + 1) (text ++ ',' :: rest) =
      (readItems? read close count rest).map fun (items, rest) => (a :: items, rest) := by
  rw [readItems?, (h.startsItem.append _).skipBlanks_eq, h.read_append _ (.comma rest)]
  change (readItems? read close count rest).bind _ = _
  cases readItems? read close count rest <;> rfl

/-- Items are read back from their texts with commas between them. -/
theorem readItems?_intercalate {read : Reader A} {text : B → List Char} {meaning : B → A} {close : Char}
    (hclose : close = ']' ∨ close = '\x7d') {item : B} {items : List B}
    (h : ∀ b ∈ item :: items, ReadsBack read (text b) (meaning b)) {count : Nat}
    (hcount : items.length ≤ count) (rest : List Char) :
    readItems? read close (count + 1) ([','].intercalate ((item :: items).map text) ++ close :: rest) =
      some ((item :: items).map meaning, rest) := by
  have hitem : ReadsBack read (text item) (meaning item) := h item List.mem_cons_self
  induction items generalizing item count with
  | nil =>
    rw [List.map_singleton, List.intercalate_singleton]
    exact readItems?_last hitem hclose count rest
  | cons next items ih =>
    have hitems : ∀ b ∈ next :: items, ReadsBack read (text b) (meaning b) := fun b hb =>
      h b (List.mem_cons_of_mem _ hb)
    obtain ⟨count, rfl⟩ := Nat.exists_eq_add_of_le' (Nat.one_le_of_lt hcount)
    rw [List.map_cons, List.map_cons, List.intercalate_cons_cons, List.append_assoc, List.append_assoc,
      List.singleton_append, readItems?_comma hitem, ← List.map_cons,
      ih hitems (Nat.le_of_succ_le_succ hcount) (hitems next List.mem_cons_self)]
    rfl

/-- A sequence that does not end at once has items. -/
theorem readSequence?_of_startsItem (read : Reader A) {close : Char} (hclose : close = ']' ∨ close = '\x7d')
    {text : List Char} (h : StartsItem text) :
    readSequence? read close text = readItems? read close text.length text := by
  rw [readSequence?, h.skipBlanks_eq]
  obtain ⟨c, rest, rfl, -, hbracket, hbrace⟩ := h
  refine if_neg ?_
  obtain rfl | rfl := hclose
  · exact hbracket
  · exact hbrace

/-- A sequence is read back from the texts of its items with commas between them. -/
theorem readSequence?_intercalate {read : Reader A} {text : B → List Char} {meaning : B → A} {close : Char}
    (hclose : close = ']' ∨ close = '\x7d') {items : List B}
    (h : ∀ b ∈ items, ReadsBack read (text b) (meaning b)) (rest : List Char) :
    readSequence? read close ([','].intercalate (items.map text) ++ close :: rest) =
      some (items.map meaning, rest) := by
  cases items with
  | nil =>
    have hblank : skipBlanks (close :: rest) = close :: rest := by
      obtain rfl | rfl := hclose <;> rfl
    rw [readSequence?, List.map_nil, List.intercalate_nil, List.nil_append, hblank]
    exact if_pos rfl
  | cons item items =>
    have hstart : StartsItem ([','].intercalate ((item :: items).map text) ++ close :: rest) := by
      rw [List.map_cons, Address.intercalate_cons, List.append_assoc]
      exact (h item List.mem_cons_self).startsItem.append _
    have hcount := length_le_length_intercalate ',' ((item :: items).map text)
    rw [List.length_map, List.length_cons] at hcount
    rw [readSequence?_of_startsItem read hclose hstart, List.length_append, List.length_cons,
      ← Nat.add_assoc, readItems?_intercalate hclose h (by omega)]

/-- A member is read back where its value is. -/
theorem ReadsBack.member {readValue : Reader Datum} {text : List Char} {datum : Datum}
    (h : ReadsBack readValue text datum) (name : String) :
    ReadsBack (readMember? readValue) (quote name ++ ':' :: text) (name, datum) where
  startsItem := ⟨'"', _, rfl, by decide⟩
  read_append rest hrest := by
    have hcolon : skipBlanks (':' :: (text ++ rest)) = ':' :: (text ++ rest) := rfl
    rw [readMember?, List.append_assoc, readString?_quote, List.cons_append]
    simp only [Option.bind_eq_bind, Option.bind_some, hcolon]
    rw [(h.startsItem.append rest).skipBlanks_eq, h.read_append rest hrest]
    rfl

/-! ### Numbers are read back -/

/-- No digit stands behind a value. -/
theorem ValueEnd.not_isDigit {c : Char} {rest : List Char} (h : ValueEnd (c :: rest)) : ¬c.isDigit := by
  obtain rfl | rfl | rfl := h c rfl <;> decide

/-- The digits of a number are read up to the end of the value. -/
theorem readDigits?_toDigits (n : Nat) {rest : List Char} (hrest : ValueEnd rest) :
    readDigits? (Nat.toDigits 10 n ++ rest) = some (Nat.toDigits 10 n, rest) := by
  have hdigits : ∀ c ∈ Nat.toDigits 10 n, c.isDigit := fun c hc =>
    Nat.isDigit_of_mem_toDigits (by decide) (by decide) hc
  have htake : rest.takeWhile Char.isDigit = [] ∧ rest.dropWhile Char.isDigit = rest := by
    cases rest with
    | nil => exact ⟨rfl, rfl⟩
    | cons c rest =>
      exact ⟨List.takeWhile_cons_of_neg hrest.not_isDigit, List.dropWhile_cons_of_neg hrest.not_isDigit⟩
  simp only [readDigits?]
  rw [List.takeWhile_append_of_pos hdigits, List.dropWhile_append_of_pos hdigits, htake.1, htake.2,
    List.append_nil, if_neg (by simp [Nat.toDigits_ne_nil])]

/-- A number has no needless zero. -/
theorem readWhole?_toDigits (n : Nat) {rest : List Char} (hrest : ValueEnd rest) :
    readWhole? (Nat.toDigits 10 n ++ rest) = some (Nat.toDigits 10 n, rest) := by
  have hzero : ¬((Nat.toDigits 10 n).head? = some '0' ∧ 1 < (Nat.toDigits 10 n).length) := by
    rintro ⟨hhead, hlength⟩
    refine Decimal.head?_toDigits_ne_zero (by decide) (by decide) ?_ hhead
    rintro rfl
    exact absurd hlength (by decide)
  rw [readWhole?, readDigits?_toDigits n hrest]
  exact if_neg hzero

/-- A number is read back from its digits. -/
theorem readNumber?_toDigits (n : Nat) {rest : List Char} (hrest : ValueEnd rest) :
    readNumber? (Nat.toDigits 10 n ++ rest) = some (.number n 0, rest) := by
  have hminus : readMinus (Nat.toDigits 10 n ++ rest) = (false, Nat.toDigits 10 n ++ rest) := by
    obtain ⟨c, digits, hdigits, hc⟩ := Decimal.exists_toDigits_eq_cons n
    rw [hdigits, List.cons_append, readMinus]
    rintro rest ⟨⟩
    contradiction
  have hwhole := readWhole?_toDigits n hrest
  have hend : readFraction? rest = some ([], rest) ∧ readExponent? rest = some (0, rest) := by
    cases rest with
    | nil => exact ⟨rfl, rfl⟩
    | cons c rest => obtain rfl | rfl | rfl := hrest c rfl <;> exact ⟨rfl, rfl⟩
  simp [readNumber?, hminus, hwhole, hend, signed, Nat.ofDigitChars_ten_toDigits]

/-- A value that starts with a digit is a number. -/
theorem readValue?_of_isDigit {c : Char} (hc : c.isDigit) (depth : Nat) (rest : List Char) :
    readValue? (depth + 1) (c :: rest) = readNumber? (c :: rest) := by
  rw [readValue?]
  all_goals
    rintro _ ⟨⟩
    contradiction

/-- A digit starts an item. -/
theorem StartsItem.of_isDigit {c : Char} (hc : c.isDigit) (rest : List Char) : StartsItem (c :: rest) := by
  refine ⟨c, rest, rfl, fun hblank => ?_, ?_, ?_⟩
  · simp only [isBlank, Bool.or_eq_true, beq_iff_eq] at hblank
    obtain ((rfl | rfl) | rfl) | rfl := hblank <;> contradiction
  · rintro rfl
    contradiction
  · rintro rfl
    contradiction

namespace Value

mutual

/-- What a value stands for. -/
def datum : Value → Datum
  | .string text => .string text
  | .number n => .number n 0
  | .array items => .array (itemData items)
  | .object members => .object (memberData members)

/-- What items stand for. -/
def itemData : List Value → List Datum
  | [] => []
  | item :: items => datum item :: itemData items

/-- What members stand for. -/
def memberData : List (String × Value) → List (String × Datum)
  | [] => []
  | (name, value) :: members => (name, datum value) :: memberData members

end

/-- The data of an array are those of its items, in order. -/
theorem itemData_eq (items : List Value) : itemData items = items.map datum := by
  induction items with
  | nil => rfl
  | cons item items ih => rw [itemData, ih, List.map_cons]

/-- The data of an object are those of its members, each under its name, in order. -/
theorem memberData_eq (members : List (String × Value)) :
    memberData members = members.map fun (name, value) => (name, value.datum) := by
  induction members with
  | nil => rfl
  | cons member members ih => rw [memberData, ih, List.map_cons]

/-- The texts of items are joined with commas. -/
theorem itemChars_eq (items : List Value) : itemChars items = [','].intercalate (items.map chars) :=
  eq_intercalate rfl (fun _ => rfl) (fun _ _ _ => rfl) items

/-- The text of a member. -/
def memberText (member : String × Value) : List Char :=
  quote member.1 ++ ':' :: member.2.chars

/-- The texts of members are joined with commas. -/
theorem memberChars_eq (members : List (String × Value)) :
    memberChars members = [','].intercalate (members.map memberText) :=
  eq_intercalate rfl (fun _ => rfl) (fun _ _ _ => rfl) members

/-- An item has fewer characters than its array. -/
theorem length_chars_lt_array {item : Value} {items : List Value} (h : item ∈ items) :
    item.chars.length < (array items).chars.length := by
  have hlength := length_le_of_mem_intercalate (c := ',') (List.mem_map_of_mem (f := chars) h)
  rw [← itemChars_eq] at hlength
  simp only [chars, List.length_append, List.length_cons]
  omega

/-- A value has fewer characters than the object that it is a member of. -/
theorem length_chars_lt_object {member : String × Value} {members : List (String × Value)}
    (h : member ∈ members) : member.2.chars.length < (object members).chars.length := by
  have hlength := length_le_of_mem_intercalate (c := ',') (List.mem_map_of_mem (f := memberText) h)
  rw [← memberChars_eq] at hlength
  simp only [chars, memberText, List.length_append, List.length_cons] at hlength ⊢
  omega

/-- A value has at least one character. -/
theorem chars_ne_nil (value : Value) : value.chars ≠ [] := by
  cases value <;> simp [chars, quote, Nat.toDigits_ne_nil]

/-- A string is read back from its text. -/
theorem readsBack_string (text : String) (depth : Nat) :
    ReadsBack (readValue? (depth + 1)) (string text).chars (string text).datum where
  startsItem := ⟨'"', _, rfl, by decide⟩
  read_append rest _ := by
    change (readString? (quote text ++ rest)).map _ = _
    rw [readString?_quote]
    rfl

/-- A number is read back from its digits. -/
theorem readsBack_number (n depth : Nat) :
    ReadsBack (readValue? (depth + 1)) (number n).chars (number n).datum := by
  obtain ⟨c, digits, hdigits, hc⟩ := Decimal.exists_toDigits_eq_cons n
  refine ⟨?_, fun rest hrest => ?_⟩
  · rw [chars, hdigits]
    exact .of_isDigit hc digits
  · rw [chars, hdigits, List.cons_append, readValue?_of_isDigit hc, ← List.cons_append, ← hdigits,
      readNumber?_toDigits n hrest]
    rfl

/-- An array is read back where its items are. -/
theorem readsBack_array {items : List Value} {depth : Nat}
    (h : ∀ item ∈ items, ReadsBack (readValue? depth) item.chars item.datum) :
    ReadsBack (readValue? (depth + 1)) (array items).chars (array items).datum where
  startsItem := ⟨'[', _, rfl, by decide⟩
  read_append rest _ := by
    have hread := readSequence?_intercalate (.inl rfl) h rest
    rw [← itemChars_eq, ← itemData_eq] at hread
    change (readSequence? (readValue? depth) ']' (itemChars items ++ [']'] ++ rest)).map _ = _
    rw [List.append_assoc, List.singleton_append, hread]
    rfl

/-- An object is read back where its members are. -/
theorem readsBack_object {members : List (String × Value)} {depth : Nat}
    (h : ∀ member ∈ members, ReadsBack (readValue? depth) member.2.chars member.2.datum) :
    ReadsBack (readValue? (depth + 1)) (object members).chars (object members).datum where
  startsItem := ⟨'\x7b', _, rfl, by decide⟩
  read_append rest _ := by
    have hmembers : ∀ member ∈ members,
        ReadsBack (readMember? (readValue? depth)) (memberText member) (member.1, member.2.datum) :=
      fun member hmember => (h member hmember).member member.1
    have hread := readSequence?_intercalate (.inr rfl) hmembers rest
    rw [← memberChars_eq, ← memberData_eq] at hread
    change (readSequence? (readMember? (readValue? depth)) '\x7d'
      (memberChars members ++ ['\x7d'] ++ rest)).map _ = _
    rw [List.append_assoc, List.singleton_append, hread]
    rfl

/-- A value is read back with as many levels as it has characters. -/
theorem readsBack (value : Value) {depth : Nat} (h : value.chars.length ≤ depth) :
    ReadsBack (readValue? depth) value.chars value.datum := by
  -- A value inside an array or an object is shorter than this, so one level less is enough for it.
  induction depth generalizing value with
  | zero => exact absurd (List.eq_nil_of_length_eq_zero (Nat.le_zero.mp h)) value.chars_ne_nil
  | succ depth ih =>
    cases value with
    | string text => exact readsBack_string text depth
    | number n => exact readsBack_number n depth
    | array items =>
      refine readsBack_array fun item hitem => ih item ?_
      exact Nat.le_of_lt_succ ((length_chars_lt_array hitem).trans_le h)
    | object members =>
      refine readsBack_object fun member hmember => ih member.2 ?_
      exact Nat.le_of_lt_succ ((length_chars_lt_object hmember).trans_le h)

end Value

/-- The compact text of a value stands for the value. -/
theorem read?_text (value : Value) : read? value.text = some value.datum := by
  have hvalue := value.readsBack le_rfl
  have hread : readValue? value.chars.length value.chars = some (value.datum, []) := by
    simpa using hvalue.read_append [] nofun
  rw [read?, Value.text, String.length_ofList, String.toList_ofList, hvalue.startsItem.skipBlanks_eq, hread]
  rfl

end FlowMeter.Json
