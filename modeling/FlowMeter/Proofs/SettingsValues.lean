import FlowMeter.Settings.Load
import FlowMeter.Proofs.Digits
import FlowMeter.Proofs.BlockNodes

/-!
# Values of settings are read back

A number of seconds is read as a length of time, a number of days as a number, and the words for truth values,
ways of aggregation and levels as what they stand for. A text in quotes stands for itself, whatever it looks
like. All of these but the text in quotes are words, so a settings text needs no quotes for them.
-/

namespace FlowMeter

namespace Decimal

/-- Reading on in digits does not make a number less. -/
theorem le_of_readDigits? {base value n : Nat} {text : List Char} (hbase : 1 ≤ base)
    (h : readDigits? base value text = some n) : value ≤ n := by
  induction text generalizing value with
  | nil => exact (Option.some.inj h).le
  | cons c rest ih =>
    rw [readDigits?] at h
    cases hc : digitValue? base c with
    | none => simp [hc] at h
    | some digit =>
      rw [hc] at h
      calc
        value ≤ value * base := Nat.le_mul_of_pos_right value hbase
        _ ≤ value * base + digit := Nat.le_add_right ..
        _ ≤ n := ih h

end Decimal

namespace Duration

/-- Digits of a number that fits are read in a length of time. -/
theorem readWhole_append {value n : Nat} {text rest : List Char} (hn : n < UInt64.size)
    (h : Decimal.readDigits? 10 value text = some n) :
    readWhole value (text ++ rest) = readWhole n rest := by
  induction text generalizing value with
  | nil => rw [Option.some.inj h, List.nil_append]
  | cons c tail ih =>
    rw [Decimal.readDigits?] at h
    rw [List.cons_append, readWhole]
    cases hc : Decimal.digitValue? 10 c with
    | none => simp [hc] at h
    | some digit =>
      rw [hc] at h
      have hfits : value * 10 + digit < UInt64.size :=
        Nat.lt_of_le_of_lt (Decimal.le_of_readDigits? (by decide) h) hn
      simp only [fit?, if_pos hfits]
      exact ih h

/-- A number of seconds is read up to the end of its unit. -/
theorem readSpan_seconds {n : Nat} (hn : n < UInt64.size) :
    ∃ duration, readSpan zero (Nat.toDigits 10 n ++ ['s']) = .ok (duration, []) ∧
      duration.seconds = n ∧ duration.nanos = 0 := by
  have hread : Decimal.readDigits? 10 0 (Nat.toDigits 10 n) = some n :=
    Decimal.readDigits?_toDigits (by decide) (by decide) n
  have hwhole : readWhole 0 (Nat.toDigits 10 n ++ ['s']) = .ok (n, ['s']) := by
    rw [readWhole_append hn hread]
    rfl
  have hunit : readUnit ['s'] = .ok (.second, []) := rfl
  have hadd : zero.addWhole .second n = .ok ⟨n, 0, hn, by decide⟩ := by
    simp [addWhole, add, fit?, TimeUnit.seconds, TimeUnit.nanos, zero, hn, bind, Except.bind, pure,
      Except.pure]
  refine ⟨⟨n, 0, hn, by decide⟩, ?_, rfl, rfl⟩
  simp [readSpan, hwhole, hunit, hadd, bind, Except.bind, pure, Except.pure]

/-- A number of seconds is read as a length of time. -/
theorem parse_seconds {n : Nat} (hn : n < UInt64.size) :
    ∃ duration, parse (Nat.toDigits 10 n ++ ['s']) = .ok duration ∧
      duration.seconds = n ∧ duration.nanos = 0 := by
  obtain ⟨duration, hspan, hduration⟩ := readSpan_seconds hn
  obtain ⟨c, rest, hdigits, hc⟩ := Decimal.exists_toDigits_eq_cons n
  have hwhite : Text.isWhite c = false :=
    Yaml.isWhite_of_isNameChar (Yaml.isNameChar_of_isAlphanum (by simp [Char.isAlphanum, hc]))
  refine ⟨duration, ?_, hduration⟩
  rw [hdigits, List.cons_append] at hspan ⊢
  have hne : c :: (rest ++ ['s']) ≠ ['0'] := by simp
  rw [parse, if_neg hne, List.all_cons, hwhite, Bool.false_and, if_neg Bool.false_ne_true,
    List.length_cons, readSpans, List.dropWhile_cons_of_neg (ne_true_of_eq_false hwhite)]
  simp only [if_pos hc, hspan, List.length_append, List.length_singleton]
  rfl

end Duration

namespace Yaml

namespace Scalar

/-- Text that starts with a digit other than zero has no sign, no mark of a base and no needless zero. -/
theorem unsigned?_of_isDigit {c : Char} {rest : List Char} (hc : c.isDigit = true) (hzero : c ≠ '0') :
    unsigned? (c :: rest) = Decimal.read? 10 (c :: rest) := by
  have hne {other : Char} (hother : other.isDigit = false) := beq_iff_eq.not.mp
    (ne_true_of_eq_false (beq_eq_false_of_class hc hother))
  have hsign : withoutSign (c :: rest) = c :: rest := by
    rw [withoutSign]
    · rintro _ ⟨⟩
      exact hne rfl rfl
    · rintro _ ⟨⟩
      exact hne rfl rfl
  have hleading : hasLeadingZero (c :: rest) = false := by
    rw [hasLeadingZero, hsign]
    split
    · simp_all
    · rfl
  rw [unsigned?, magnitude?]
  · rw [hleading]
    rfl
  all_goals
    rintro _ ⟨⟩
    first | exact hzero rfl | exact hne rfl rfl

/-- A number is read back from its digits. -/
theorem unsigned?_toDigits (n : Nat) : unsigned? (Nat.toDigits 10 n) = some n := by
  by_cases hn : n = 0
  · rw [hn]
    rfl
  · obtain ⟨c, rest, hdigits, hc⟩ := Decimal.exists_toDigits_eq_cons n
    have hhead : (Nat.toDigits 10 n).head? ≠ some '0' :=
      Decimal.head?_toDigits_ne_zero (by decide) (by decide) hn
    have hread : Decimal.read? 10 (Nat.toDigits 10 n) = some n :=
      Decimal.read?_toDigits (by decide) (by decide) n
    rw [hdigits] at hhead hread ⊢
    rw [unsigned?_of_isDigit hc fun hzero => hhead (congrArg some hzero), hread]

end Scalar

/-- A digit is a letter or a digit. -/
theorem isAlphanum_of_isDigit {c : Char} (h : c.isDigit = true) : c.isAlphanum = true := by
  simp [Char.isAlphanum, h]

/-- The digits of a number are a word, also where a unit of letters is behind them. -/
theorem isWord_toDigits_append (n : Nat) {unit : List Char} (hunit : ∀ c ∈ unit, isNameChar c = true) :
    IsWord (Nat.toDigits 10 n ++ unit) := by
  obtain ⟨c, rest, hdigits, hc⟩ := Decimal.exists_toDigits_eq_cons n
  refine ⟨⟨c, rest ++ unit, by rw [hdigits, List.cons_append], isAlphanum_of_isDigit hc⟩, ?_⟩
  intro other hother
  rcases List.mem_append.mp hother with hdigit | hother
  · have hdigit := Nat.isDigit_of_mem_toDigits (by decide) (by decide) hdigit
    exact isNameChar_of_isAlphanum (isAlphanum_of_isDigit hdigit)
  · exact hunit other hother

/-- A number is written as a word. -/
theorem isWord_toDigits (n : Nat) : IsWord (Nat.toDigits 10 n) := by
  have hword : IsWord (Nat.toDigits 10 n ++ []) := isWord_toDigits_append n (List.forall_mem_nil _)
  rwa [List.append_nil] at hword

end Yaml

namespace Settings

open Yaml

/-- A word is read as a text. -/
theorem readText_word (path : Path) (wanted : Expected) (text : String) :
    readText path wanted (.word text.toList) = .ok text := by
  rw [Node.word, String.ofList_toList]
  rfl

/-- A text in quotes stands for itself, even where it may be absent. -/
theorem readOptional_quoted (parent : Path) (name text : String) :
    readOptional parent name (.scalar none none .quoted (String.ofList text.toList)) = .ok (some text) := by
  rw [String.ofList_toList]
  rfl

/-- A number of seconds is read as a length of time. -/
theorem readDuration_seconds (path : Path) (seconds : UInt64) :
    ∃ duration, readDuration path (.word (Nat.toDigits 10 seconds.toNat ++ ['s'])) = .ok duration ∧
      duration.seconds = seconds.toNat ∧ duration.nanos = 0 := by
  obtain ⟨duration, hparse, hduration⟩ := Duration.parse_seconds seconds.toNat_lt
  refine ⟨duration, ?_, hduration⟩
  simp [readDuration, readText, Node.word, hparse, bind, Except.bind, pure, Except.pure]

/-- A number of 32 bits is read from its digits. -/
theorem readWord_toDigits (path : Path) (n : UInt32) :
    readWord path (.word (Nat.toDigits 10 n.toNat)) = .ok n := by
  have hsmall : n.toNat < UInt64.size := n.toNat_lt.trans (by decide)
  have hfilter : (some n.toNat).filter (· < UInt64.size) = some n.toNat := by
    rw [Option.filter_some, if_pos (decide_eq_true hsmall)]
  have hspelling : (spelling? "int" (.word (Nat.toDigits 10 n.toNat))).bind (Scalar.unsigned? ·.toList) =
      some n.toNat := by
    simp [spelling?, Node.word, Scalar.unsigned?_toDigits]
  rw [readWord, hspelling, hfilter]
  simp only [if_pos n.toNat_lt]
  rw [Nat.toUInt32_eq, UInt32.ofNat_toNat]

/-- A truth value is read from its word. -/
theorem readBool_toString (path : Path) (value : Bool) :
    readBool path (.word (toString value).toList) = .ok value := by
  cases value <;> rfl

/-- A way of aggregation is read from its word. -/
theorem readAggregation_word (tagPath path : Path) (aggregation : Aggregation) :
    readAggregation tagPath path (.word aggregation.word.toList) = .ok aggregation := by
  cases aggregation <;> rfl

section SetLog

variable (root : Node) (parent : Path) (log : LogSettings)

/-- A word for the level is taken as it stands. -/
theorem setLog_level (text : String) :
    setLog root parent "level" "level" log (.word text.toList) = .ok { log with level := text } := by
  rw [setLog, if_pos rfl, follow, readText_word]
  · rfl
  · nofun

/-- A quoted text for the file is taken as it stands. -/
theorem setLog_file (text : String) :
    setLog root parent "file" "file" log (.scalar none none .quoted (String.ofList text.toList)) =
      .ok { log with file := some text } := by
  rw [setLog, if_neg (by decide), if_pos rfl, follow, readOptional_quoted]
  · rfl
  · nofun

/-- A number of days of 32 bits is taken as it stands. -/
theorem setLog_retention (days : UInt32) :
    setLog root parent "retention" "retention" log (.word (Nat.toDigits 10 days.toNat)) =
      .ok { log with retention := days } := by
  rw [setLog, if_neg (by decide), if_neg (by decide), follow, readWord_toDigits]
  · rfl
  · nofun

end SetLog

section SetField

variable (root : Node) (settings : Settings)

/-- The word for a way of aggregation chooses it. -/
theorem setField_aggregation (aggregation : Aggregation) :
    setField root "aggregation" "aggregation" settings (.word aggregation.word.toList) =
      .ok { settings with aggregation } := by
  rw [setField, if_pos rfl, follow, readAggregation_word]
  · rfl
  · nofun

/-- The word for a truth value chooses it. -/
theorem setField_withLocalPort (wanted : Bool) :
    setField root "with-local-port" "with-local-port" settings (.word (toString wanted).toList) =
      .ok { settings with withLocalPort := wanted } := by
  rw [setField, if_neg (by decide), if_pos rfl, follow, readBool_toString]
  · rfl
  · nofun

/-- A number of seconds with its unit is taken as so many seconds. -/
theorem setField_flushInterval (seconds : UInt64) :
    ∃ duration, setField root "flush-interval" "flush-interval" settings
        (.word (Nat.toDigits 10 seconds.toNat ++ ['s'])) = .ok { settings with flushInterval := duration } ∧
      duration.seconds = seconds.toNat ∧ duration.nanos = 0 := by
  obtain ⟨duration, hread, hduration⟩ := readDuration_seconds ["flush-interval"] seconds
  refine ⟨duration, ?_, hduration⟩
  rw [setField, if_neg (by decide), if_neg (by decide), if_pos rfl, follow, hread]
  · rfl
  · nofun

/-- The section of logging is set as its entries are read. -/
theorem setField_log {entries : List (Node × Node)} {log : LogSettings}
    (h : readFields root ["log"] ["level", "file", "retention"] (setLog root ["log"]) [] {} entries =
      .ok log) :
    setField root "log" "log" settings (.mapping none none entries) = .ok { settings with log } := by
  rw [setField, if_neg (by decide), if_neg (by decide), if_neg (by decide), follow, readLog, readMapping]
  · change (readFields root _ _ _ _ _ _).map _ = _
    rw [h]
    rfl
  · nofun

end SetField

end Settings

end FlowMeter
