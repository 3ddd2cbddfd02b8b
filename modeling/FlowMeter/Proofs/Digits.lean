import Mathlib.Tactic.IntervalCases
import FlowMeter.Decimal

/-!
# Digits are read back

The digits of a number in a base up to sixteen are read as the number, and text that is read as a number
has digits only. The first digit of a number of several digits is not zero.
-/

namespace FlowMeter.Decimal

variable {base n : Nat}

/-- A digit that is written is read as its value. -/
theorem digitValue?_digitChar {digit : Nat} (hbase : base ≤ 16) (hdigit : digit < base) :
    digitValue? base digit.digitChar = some digit := by
  have hsmall : digit < 16 := by omega
  have hvalue : digitValue? base digit.digitChar = (some digit).filter (· < base) := by
    interval_cases digit <;> rfl
  rw [hvalue, Option.filter_some, if_pos (decide_eq_true hdigit)]

/-- The digits of a number are read as the number. -/
theorem readDigits?_toDigits (hone : 1 < base) (hbase : base ≤ 16) (n : Nat) :
    readDigits? base 0 (Nat.toDigits base n) = some n := by
  induction n using Nat.strong_induction_on with
  | _ n ih =>
    by_cases hn : n < base
    · rw [Nat.toDigits_of_lt_base hn, readDigits?, digitValue?_digitChar hbase hn]
      exact congrArg some (by omega)
    · have hdiv : n / base < n := Nat.div_lt_self (by omega) hone
      rw [Nat.toDigits_of_base_le hone (by omega), readDigits?_append, ih _ hdiv, Option.bind_some,
        readDigits?, digitValue?_digitChar hbase (Nat.mod_lt _ (by omega))]
      exact congrArg some (Nat.div_add_mod' n base)

/-- A number is read back from its digits. -/
theorem read?_toDigits (hone : 1 < base) (hbase : base ≤ 16) (n : Nat) :
    read? base (Nat.toDigits base n) = some n := by
  rw [read?, if_neg (by simp [Nat.toDigits_ne_nil]), readDigits?_toDigits hone hbase]

/-- Text that is read as a number has digits only. -/
theorem isSome_digitValue?_of_readDigits? {value : Nat} {text : List Char}
    (h : readDigits? base value text = some n) :
    ∀ c ∈ text, (digitValue? base c).isSome := by
  induction text generalizing value with
  | nil => nofun
  | cons c rest ih =>
    rw [readDigits?] at h
    cases hc : digitValue? base c with
    | none => simp [hc] at h
    | some digit =>
      rw [hc] at h
      intro d hd
      obtain rfl | hd := List.mem_cons.mp hd
      · rw [hc, Option.isSome_some]
      · exact ih h d hd

/-- The text of a number has digits only. -/
theorem isSome_digitValue?_of_mem_toDigits (hone : 1 < base) (hbase : base ≤ 16) {c : Char}
    (hc : c ∈ Nat.toDigits base n) : (digitValue? base c).isSome :=
  isSome_digitValue?_of_readDigits? (readDigits?_toDigits hone hbase n) c hc

/-- The first digit of a number that is not zero is not zero. -/
theorem head?_toDigits_ne_zero (hone : 1 < base) (hbase : base ≤ 16) (hn : n ≠ 0) :
    (Nat.toDigits base n).head? ≠ some '0' := by
  induction n using Nat.strong_induction_on with
  | _ n ih =>
    by_cases hsmall : n < base
    · rw [Nat.toDigits_of_lt_base hsmall]
      intro hzero
      have hvalue := digitValue?_digitChar hbase hsmall
      rw [Option.some.inj hzero] at hvalue
      have hread := digitValue?_digitChar hbase (show 0 < base by omega)
      exact hn (Option.some.inj (hvalue.symm.trans hread))
    · have hdiv : n / base < n := Nat.div_lt_self (by omega) hone
      have hpos : n / base ≠ 0 := (Nat.div_pos (by omega) (by omega)).ne'
      rw [Nat.toDigits_of_base_le hone (by omega), List.head?_append,
        Option.or_of_isSome (by simp [Nat.toDigits_ne_nil])]
      exact ih _ hdiv hpos

/-- The text of a number starts with a digit. -/
theorem exists_toDigits_eq_cons (n : Nat) : ∃ c rest, Nat.toDigits 10 n = c :: rest ∧ c.isDigit := by
  obtain ⟨c, rest, hdigits⟩ := List.exists_cons_of_ne_nil (Nat.toDigits_ne_nil (n := n) (b := 10))
  exact ⟨c, rest, hdigits,
    Nat.isDigit_of_mem_toDigits (by decide) (by decide) (hdigits ▸ List.mem_cons_self)⟩

/-- A digit of base ten is written as it was read. -/
theorem digitChar_of_digitValue? {c : Char} {digit : Nat} (h : digitValue? 10 c = some digit) :
    digit < 10 ∧ digit.digitChar = c := by
  rw [digitValue?, Option.filter_eq_some_iff, decide_eq_true_eq] at h
  obtain ⟨hvalue, hdigit⟩ := h
  refine ⟨hdigit, ?_⟩
  split_ifs at hvalue with hten
  · obtain rfl := Option.some.inj hvalue
    have hlow : '0'.toNat ≤ c.toNat := (Char.isDigit_iff_toNat.mp hten).1
    have hzero : '0'.toNat = 48 := rfl
    apply Char.toNat_inj.mp
    rw [Nat.toNat_digitChar_of_lt_ten hdigit]
    omega
  all_goals
    have hbig := Option.some.inj hvalue
    omega

/-- Digits that are read behind a number that is not zero are written behind it. -/
theorem toDigits_append_of_readDigits? {value : Nat} {text : List Char} (hvalue : 0 < value)
    (h : readDigits? 10 value text = some n) : Nat.toDigits 10 value ++ text = Nat.toDigits 10 n := by
  induction text generalizing value with
  | nil => rw [← Option.some.inj h, List.append_nil]
  | cons c rest ih =>
    rw [readDigits?] at h
    cases hc : digitValue? 10 c with
    | none => simp [hc] at h
    | some digit =>
      rw [hc] at h
      obtain ⟨hdigit, hchar⟩ := digitChar_of_digitValue? hc
      have hdiv : (value * 10 + digit) / 10 = value := by omega
      have hmod : (value * 10 + digit) % 10 = digit := by omega
      rw [← ih (by omega) h, Nat.toDigits_of_base_le (by decide) (show 10 ≤ value * 10 + digit by omega),
        hdiv, hmod, hchar, List.append_assoc, List.singleton_append]

/-- Text that is read as a number and does not start with a needless zero is the text of the number. -/
theorem eq_toDigits_of_read? {text : List Char} (h : read? 10 text = some n)
    (hzero : 1 < text.length → text.head? ≠ some '0') : text = Nat.toDigits 10 n := by
  cases text with
  | nil => contradiction
  | cons c rest =>
    have hread : readDigits? 10 0 (c :: rest) = some n := h
    rw [readDigits?, Nat.zero_mul] at hread
    cases hc : digitValue? 10 c with
    | none => simp [hc] at hread
    | some digit =>
      simp only [hc, Nat.zero_add] at hread
      obtain ⟨hdigit, rfl⟩ := digitChar_of_digitValue? hc
      rcases Nat.eq_zero_or_pos digit with rfl | hpos
      · have hnil : rest = [] := by
          by_contra hrest
          exact hzero (Nat.succ_lt_succ (List.length_pos_iff.mpr hrest)) rfl
        subst hnil
        rw [← Option.some.inj hread]
        rfl
      · rw [← toDigits_append_of_readDigits? hpos hread, Nat.toDigits_of_lt_base hdigit,
          List.singleton_append]

end FlowMeter.Decimal
