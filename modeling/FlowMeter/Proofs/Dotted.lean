import FlowMeter.Address.Text
import FlowMeter.Proofs.Digits

/-!
# Short addresses are read back

The text of a short address has a dot, and it is read as the address: each octet has at most three digits
and no needless zero, and ends where its dot stands.
-/

namespace FlowMeter.Address

/-- Texts with a separator between each two are the first one and the others, each behind a separator. -/
theorem intercalate_cons {A : Type} (separator text : List A) (texts : List (List A)) :
    separator.intercalate (text :: texts) = text ++ texts.flatMap (separator ++ ·) := by
  induction texts generalizing text with
  | nil => rw [List.intercalate_singleton, List.flatMap_nil, List.append_nil]
  | cons next texts ih =>
    rw [List.intercalate_cons_cons, ih, List.flatMap_cons, List.append_assoc, List.append_assoc]

/-- The digits of an octet. -/
def octetDigits (octet : UInt8) : List Char :=
  Nat.toDigits 10 octet.toNat

/-- An octet is written in decimal digits. -/
theorem isDigit_of_mem_octetDigits {octet : UInt8} {c : Char} (hc : c ∈ octetDigits octet) : c.isDigit :=
  Nat.isDigit_of_mem_toDigits (by decide) (by decide) hc

/-- An octet has at most three digits. -/
theorem length_octetDigits_le (octet : UInt8) : (octetDigits octet).length ≤ 3 :=
  (Nat.length_toDigits_le_iff (by decide) (by decide)).mpr (octet.toNat_lt.trans (by decide))

/-- An octet of several digits does not start with zero. -/
theorem head?_octetDigits {octet : UInt8} (h : 1 < (octetDigits octet).length) :
    (octetDigits octet).head? ≠ some '0' := by
  refine Decimal.head?_toDigits_ne_zero (by decide) (by decide) fun hzero => ?_
  rw [octetDigits, hzero] at h
  exact absurd h (by decide)

/-- An octet is read back from its digits. -/
theorem octet?_octetDigits (octet : UInt8) : octet? (octetDigits octet) = some octet := by
  have hlength := length_octetDigits_le octet
  have hread : Decimal.read? 10 (octetDigits octet) = some octet.toNat :=
    Decimal.read?_toDigits (by decide) (by decide) _
  have hform : ¬(3 < (octetDigits octet).length ||
      (1 < (octetDigits octet).length && (octetDigits octet).head? = some '0')) := by
    simp only [Bool.or_eq_true, Bool.and_eq_true, decide_eq_true_eq, not_or, not_and]
    exact ⟨by omega, head?_octetDigits⟩
  rw [octet?, if_neg hform, hread, Option.filter_some, if_pos (decide_eq_true octet.toNat_lt),
    Option.map_some, Nat.toUInt8_eq, UInt8.ofNat_toNat]

/-- Octets with dots between them are read back. -/
theorem octets?_append (octet : UInt8) (octets : List UInt8) :
    octets? octets.length (octetDigits octet ++ octets.flatMap ('.' :: octetDigits ·)) =
      some (octet :: octets) := by
  induction octets generalizing octet with
  | nil =>
    rw [List.flatMap_nil, List.append_nil, List.length_nil, octets?, octet?_octetDigits, Option.map_some]
  | cons next octets ih =>
    have hdigits : ∀ c ∈ octetDigits octet, c.isDigit := fun c => isDigit_of_mem_octetDigits
    rw [List.length_cons, octets?, List.takeWhile_append_of_pos hdigits,
      List.dropWhile_append_of_pos hdigits, List.flatMap_cons, List.cons_append,
      List.takeWhile_cons_of_neg (by decide), List.dropWhile_cons_of_neg (by decide), List.append_nil,
      octet?_octetDigits]
    change (octets? octets.length _).map (octet :: ·) = _
    rw [ih, Option.map_some]

/-- A short address has four octets. -/
theorem toList_octets (octets : Vector UInt8 4) :
    octets.toList = [octets[0], octets[1], octets[2], octets[3]] := by
  obtain ⟨⟨octets⟩, hsize⟩ := octets
  match octets, hsize with
  | [_, _, _, _], _ => rfl

/-- The text of four octets is the first one and three others, each behind a dot. -/
theorem text4_eq (octets : Vector UInt8 4) :
    text4 octets = octetDigits octets[0] ++
      [octets[1], octets[2], octets[3]].flatMap ('.' :: octetDigits ·) := by
  rw [text4, toList_octets, List.map_cons, intercalate_cons, List.flatMap_map]
  rfl

/-- The text of a short address has a dot. -/
theorem contains_text4 (octets : Vector UInt8 4) : (text4 octets).contains '.' := by
  rw [text4_eq]
  simp

/-- A short address is read back from its text. -/
theorem read4?_text4 (octets : Vector UInt8 4) : read4? (text4 octets) = some (.v4 octets) := by
  have hread := octets?_append octets[0] [octets[1], octets[2], octets[3]]
  rw [← text4_eq, ← toList_octets] at hread
  rw [read4?, show 3 = [octets[1], octets[2], octets[3]].length from rfl, hread, Option.map_some]
  congr 2
  ext i hi
  simp

end FlowMeter.Address
