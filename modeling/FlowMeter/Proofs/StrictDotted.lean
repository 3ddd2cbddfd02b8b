import FlowMeter.Proofs.AddressText

/-!
# Dotted text is accepted exactly

A text with a dot is read as a short address, and it is accepted exactly where it is the text of one: four
numbers below 256 without needless zeros, and three dots between them. All other dotted text, whatever is
wrong with it, is read as the unspecified address. So an address that is not the unspecified one is never
read from a text other than its own.
-/

namespace FlowMeter.Address

/-- Digits are read as an octet exactly where they are the digits of the octet. -/
theorem octet?_eq_some_iff {digits : List Char} {octet : UInt8} :
    octet? digits = some octet ↔ digits = octetDigits octet := by
  constructor
  · intro h
    rw [octet?] at h
    split_ifs at h with hform
    simp only [Bool.or_eq_true, Bool.and_eq_true, decide_eq_true_eq, not_or, not_and] at hform
    obtain ⟨n, hn, rfl⟩ := Option.map_eq_some_iff.mp h
    obtain ⟨hread, hsmall⟩ := Option.filter_eq_some_iff.mp hn
    have hoctet : n.toUInt8.toNat = n := by
      rw [Nat.toUInt8_eq, UInt8.toNat_ofNat']
      exact Nat.mod_eq_of_lt (of_decide_eq_true hsmall)
    rw [octetDigits, hoctet]
    exact Decimal.eq_toDigits_of_read? hread hform.2
  · rintro rfl
    exact octet?_octetDigits octet

/-- Text that is read as octets is their digits, with a dot in front of each but the first. -/
theorem eq_append_of_octets? {count : Nat} {text : List Char} {octets : List UInt8}
    (h : octets? count text = some octets) :
    ∃ first rest, octets = first :: rest ∧ rest.length = count ∧
      text = octetDigits first ++ rest.flatMap ('.' :: octetDigits ·) := by
  induction count generalizing text octets with
  | zero =>
    obtain ⟨first, hfirst, rfl⟩ := Option.map_eq_some_iff.mp h
    refine ⟨first, [], rfl, rfl, ?_⟩
    rw [octet?_eq_some_iff.mp hfirst, List.flatMap_nil, List.append_nil]
  | succ count ih =>
    rw [octets?] at h
    split at h
    · rename_i first rest hfirst hrest
      obtain ⟨later, hlater, rfl⟩ := Option.map_eq_some_iff.mp h
      obtain ⟨second, others, rfl, rfl, rfl⟩ := ih hlater
      refine ⟨first, second :: others, rfl, rfl, ?_⟩
      rw [← List.takeWhile_append_dropWhile (p := Char.isDigit) (l := text), hrest,
        octet?_eq_some_iff.mp hfirst, List.flatMap_cons, List.cons_append]
    · contradiction

/-- Text is read as the short form exactly where it is the text of a short address. -/
theorem read4?_eq_some_iff {text : List Char} {address : Address} :
    read4? text = some address ↔ ∃ octets, address = .v4 octets ∧ text = text4 octets := by
  constructor
  · intro h
    obtain ⟨octets, hoctets, rfl⟩ := Option.map_eq_some_iff.mp h
    obtain ⟨a, rest, rfl, hlength, rfl⟩ := eq_append_of_octets? hoctets
    match rest, hlength with
    | [b, c, d], _ =>
      refine ⟨_, rfl, ?_⟩
      rw [text4_eq]
      rfl
  · rintro ⟨octets, rfl, rfl⟩
    exact read4?_text4 octets

/-- Dotted text is the text of a short address exactly where it is read as one. -/
theorem read4?_toList_eq_some_iff {text : String} {octets : Vector UInt8 4} :
    read4? text.toList = some (.v4 octets) ↔ text = (v4 octets).text := by
  rw [read4?_eq_some_iff, ← String.toList_inj, Address.text, String.toList_ofList, chars]
  constructor
  · rintro ⟨others, hothers, htext⟩
    rwa [v4.inj hothers]
  · intro htext
    exact ⟨octets, rfl, htext⟩

/-- A text with a dot is read as a short address, or as its zero. -/
theorem ofText_of_dot_mem {text : String} (h : '.' ∈ text.toList) :
    ofText text = (read4? text.toList).getD zero4 :=
  if_pos (List.contains_iff_mem.mpr h)

/-- A text without a dot is read as a long address, or as its zero. -/
theorem ofText_of_dot_not_mem {text : String} (h : '.' ∉ text.toList) :
    ofText text = (read6? text.toList).getD zero6 :=
  if_neg fun hdot => h (List.contains_iff_mem.mp hdot)

/-- What is read as the long form is a long address. -/
theorem isV4_of_read6? {text : List Char} {address : Address} (h : read6? text = some address) :
    address.isV4 = false := by
  have hgroups (groups : List UInt16) : (ofGroups groups).isV4 = false := rfl
  simp only [read6?] at h
  split at h
  · split at h
    · rw [← Option.some.inj h, hgroups]
    · contradiction
  · split at h
    · split at h
      · rw [← Option.some.inj h, hgroups]
      · contradiction
    · contradiction

/-- Text is read as a short address exactly where it has a dot. -/
theorem isV4_ofText_iff {text : String} : (ofText text).isV4 ↔ '.' ∈ text.toList := by
  by_cases hdot : '.' ∈ text.toList
  · rw [ofText_of_dot_mem hdot]
    cases hread : read4? text.toList with
    | none => exact iff_of_true rfl hdot
    | some address =>
      obtain ⟨octets, rfl, _⟩ := read4?_eq_some_iff.mp hread
      exact iff_of_true rfl hdot
  · rw [ofText_of_dot_not_mem hdot]
    refine iff_of_false ?_ hdot
    cases hread : read6? text.toList with
    | none => exact Bool.false_ne_true
    | some address =>
      rw [Option.getD_some, isV4_of_read6? hread]
      exact Bool.false_ne_true

/-- Text is read as a short address exactly where it has a dot. Dotted text that is the text of a short address
is read as this address, and all other dotted text as the unspecified one; so a short address that is not the
unspecified one is read from its own text only. -/
theorem ofText_accepts_exactly (text : String) :
    ((ofText text).isV4 ↔ '.' ∈ text.toList) ∧
      (∀ octets, text = (v4 octets).text → ofText text = .v4 octets) ∧
      ('.' ∈ text.toList → (∀ octets, text ≠ (v4 octets).text) → ofText text = zero4) ∧
      ((ofText text).isV4 → ofText text ≠ zero4 → (ofText text).text = text) := by
  have hother : '.' ∈ text.toList → (∀ octets, text ≠ (v4 octets).text) → ofText text = zero4 := by
    intro hdot htext
    rw [ofText_of_dot_mem hdot]
    cases hread : read4? text.toList with
    | none => rfl
    | some address =>
      obtain ⟨octets, rfl, _⟩ := read4?_eq_some_iff.mp hread
      exact absurd (read4?_toList_eq_some_iff.mp hread) (htext octets)
  refine ⟨isV4_ofText_iff, ?_, hother, ?_⟩
  · rintro octets rfl
    exact (ofText_text_eq (v4 octets)).trans (if_neg id)
  · intro hshort hnonzero
    by_contra htext
    refine hnonzero (hother (isV4_ofText_iff.mp hshort) fun octets hoctets => htext ?_)
    rw [hoctets, ofText_text_eq, if_neg (show ¬IsMapped (v4 octets) from id)]

/-- The text of a short address is read and printed back; a needless zero, a number that is too great, a part
too many and a long address that ends in dots are each read as the unspecified address. -/
theorem ofText_accepts_exactly_nearMisses :
    ("10.0.0.255" = (v4 #v[10, 0, 0, 255]).text ∧ ofText "10.0.0.255" = v4 #v[10, 0, 0, 255]) ∧
      ((ofText "10.0.0.255").isV4 ∧ ofText "10.0.0.255" ≠ zero4 ∧
        (ofText "10.0.0.255").text = "10.0.0.255") ∧
      ∀ text ∈ ["10.0.0.01", "10.0.0.256", "10.0.0.2.5", "::ffff:10.0.0.255"],
        '.' ∈ text.toList ∧ (∀ octets, text ≠ (v4 octets).text) ∧ ofText text = zero4 := by
  obtain ⟨_, hown, _, hback⟩ := ofText_accepts_exactly "10.0.0.255"
  have hread : ofText "10.0.0.255" = v4 #v[10, 0, 0, 255] := hown _ rfl
  have hnonzero : ofText "10.0.0.255" ≠ zero4 := by
    rw [hread]
    decide
  refine ⟨⟨rfl, hread⟩, ⟨rfl, hnonzero, hback rfl hnonzero⟩, fun text htext => ?_⟩
  have hnear : '.' ∈ text.toList ∧ read4? text.toList = none := by
    revert text
    decide
  have hnone : ∀ octets, text ≠ (v4 octets).text := by
    intro octets hoctets
    exact nomatch hnear.2.symm.trans (read4?_toList_eq_some_iff.mpr hoctets)
  exact ⟨hnear.1, hnone, (ofText_accepts_exactly text).2.2.1 hnear.1 hnone⟩

end FlowMeter.Address
