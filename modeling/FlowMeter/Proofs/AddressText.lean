import Mathlib.Data.List.TakeWhile
import FlowMeter.Proofs.Dotted

/-!
# Addresses are read back

The text of a long address is read group by group. Where a row of zero groups is left out, the groups in
front of the two colons and those behind them are read, and the ones that are missing are zero. So every
address is read back from its text, except a long one that stands for a short one: its text ends in dots,
is taken for a short address, and is none.
-/

namespace FlowMeter.Address

/-- The digits of a group. -/
def groupDigits (group : UInt16) : List Char :=
  Nat.toDigits 16 group.toNat

/-- A group is written in hexadecimal digits. -/
theorem isHexDigit_of_mem_groupDigits {group : UInt16} {c : Char} (hc : c ∈ groupDigits group) :
    isHexDigit c :=
  Decimal.isSome_digitValue?_of_mem_toDigits (by decide) (by decide) hc

/-- A group has at most four digits. -/
theorem length_groupDigits_le (group : UInt16) : (groupDigits group).length ≤ 4 :=
  (Nat.length_toDigits_le_iff (by decide) (by decide)).mpr group.toNat_lt

/-- The text of some groups is the first one and the others, each behind a colon. -/
theorem textGroups_cons (group : UInt16) (groups : List UInt16) :
    textGroups (group :: groups) = groupDigits group ++ groups.flatMap (':' :: groupDigits ·) := by
  rw [textGroups, List.map_cons, intercalate_cons, List.flatMap_map]
  rfl

/-- The text of groups has digits and colons only. -/
theorem not_mem_textGroups {c : Char} (hdigit : ¬isHexDigit c) (hcolon : c ≠ ':')
    (groups : List UInt16) : c ∉ textGroups groups := by
  have hdigits (group : UInt16) : c ∉ groupDigits group := fun hmem =>
    hdigit (isHexDigit_of_mem_groupDigits hmem)
  cases groups with
  | nil => nofun
  | cons group groups => simp [textGroups_cons, hdigits, hcolon]

/-- The groups of a text end where it ends, or where two colons follow. -/
def GroupsEnd (text : List Char) : Prop :=
  text = [] ∨ ∃ rest, text = ':' :: ':' :: rest

/-- A group is read up to a character that is no digit. -/
theorem takeGroup?_append (group : UInt16) {rest : List Char} (hrest : rest.takeWhile isHexDigit = []) :
    takeGroup? (groupDigits group ++ rest) = some (group, rest) := by
  have hlength := length_groupDigits_le group
  have hread : Decimal.read? 16 (groupDigits group) = some group.toNat :=
    Decimal.read?_toDigits (by decide) (by decide) _
  rw [takeGroup?, List.takeWhile_append_of_pos fun c => isHexDigit_of_mem_groupDigits, hrest,
    List.append_nil, if_neg (by omega), hread, Option.map_some, List.drop_left, Nat.toUInt16_eq,
    UInt16.ofNat_toNat]

/-- No digit of a group follows where groups end. -/
theorem GroupsEnd.takeWhile {rest : List Char} (h : GroupsEnd rest) : rest.takeWhile isHexDigit = [] := by
  obtain rfl | ⟨rest, rfl⟩ := h
  · rfl
  · exact List.takeWhile_cons_of_neg (by decide)

/-- No more group is taken where the groups end. -/
theorem GroupsEnd.takeGroups {rest : List Char} (h : GroupsEnd rest) (count : Nat) (first : Bool) :
    takeGroups count first rest = ([], rest) := by
  cases count with
  | zero => rfl
  | succ count =>
    obtain rfl | ⟨rest, rfl⟩ := h
    · cases first <;> rfl
    · cases first <;> rfl

/-- A first group that is taken stands in front of the groups behind it. -/
theorem takeGroups_true {text rest : List Char} {group : UInt16} (count : Nat)
    (h : takeGroup? text = some (group, rest)) :
    takeGroups (count + 1) true text =
      (group :: (takeGroups count false rest).1, (takeGroups count false rest).2) := by
  simp only [takeGroups, Option.bind_some, h]

/-- A group that is taken behind a colon stands in front of the groups behind it. -/
theorem takeGroups_false {text rest : List Char} {group : UInt16} (count : Nat)
    (h : takeGroup? text = some (group, rest)) :
    takeGroups (count + 1) false (':' :: text) =
      (group :: (takeGroups count false rest).1, (takeGroups count false rest).2) := by
  simp only [takeGroups, Option.bind_some, h]

/-- Behind a group there is a colon, or the groups end. -/
theorem GroupsEnd.takeWhile_append {rest : List Char} (h : GroupsEnd rest) (groups : List UInt16) :
    (groups.flatMap (':' :: groupDigits ·) ++ rest).takeWhile isHexDigit = [] := by
  cases groups with
  | nil => exact h.takeWhile
  | cons group groups => exact List.takeWhile_cons_of_neg (by decide)

/-- Groups behind colons are taken up to where they end. -/
theorem takeGroups_append {count : Nat} {groups : List UInt16} {rest : List Char}
    (hcount : groups.length ≤ count) (hrest : GroupsEnd rest) :
    takeGroups count false (groups.flatMap (':' :: groupDigits ·) ++ rest) = (groups, rest) := by
  induction groups generalizing count with
  | nil => exact hrest.takeGroups count false
  | cons group groups ih =>
    obtain ⟨count, rfl⟩ := Nat.exists_eq_add_one.mpr (Nat.zero_lt_of_lt hcount)
    rw [List.flatMap_cons, List.cons_append, List.cons_append, List.append_assoc,
      takeGroups_false count (takeGroup?_append group (hrest.takeWhile_append groups)),
      ih (Nat.le_of_succ_le_succ hcount)]

/-- Groups are taken from their text up to where they end. -/
theorem takeGroups_textGroups {count : Nat} {groups : List UInt16} {rest : List Char}
    (hcount : groups.length ≤ count) (hrest : GroupsEnd rest) :
    takeGroups count true (textGroups groups ++ rest) = (groups, rest) := by
  cases groups with
  | nil => exact hrest.takeGroups count true
  | cons group groups =>
    obtain ⟨count, rfl⟩ := Nat.exists_eq_add_one.mpr (Nat.zero_lt_of_lt hcount)
    rw [textGroups_cons, List.append_assoc,
      takeGroups_true count (takeGroup?_append group (hrest.takeWhile_append groups)),
      takeGroups_append (Nat.le_of_succ_le_succ hcount) hrest]

/-- Eight groups are the address of the groups. -/
theorem ofGroups_toList (groups : Vector UInt16 8) : ofGroups groups.toList = .v6 groups := by
  rw [ofGroups]
  congr 1
  ext i hi : 1
  simp

/-- The row of zero groups at the front is zeros. -/
theorem replicate_zeroRun_append (groups : List UInt16) :
    List.replicate (zeroRun groups) 0 ++ groups.drop (zeroRun groups) = groups := by
  have hzeros : groups.takeWhile (· == 0) = List.replicate (zeroRun groups) 0 :=
    List.eq_replicate_iff.mpr ⟨rfl, fun group hgroup => by simpa using List.mem_takeWhile_imp hgroup⟩
  rw [← hzeros]
  exact List.prefix_iff_eq_append.mp (List.takeWhile_prefix _)

/-- Of the numbers below a bound, a fold that goes on to greater values only ends at the first one of the
greatest value. -/
theorem foldl_range_first_greatest (value : Nat → Nat) (bound : Nat) :
    let best := (List.range bound).foldl (fun best i => if value best < value i then i else best) 0
    (∀ i < bound, value i ≤ value best) ∧ ∀ i < best, value i < value best := by
  induction bound with
  | zero => exact ⟨nofun, nofun⟩
  | succ bound ih =>
    obtain ⟨hgreatest, hfirst⟩ := ih
    rw [List.range_succ, List.foldl_append, List.foldl_cons, List.foldl_nil]
    dsimp only
    split_ifs with hnew
    · refine ⟨fun i hi => ?_, fun i hi => (hgreatest i hi).trans_lt hnew⟩
      obtain hi | rfl := Nat.lt_succ_iff_lt_or_eq.mp hi
      · exact ((hgreatest i hi).trans_lt hnew).le
      · exact Nat.le_refl _
    · refine ⟨fun i hi => ?_, hfirst⟩
      obtain hi | rfl := Nat.lt_succ_iff_lt_or_eq.mp hi
      · exact hgreatest i hi
      · exact Nat.not_lt.mp hnew

/-- The row of zero groups that is left out is the longest one, and the first one of several. -/
theorem longestRun_first_longest (groups : List UInt16) :
    (∀ i < groups.length,
      zeroRun (groups.drop i) ≤ zeroRun (groups.drop (longestRun groups))) ∧
      ∀ i < longestRun groups,
        zeroRun (groups.drop i) < zeroRun (groups.drop (longestRun groups)) :=
  foldl_range_first_greatest (fun i => zeroRun (groups.drop i)) groups.length

/-- A long address is read back from the text of all its groups. -/
theorem read6?_textGroups {groups : List UInt16} (h : groups.length = 8) :
    read6? (textGroups groups) = some (ofGroups groups) := by
  have htake := takeGroups_textGroups (Nat.le_of_eq h) (Or.inl rfl)
  rw [List.append_nil] at htake
  simp [read6?, htake, h]

/-- A row of zero groups is put in for two colons. -/
theorem read6?_colons {front back : List UInt16} (h : front.length + back.length < 8) :
    read6? (textGroups front ++ [':', ':'] ++ textGroups back) =
      some (ofGroups (front ++ List.replicate (8 - front.length - back.length) 0 ++ back)) := by
  have hfront : takeGroups 8 true (textGroups front ++ ':' :: ':' :: textGroups back) =
      (front, ':' :: ':' :: textGroups back) :=
    takeGroups_textGroups (by omega) (Or.inr ⟨_, rfl⟩)
  have hback : takeGroups (7 - front.length) true (textGroups back ++ []) = (back, []) :=
    takeGroups_textGroups (by omega) (Or.inl rfl)
  rw [List.append_nil] at hback
  have hshort : front.length ≠ 8 := by omega
  simp [read6?, hfront, hback, hshort]

/-- A long address is read back from a text in which a row of zero groups is left out. -/
theorem read6?_textCompressed (groups : Vector UInt16 8) :
    read6? (textCompressed groups.toList) = some (.v6 groups) := by
  have hlength : groups.toList.length = 8 := groups.length_toList
  rw [textCompressed, ← ofGroups_toList]
  generalize hgroups : groups.toList = all at hlength ⊢
  set start := longestRun all
  set count := zeroRun (all.drop start)
  split_ifs with hcount
  · have hrun : List.replicate count 0 ++ all.drop (start + count) = all.drop start := by
      rw [← List.drop_drop]
      exact replicate_zeroRun_append _
    have hrest := congrArg List.length hrun
    simp only [List.length_append, List.length_replicate, List.length_drop, hlength] at hrest
    have hzeros : 8 - (all.take start).length - (all.drop (start + count)).length = count := by
      rw [List.length_take, List.length_drop, hlength]
      omega
    rw [read6?_colons (by rw [List.length_take, List.length_drop, hlength]; omega), hzeros,
      List.append_assoc, hrun, List.take_append_drop]
  · exact read6?_textGroups hlength

/-- Whether a long address stands for a short one. -/
def IsMapped : Address → Prop
  | .v4 _ => False
  | .v6 groups => groups.toList.take 6 = [0, 0, 0, 0, 0, 0xffff]

instance : DecidablePred IsMapped
  | .v4 _ => inferInstanceAs (Decidable False)
  | .v6 groups => inferInstanceAs (Decidable (groups.toList.take 6 = _))

/-- The text of a long address that stands for none has digits and colons only. -/
theorem not_mem_textCompressed {c : Char} (hdigit : ¬isHexDigit c) (hcolon : c ≠ ':')
    (groups : List UInt16) : c ∉ textCompressed groups := by
  rw [textCompressed]
  split_ifs
  · simp [not_mem_textGroups hdigit hcolon, hcolon]
  · exact not_mem_textGroups hdigit hcolon groups

/-- Text that does not start with a digit is no short address. -/
theorem read4?_colon (text : List Char) : read4? (':' :: text) = none := rfl

/-- A long address outside the mapped ones has no short form. -/
theorem mapped?_eq_none {groups : Vector UInt16 8} (h : ¬IsMapped (.v6 groups)) : mapped? groups = none :=
  if_neg h

/-- A mapped address has a short form. -/
theorem isSome_mapped? {groups : Vector UInt16 8} (h : IsMapped (.v6 groups)) :
    ∃ octets, mapped? groups = some octets :=
  ⟨_, if_pos h⟩

/-- An address is read back from its text, unless it is a long one that stands for a short one. -/
theorem ofText_text_eq (address : Address) :
    ofText address.text = if address.IsMapped then zero4 else address := by
  rw [ofText, text, String.toList_ofList]
  cases address with
  | v4 octets =>
    rw [if_neg (show ¬IsMapped (.v4 octets) from id), chars, if_pos (contains_text4 octets),
      read4?_text4, Option.getD_some]
  | v6 groups =>
    by_cases hmapped : IsMapped (.v6 groups)
    · obtain ⟨octets, hoctets⟩ := isSome_mapped? hmapped
      have hdot : ("::ffff:".toList ++ text4 octets).contains '.' := by
        rw [List.contains_append, contains_text4, Bool.or_true]
      have hnone : read4? ("::ffff:".toList ++ text4 octets) = none := read4?_colon _
      rw [if_pos hmapped, chars, hoctets]
      dsimp only
      rw [if_pos hdot, hnone, Option.getD_none]
    · have hdot : ¬(textCompressed groups.toList).contains '.' := by
        rw [List.contains_iff_mem]
        exact not_mem_textCompressed (by decide) (by decide) _
      rw [if_neg hmapped, chars, mapped?_eq_none hmapped]
      dsimp only
      rw [if_neg hdot, read6?_textCompressed, Option.getD_some]

/-- An address is read back from its text exactly where it is no long one that stands for a short one; such
a one is read as the unspecified short address. -/
theorem ofText_text (address : Address) :
    ofText address.text = (if address.IsMapped then zero4 else address) ∧
      (ofText address.text = address ↔ ¬address.IsMapped) := by
  refine ⟨ofText_text_eq address, ?_⟩
  rw [ofText_text_eq]
  split_ifs with hmapped
  · cases address with
    | v4 octets => exact hmapped.elim
    | v6 groups => simp [zero4, hmapped]
  · simp [hmapped]

end FlowMeter.Address
