import Mathlib.Data.FinEnum
import FlowMeter.Proofs.Canonical
import FlowMeter.Proofs.KeyHash

/-!
# The hash of an endpoint in each of its parts

Every step of xxh32 on a short input can be undone, so that such an input permutes the seeds. In a longer input
each word is taken by one round that tells all words apart. So the hash of an endpoint tells processes apart
where the remote side is the same, and remote addresses that differ in one word where the process is the same.
-/

namespace FlowMeter

namespace Hash

/-! Steps on words of 32 bits, and how they are undone. -/

/-- A word is told by its product with an odd number. -/
theorem eq_of_mul_eq {factor a b : UInt32} (hodd : factor.toNat % 2 = 1)
    (h : a * factor = b * factor) : a = b := by
  have hnumber := congrArg UInt32.toNat h
  simp only [UInt32.toNat_mul] at hnumber
  exact UInt32.toNat_inj.mp (eq_of_mul_odd_mod_eq hodd a.toNat_lt b.toNat_lt hnumber)

/-- A word is told by the xor with its own bits moved down. -/
theorem eq_of_xor_shiftRight_eq {amount a b : UInt32} (hamount : 0 < amount.toNat % 32)
    (h : a ^^^ (a >>> amount) = b ^^^ (b >>> amount)) : a = b := by
  have hnumber := congrArg UInt32.toNat h
  simp only [UInt32.toNat_xor, UInt32.toNat_shiftRight] at hnumber
  exact UInt32.toNat_inj.mp (xor_shiftRight_injective hamount hnumber)

/-- The upper bits of a word, as many as an amount, and the lower bits make up the word. -/
theorem two_pow_mul_two_pow {amount : Nat} (hless : amount < 32) :
    2 ^ (32 - amount) * 2 ^ amount = 2 ^ 32 := by
  rw [← Nat.pow_add, Nat.sub_add_cancel (Nat.le_of_lt hless)]

/-- The upper bits of a word that a rotation moves down fit the bits that it frees. -/
theorem upper_lt (word : UInt32) {amount : Nat} (hless : amount < 32) :
    word.toNat / 2 ^ (32 - amount) < 2 ^ amount := by
  apply Nat.div_lt_of_lt_mul
  rw [two_pow_mul_two_pow hless]
  exact word.toNat_lt

/-- A rotation puts the lower bits of a word in front of the upper ones. -/
theorem toNat_rotateLeft (word : UInt32) {amount : UInt32} (hpositive : 0 < amount.toNat)
    (hless : amount.toNat < 32) :
    (rotateLeft word amount).toNat =
      word.toNat % 2 ^ (32 - amount.toNat) * 2 ^ amount.toNat +
        word.toNat / 2 ^ (32 - amount.toNat) := by
  have hdown : (32 - amount).toNat = 32 - amount.toNat :=
    UInt32.toNat_sub_of_le _ _ (UInt32.le_iff_toNat_le.mpr (Nat.le_of_lt hless))
  rw [rotateLeft, UInt32.toNat_or, UInt32.toNat_shiftLeft, UInt32.toNat_shiftRight, hdown,
    Nat.mod_eq_of_lt hless, Nat.mod_eq_of_lt (by omega : 32 - amount.toNat < 32), Nat.shiftLeft_eq,
    Nat.shiftRight_eq_div_pow, ← two_pow_mul_two_pow hless, Nat.mul_mod_mul_right, ← Nat.shiftLeft_eq,
    Nat.shiftLeft_add_eq_or_of_lt (upper_lt word hless)]

/-- A word is told by its rotation. -/
theorem eq_of_rotateLeft_eq {amount a b : UInt32} (hpositive : 0 < amount.toNat)
    (hless : amount.toNat < 32) (h : rotateLeft a amount = rotateLeft b amount) : a = b := by
  have hsum (word : UInt32) : word.toNat / 2 ^ (32 - amount.toNat) +
      2 ^ amount.toNat * (word.toNat % 2 ^ (32 - amount.toNat)) = (rotateLeft word amount).toNat := by
    rw [toNat_rotateLeft word hpositive hless, Nat.add_comm, Nat.mul_comm]
  -- The two parts of a word are quotient and remainder of its rotation.
  have hparts (word : UInt32) :=
    (Nat.div_mod_unique (Nat.two_pow_pos amount.toNat)).mpr ⟨hsum word, upper_lt word hless⟩
  rw [← UInt32.toNat_inj, ← Nat.div_add_mod a.toNat (2 ^ (32 - amount.toNat)),
    ← Nat.div_add_mod b.toNat (2 ^ (32 - amount.toNat)), ← (hparts a).1, ← (hparts a).2,
    ← (hparts b).1, ← (hparts b).2, h]

/-- A word is told by its rotation, scaled by an odd number. -/
theorem eq_of_rotateLeft_mul_eq {amount factor a b : UInt32} (hpositive : 0 < amount.toNat)
    (hless : amount.toNat < 32) (hodd : factor.toNat % 2 = 1)
    (h : rotateLeft a amount * factor = rotateLeft b amount * factor) : a = b :=
  eq_of_rotateLeft_eq hpositive hless (eq_of_mul_eq hodd h)

/-! Rounds: what they take in and what they are at, each told by the result where the other is known. -/

/-- A round of a lane tells the word that is taken in. -/
theorem laneRound_injective (lane : UInt32) : Function.Injective (laneRound lane) := by
  intro a b h
  have hsum := eq_of_rotateLeft_mul_eq (by decide) (by decide) (by decide) h
  exact eq_of_mul_eq (by decide) ((UInt32.add_right_inj lane).mp hsum)

/-- A round of the hash tells the word that is taken in. -/
theorem wordRound_injective (hash : UInt32) : Function.Injective (wordRound hash) := by
  intro a b h
  have hsum := eq_of_rotateLeft_mul_eq (by decide) (by decide) (by decide) h
  exact eq_of_mul_eq (by decide) ((UInt32.add_right_inj hash).mp hsum)

/-- A round of the hash tells the hash that it starts from. -/
theorem wordRound_left_injective (word : UInt32) : Function.Injective (wordRound · word) := by
  intro a b h
  have hsum := eq_of_rotateLeft_mul_eq (by decide) (by decide) (by decide) h
  exact (UInt32.add_left_inj _).mp hsum

/-- A round over a byte tells the hash that it starts from. -/
theorem byteRound_left_injective (byte : UInt8) : Function.Injective (byteRound · byte) := by
  intro a b h
  have hsum := eq_of_rotateLeft_mul_eq (by decide) (by decide) (by decide) h
  exact (UInt32.add_left_inj _).mp hsum

/-- Rounds over bytes tell the hash that they start from. -/
theorem foldl_byteRound_injective (bs : Bytes) : Function.Injective (bs.foldl byteRound) := by
  induction bs with
  | nil => exact Function.injective_id
  | cons b rest ih => exact ih.comp (byteRound_left_injective b)

/-- Taking in what the lanes leave tells the hash that it starts from. -/
theorem finishTail_injective (tail : Bytes) : Function.Injective (finishTail · tail) := by
  intro hash other h
  dsimp only at h
  fun_induction finishTail hash tail generalizing other with
  | case1 hash a b c d rest ih =>
    exact wordRound_left_injective _ (ih h)
  | case2 hash rest hshort =>
    rw [finishTail.eq_2 _ _ hshort] at h
    exact foldl_byteRound_injective rest h

/-- Spreading the bits can be undone. -/
theorem avalanche_injective : Function.Injective avalanche := by
  intro a b h
  -- The steps are undone from the last one back.
  have hsecond := eq_of_mul_eq (by decide) (eq_of_xor_shiftRight_eq (by decide) h)
  have hfirst := eq_of_mul_eq (by decide) (eq_of_xor_shiftRight_eq (by decide) hsecond)
  exact eq_of_xor_shiftRight_eq (by decide) hfirst

/-! Inputs that no lane takes from. -/

/-- An input of less than sixteen bytes has no lanes. -/
theorem xxh32_of_lt {input : Bytes} (h : input.length < 16) (seed : UInt32) :
    xxh32 input seed =
      avalanche (finishTail (seed + prime5 + input.length.toUInt32) input) := by
  rw [xxh32, if_neg (by omega)]

/-- Seeds are told by the hash of a short input. -/
theorem xxh32_injective {input : Bytes} (h : input.length < 16) :
    Function.Injective (xxh32 input) := by
  intro a b hhash
  rw [xxh32_of_lt h, xxh32_of_lt h] at hhash
  have hsum := finishTail_injective input (avalanche_injective hhash)
  exact (UInt32.add_left_inj _).mp ((UInt32.add_left_inj _).mp hsum)

/-- The hash of a word, as bytes. -/
theorem xxh32_bytes (word seed : UInt32) :
    xxh32 (Wire.bytes 4 word.toNat) seed = avalanche (wordRound (seed + prime5 + 4) word) := by
  have htail (hash : UInt32) : finishTail hash (Wire.bytes 4 word.toNat) =
      wordRound hash (Wire.number (Wire.bytes 4 word.toNat)).toUInt32 := rfl
  have hlength := Wire.bytes_length 4 word.toNat
  rw [xxh32_of_lt (by omega), htail, Wire.number_bytes, Wire.toUInt32_mod, hlength]
  rfl

/-- Words are told by their hash. -/
theorem xxh32_bytes_injective (seed : UInt32) :
    Function.Injective fun word : UInt32 => xxh32 (Wire.bytes 4 word.toNat) seed := by
  intro a b h
  simp only [xxh32_bytes] at h
  exact wordRound_injective _ (avalanche_injective h)

/-! Inputs of five words: each of the first four is taken by a lane of its own, and the last one in the end. -/

/-- The aligned word at a place of an input. -/
def wordAt (place : Nat) (input : Bytes) : UInt32 :=
  (Wire.numberAt (4 * place) 4 input).toUInt32

/-- An input of twenty bytes gives each lane one word, and the hash the last one. -/
theorem xxh32_of_length_eq {input : Bytes} (h : input.length = 20) (seed : UInt32) :
    xxh32 input seed =
      avalanche (wordRound
        (Lanes.join ⟨laneRound (Lanes.start seed).first (wordAt 0 input),
          laneRound (Lanes.start seed).second (wordAt 1 input),
          laneRound (Lanes.start seed).third (wordAt 2 input),
          laneRound (Lanes.start seed).fourth (wordAt 3 input)⟩ + 20)
        (wordAt 4 input)) := by
  match input, h with
  | [a0, a1, a2, a3, b0, b1, b2, b3, c0, c1, c2, c3, d0, d1, d2, d3, e0, e1, e2, e3], _ => rfl

/-- A word is told by the hash of an input, where the other words are known. -/
theorem wordAt_eq_of_xxh32_eq {input other : Bytes} {seed : UInt32} {place : Nat}
    (hinput : input.length = 20) (hother : other.length = 20) (hplace : place < 5)
    (hsame : ∀ i ≠ place, wordAt i input = wordAt i other)
    (h : xxh32 input seed = xxh32 other seed) : wordAt place input = wordAt place other := by
  rw [xxh32_of_length_eq hinput, xxh32_of_length_eq hother] at h
  have hround := avalanche_injective h
  by_cases hlast : place = 4
  · subst hlast
    simp (disch := decide) only [hsame] at hround
    exact wordRound_injective _ hround
  · rw [hsame 4 (Ne.symm hlast)] at hround
    have hlanes := (UInt32.add_left_inj 20).mp (wordRound_left_injective _ hround)
    have hlane : place < 4 := by omega
    -- Of the four summands all are known but that of the lane which takes the word.
    interval_cases place
    all_goals
      simp (disch := decide) only [hsame, Lanes.join, UInt32.add_left_inj, UInt32.add_right_inj]
        at hlanes
      exact laneRound_injective _ (eq_of_rotateLeft_eq (by decide) (by decide) hlanes)

/-- The bytes of the word at a place. -/
theorem bytes_wordAt (place : Nat) (input : Bytes) :
    Wire.bytes ((input.drop (4 * place)).take 4).length (wordAt place input).toNat =
      (input.drop (4 * place)).take 4 := by
  have hfits : Wire.numberAt (4 * place) 4 input < 2 ^ 32 :=
    calc Wire.number ((input.drop (4 * place)).take 4)
        < 256 ^ ((input.drop (4 * place)).take 4).length := Wire.number_lt _
      _ ≤ 256 ^ 4 := Nat.pow_le_pow_right (by decide) (List.length_take_le ..)
  rw [wordAt, Nat.toUInt32_eq, UInt32.toNat_ofNat_of_lt' hfits]
  exact Wire.bytes_number _

/-- Inputs of one length have the same word at a place exactly where they have the same bytes there. -/
theorem wordAt_eq_iff {input other : Bytes} (hlength : input.length = other.length) (place : Nat) :
    wordAt place input = wordAt place other ↔
      (input.drop (4 * place)).take 4 = (other.drop (4 * place)).take 4 := by
  constructor
  · intro h
    have hwindows : ((input.drop (4 * place)).take 4).length =
        ((other.drop (4 * place)).take 4).length := by
      simp only [List.length_take, List.length_drop, hlength]
    rw [← bytes_wordAt, hwindows, h, bytes_wordAt]
  · intro h
    rw [wordAt, Wire.numberAt, h]
    rfl

end Hash

namespace Address

/-- The aligned word of four bytes at a place of an address. -/
def wordAt (place : Nat) (address : Address) : Bytes :=
  (address.octets.drop (4 * place)).take 4

/-- The form of an address tells how many octets it has. -/
theorem octets_length (address : Address) :
    address.octets.length = if address.isV4 then 4 else 16 := by
  cases address with
  | v4 octets => exact octets_length_v4 octets
  | v6 groups => exact octets_length_v6 groups

/-- The form of an address tells its tag. -/
theorem tag_eq (address : Address) : address.tag = if address.isV4 then 0 else 1 := by
  cases address <;> rfl

/-- Behind the tag, the words of an address stand in its bytes, filled up with zeros. -/
theorem take_drop_bytes (address : Address) (place : Nat) :
    (address.bytes.drop (4 * (place + 1))).take 4 =
      address.wordAt place ++
        (List.replicate (16 - address.octets.length - (4 * place - address.octets.length)) 0).take
          (4 - (address.octets.length - 4 * place)) := by
  have htag : (Wire.bytes 4 address.tag.toNat).length = 4 := Wire.bytes_length ..
  rw [bytes, List.append_assoc, Nat.mul_add, Nat.mul_one, Nat.add_comm, ← List.drop_drop,
    List.drop_left' htag, List.drop_append, List.take_append, List.drop_replicate, List.length_drop, wordAt]

/-- Addresses of one form have the same word at a place exactly where their bytes have it. -/
theorem hash_wordAt_bytes_iff {a b : Address} (hform : a.isV4 = b.isV4) (place : Nat) :
    Hash.wordAt (place + 1) a.bytes = Hash.wordAt (place + 1) b.bytes ↔
      a.wordAt place = b.wordAt place := by
  rw [Hash.wordAt_eq_iff (by rw [bytes_length, bytes_length]), take_drop_bytes, take_drop_bytes,
    a.octets_length, b.octets_length, hform, List.append_left_inj]

/-- Addresses of one form have the same tag. -/
theorem hash_wordAt_zero_bytes {a b : Address} (hform : a.isV4 = b.isV4) :
    Hash.wordAt 0 a.bytes = Hash.wordAt 0 b.bytes := by
  have hfront (address : Address) :
      (address.bytes.drop (4 * 0)).take 4 = Wire.bytes 4 address.tag.toNat := by
    rw [Nat.mul_zero, List.drop_zero, bytes, List.append_assoc]
    exact List.take_left' (Wire.bytes_length ..)
  rw [Hash.wordAt_eq_iff (by rw [bytes_length, bytes_length]), hfront, hfront, a.tag_eq, b.tag_eq, hform]

/-- Behind its octets an address has no words. -/
theorem wordAt_of_le (address : Address) {place : Nat} (h : address.octets.length ≤ 4 * place) :
    address.wordAt place = [] := by
  rw [wordAt, List.drop_of_length_le h, List.take_nil]

/-- Addresses of one form that differ in one word are told apart by the hash of their bytes. -/
theorem xxh32_bytes_ne {a b : Address} (hform : a.isV4 = b.isV4)
    (h : ∃! place, a.wordAt place ≠ b.wordAt place) (seed : UInt32) :
    Hash.xxh32 a.bytes seed ≠ Hash.xxh32 b.bytes seed := by
  obtain ⟨place, hdiffer, honly⟩ := h
  intro hhash
  have hplace : place < 4 := by
    by_contra hbeyond
    have ha := a.octets_length_le
    have hb := b.octets_length_le
    exact hdiffer ((a.wordAt_of_le (by omega)).trans (b.wordAt_of_le (by omega)).symm)
  have hsame (i : Nat) (hi : i ≠ place + 1) : Hash.wordAt i a.bytes = Hash.wordAt i b.bytes := by
    cases i with
    | zero => exact hash_wordAt_zero_bytes hform
    | succ i =>
      rw [hash_wordAt_bytes_iff hform]
      by_contra hother
      exact hi (congrArg (· + 1) (honly i hother))
  apply hdiffer
  rw [← hash_wordAt_bytes_iff hform]
  exact Hash.wordAt_eq_of_xxh32_eq a.bytes_length b.bytes_length (by omega) hsame hhash

/-- Different addresses of the short form differ in their only word. -/
theorem existsUnique_wordAt_ne {octets others : Vector UInt8 4} (h : octets ≠ others) :
    ∃! place, (v4 octets).wordAt place ≠ (v4 others).wordAt place := by
  have hfirst (octets : Vector UInt8 4) : (v4 octets).wordAt 0 = octets.toList :=
    List.take_of_length_le (Nat.le_of_eq (octets_length_v4 octets))
  refine ⟨0, ?_, fun place hplace => ?_⟩
  · dsimp only
    rw [hfirst, hfirst]
    exact fun hlists => h (Vector.toList_inj.mp hlists)
  · by_contra hbeyond
    apply hplace
    rw [wordAt_of_le _ (by rw [octets_length_v4]; omega),
      wordAt_of_le _ (by rw [octets_length_v4]; omega)]

end Address

/-- The hash of an endpoint tells each of its parts. A short input permutes the seeds. Where the remote port
is the same, keys have different hashes if their remote addresses are the same and their processes differ,
or if their processes are the same and their remote addresses, of one form, differ in just one aligned word:
so always where these are different addresses of the short form. -/
theorem FlowKey.endpointHash_separates :
    (∀ input : Bytes, input.length < 16 → Function.Bijective (Hash.xxh32 input)) ∧
      ∀ a b : FlowKey, a.destinationPort = b.destinationPort →
        (a.destination = b.destination → a.pid ≠ b.pid →
          a.hash .mergedByEndpoint ≠ b.hash .mergedByEndpoint) ∧
        (a.pid = b.pid → a.destination.isV4 = b.destination.isV4 →
          (∃! place, a.destination.wordAt place ≠ b.destination.wordAt place) →
          a.hash .mergedByEndpoint ≠ b.hash .mergedByEndpoint) ∧
        (a.pid = b.pid → a.destination.isV4 = true → b.destination.isV4 = true →
          a.destination ≠ b.destination →
          a.hash .mergedByEndpoint ≠ b.hash .mergedByEndpoint) := by
  have hport (port : UInt16) : Function.Injective (Hash.xxh32 (Wire.bytes 2 port.toNat)) :=
    Hash.xxh32_injective (by rw [Wire.bytes_length]; decide)
  have hpid (pid : UInt32) : Function.Injective (Hash.xxh32 (Wire.bytes 4 pid.toNat)) :=
    Hash.xxh32_injective (by rw [Wire.bytes_length]; decide)
  -- Port and process permute the seeds, so equal hashes come down to those of the addresses.
  have haddress {a b : FlowKey} (hports : a.destinationPort = b.destinationPort)
      (hpids : a.pid = b.pid) (hform : a.destination.isV4 = b.destination.isV4)
      (hword : ∃! place, a.destination.wordAt place ≠ b.destination.wordAt place) :
      a.hash .mergedByEndpoint ≠ b.hash .mergedByEndpoint := by
    intro hhash
    simp only [hash, endpointKeyHash, UInt32.toUInt64_inj, hports, hpids] at hhash
    exact Address.xxh32_bytes_ne hform hword 0 (hport _ (hpid _ hhash))
  refine ⟨fun input hshort => (Hash.xxh32_injective hshort).bijective_of_finite, fun a b hports =>
    ⟨fun hdestinations hpids hhash => ?_, haddress hports, fun hpids ha hb hdestinations => ?_⟩⟩
  · simp only [hash, endpointKeyHash, UInt32.toUInt64_inj, hports, hdestinations] at hhash
    exact hpids (Hash.xxh32_bytes_injective _ hhash)
  · refine haddress hports hpids (ha.trans hb.symm) ?_
    cases hdestination : a.destination with
    | v6 groups => simp [hdestination, Address.isV4] at ha
    | v4 octets =>
      cases hother : b.destination with
      | v6 groups => simp [hother, Address.isV4] at hb
      | v4 others =>
        rw [hdestination, hother, ne_eq, Address.v4.injEq] at hdestinations
        exact Address.existsUnique_wordAt_ne hdestinations

/-- Two keys of one process and remote port, with remote addresses of the long form that differ in their last
word. -/
def lastWord : FlowKey × FlowKey :=
  ({ pid := 7, destination := .zero6, destinationPort := 80 },
    { pid := 7, destination := .v6 #v[0, 0, 0, 0, 0, 0, 1, 2], destinationPort := 80 })

/-- The hash of an endpoint tells the last word of a remote address, all of a short one, and the process. -/
theorem FlowKey.endpointHash_separates_lastWord :
    Function.Bijective (Hash.xxh32 [80, 0]) ∧
      (∃! place, lastWord.1.destination.wordAt place ≠ lastWord.2.destination.wordAt place) ∧
      lastWord.1.hash .mergedByEndpoint ≠ lastWord.2.hash .mergedByEndpoint ∧
      FlowKey.hash .mergedByEndpoint { destination := .zero4 } ≠
        FlowKey.hash .mergedByEndpoint { destination := .v4 #v[127, 0, 0, 1] } ∧
      FlowKey.hash .mergedByEndpoint { pid := 7 } ≠ FlowKey.hash .mergedByEndpoint { pid := 8 } := by
  obtain ⟨hbijective, hseparates⟩ := FlowKey.endpointHash_separates
  have hword : ∃! place, lastWord.1.destination.wordAt place ≠ lastWord.2.destination.wordAt place := by
    refine ⟨3, by decide, fun place hplace => ?_⟩
    by_contra hother
    apply hplace
    by_cases hinside : place < 4
    · interval_cases place
      · rfl
      · rfl
      · rfl
      · exact absurd rfl hother
    · have hbehind : 16 ≤ 4 * place := by omega
      rw [Address.wordAt_of_le _ hbehind, Address.wordAt_of_le _ hbehind]
  obtain ⟨_, hlong, _⟩ := hseparates lastWord.1 lastWord.2 rfl
  obtain ⟨_, _, hshort⟩ := hseparates { destination := .zero4 } { destination := .v4 #v[127, 0, 0, 1] } rfl
  obtain ⟨hprocess, _, _⟩ := hseparates { pid := 7 } { pid := 8 } rfl
  exact ⟨hbijective _ (by decide), hword, hlong rfl rfl hword, hshort rfl rfl rfl (by decide),
    hprocess rfl (by decide)⟩

end FlowMeter
