import FlowMeter.Wire.Word

/-!
# Hashes of flow keys

A mix of the bits of a number in which every step can be undone, so that different numbers have
different hashes; and the hash xxh32 of 32 bits with a seed. An input of xxh32 of at least sixteen bytes
is first consumed by four lanes; the rest is taken in words and then in bytes. The hash of one input may
be the seed of the next.
-/

namespace FlowMeter.Hash

/-- The hash of a number. All sums are taken modulo `2 ^ 64`. -/
def mix64 (n : UInt64) : UInt64 :=
  let n := (n <<< 21) - n - 1
  let n := n ^^^ (n >>> 24)
  let n := n + (n <<< 3) + (n <<< 8)
  let n := n ^^^ (n >>> 14)
  let n := n + (n <<< 2) + (n <<< 4)
  let n := n ^^^ (n >>> 28)
  n + (n <<< 31)

/-- The multipliers of the hash, all odd. -/
def prime1 : UInt32 := 0x9E3779B1

/-- See `prime1`. -/
def prime2 : UInt32 := 0x85EBCA77

/-- See `prime1`. -/
def prime3 : UInt32 := 0xC2B2AE3D

/-- See `prime1`. -/
def prime4 : UInt32 := 0x27D4EB2F

/-- See `prime1`. -/
def prime5 : UInt32 := 0x165667B1

/-- Rotates the bits of a word to the left. -/
def rotateLeft (word amount : UInt32) : UInt32 :=
  (word <<< amount) ||| (word >>> (32 - amount))

/-- The word of four bytes, least byte first. -/
def word (a b c d : UInt8) : UInt32 :=
  (Wire.number [a, b, c, d]).toUInt32

/-- Takes a word into a lane. -/
def laneRound (lane word : UInt32) : UInt32 :=
  rotateLeft (lane + word * prime2) 13 * prime1

/-- The four lanes of a long input. -/
structure Lanes where
  first : UInt32
  second : UInt32
  third : UInt32
  fourth : UInt32
deriving DecidableEq, Repr

namespace Lanes

/-- The lanes at the start. -/
def start (seed : UInt32) : Lanes :=
  ⟨seed + prime1 + prime2, seed + prime2, seed, seed - prime1⟩

/-- Consumes sixteen bytes at a time. -/
def consume (lanes : Lanes) : Bytes → Lanes × Bytes
  | a0 :: a1 :: a2 :: a3 :: b0 :: b1 :: b2 :: b3 :: c0 :: c1 :: c2 :: c3 ::
      d0 :: d1 :: d2 :: d3 :: rest =>
    consume
      ⟨laneRound lanes.first (word a0 a1 a2 a3), laneRound lanes.second (word b0 b1 b2 b3),
        laneRound lanes.third (word c0 c1 c2 c3), laneRound lanes.fourth (word d0 d1 d2 d3)⟩ rest
  | rest => (lanes, rest)

/-- Joins the lanes. -/
def join (lanes : Lanes) : UInt32 :=
  rotateLeft lanes.first 1 + rotateLeft lanes.second 7 + rotateLeft lanes.third 12 +
    rotateLeft lanes.fourth 18

end Lanes

/-- Takes a word into the hash. -/
def wordRound (hash word : UInt32) : UInt32 :=
  rotateLeft (hash + word * prime3) 17 * prime4

/-- Takes a byte into the hash. -/
def byteRound (hash : UInt32) (byte : UInt8) : UInt32 :=
  rotateLeft (hash + byte.toUInt32 * prime5) 11 * prime1

/-- Takes the bytes that the lanes have left into the hash. -/
def finishTail (hash : UInt32) : Bytes → UInt32
  | a :: b :: c :: d :: rest => finishTail (wordRound hash (word a b c d)) rest
  | rest => rest.foldl byteRound hash

/-- Spreads the bits of the hash. -/
def avalanche (hash : UInt32) : UInt32 :=
  let hash := (hash ^^^ (hash >>> 15)) * prime2
  let hash := (hash ^^^ (hash >>> 13)) * prime3
  hash ^^^ (hash >>> 16)

/-- The hash of some bytes. -/
def xxh32 (input : Bytes) (seed : UInt32) : UInt32 :=
  let (hash, rest) :=
    if 16 ≤ input.length then
      let (lanes, rest) := (Lanes.start seed).consume input
      (lanes.join, rest)
    else (seed + prime5, input)
  avalanche (finishTail (hash + input.length.toUInt32) rest)

end FlowMeter.Hash
