/-!
# Hashing bytes

A byte sequence hashes to one word: its bytes enter two words of state, short sequences through overlapping reads at both ends and long ones sixteen bytes at a time, and the two words are folded into each other by a full multiplication. All reads are little-endian.
-/

namespace Stylesheet

namespace Hash

/-- The low and the high half of the product, combined by exclusive or. -/
def foldedProduct (a b : UInt64) : UInt64 :=
  let product := a.toNat * b.toNat
  UInt64.ofNat (product % UInt64.size) ^^^ UInt64.ofNat (product / UInt64.size)

/-- The word whose bytes, least significant first, are given. -/
def littleEndian : List UInt8 → UInt64
  | [] => 0
  | byte :: rest => byte.toUInt64 ||| (littleEndian rest <<< 8)

def readWord (start width : Nat) (bytes : List UInt8) : UInt64 :=
  littleEndian ((bytes.drop start).take width)

structure ByteState where
  first : UInt64
  second : UInt64

namespace ByteState

def start : ByteState := ⟨0x243f6a8885a308d3, 0x13198a2e03707344⟩

def mix (state : ByteState) (a b : UInt64) : ByteState := ⟨state.first ^^^ a, state.second ^^^ b⟩

/-- Takes in `count` blocks of sixteen bytes. -/
def blocks : Nat → List UInt8 → ByteState → ByteState
  | 0, _, state => state
  | count + 1, bytes, state =>
    let mixed := foldedProduct (state.first ^^^ readWord 0 8 bytes)
      (0xa4093822299f31d0 ^^^ readWord 8 8 bytes)
    blocks count (bytes.drop 16) ⟨state.second, mixed⟩

def ofBytes (bytes : List UInt8) : ByteState :=
  let n := bytes.length
  if n = 0 then start
  else if n < 4 then
    start.mix (readWord 0 1 bytes) (readWord (n - 1) 1 bytes <<< 8 ||| readWord (n / 2) 1 bytes)
  else if n < 8 then start.mix (readWord 0 4 bytes) (readWord (n - 4) 4 bytes)
  else if n ≤ 16 then start.mix (readWord 0 8 bytes) (readWord (n - 8) 8 bytes)
  else
    (blocks ((n - 1) / 16) bytes start).mix (readWord (n - 16) 8 bytes) (readWord (n - 8) 8 bytes)

end ByteState

def ofBytes (bytes : List UInt8) : UInt64 :=
  let state := ByteState.ofBytes bytes
  foldedProduct state.first state.second ^^^ UInt64.ofNat bytes.length

end Hash

end Stylesheet
