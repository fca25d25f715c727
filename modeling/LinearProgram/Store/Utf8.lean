/-
  Utf8 — the characters that a stretch of octets encodes, and the first octet that is wrong.

  1. **Sequences** — the first octet of a character announces how many octets follow and in which
     ranges they lie; `announced?` is that rule. A first octet that announces nothing, or an octet
     outside its range, rules the whole stretch out.

  2. **Decoding** — `decode` reads a stretch up to its end or its first fault. Octets of a character
     that the stretch ends inside of are left pending: whether they are a fault is known only when
     it is known what follows. The first two octets of a surrogate are left pending in the same
     way, although nothing that follows can make them a character.

  3. **Blocks** — stored octets are read block by block. `decodeBlocks` carries what is pending
     from one block into the next. A block with a fault in it gives no characters at all.
-/

import LinearProgram.Decimal.Digits
import LinearProgram.Text.Hex

namespace LinearProgram

/-- Stored content. -/
abbrev Octets := List UInt8

namespace Utf8

/-! ## Faults -/

/-- What is wrong with a sequence of octets. -/
inductive Flaw where
  /-- No character starts with this octet. -/
  | start
  /-- The octet behind the sequence does not continue it. -/
  | continuation
  /-- The octets end inside the character. -/
  | truncated
deriving DecidableEq, Repr

/-- The flaw in words. -/
def Flaw.label : Flaw → String
  | start => "invalid start byte"
  | continuation => "invalid continuation byte"
  | truncated => "unexpected end of data"

/-- A sequence that encodes no character. -/
structure Fault where
  /-- Where the sequence starts, counted from the start of what was being decoded. -/
  position : Nat
  sequence : Octets
  flaw : Flaw
deriving DecidableEq, Repr

/-- A position as text. -/
def Fault.place (n : Nat) : String := String.ofList (Decimal.digits n)

/-- The fault in words. -/
def Fault.message (f : Fault) : String :=
  match f.sequence with
  | [octet] =>
    let shown := String.ofList (Text.hex 2 octet.toNat)
    s!"'utf-8' codec can't decode byte 0x{shown} in position {place f.position}: {f.flaw.label}"
  | octets =>
    let last := place (f.position + octets.length - 1)
    s!"'utf-8' codec can't decode bytes in position {place f.position}-{last}: {f.flaw.label}"

/-! ## Sequences -/

/-- A range of octets, both ends included. -/
abbrev OctetRange := Nat × Nat

/-- The octets that continue a character, special cases apart. -/
def tail : OctetRange := (0x80, 0xBF)

/-- Does the octet lie in the range? -/
def OctetRange.holds (range : OctetRange) (octet : UInt8) : Bool :=
  range.1 ≤ octet.toNat && octet.toNat ≤ range.2

/-- What a first octet contributes to the character's number, and the ranges of the octets that
    follow it. The special ranges leave out overlong forms, surrogates and numbers above
    `0x10FFFF`. -/
def announced? (first : UInt8) : Option (Nat × List OctetRange) :=
  let n := first.toNat
  if n < 0x80 then some (n, [])
  else if n < 0xC2 then none
  else if n < 0xE0 then some (n - 0xC0, [tail])
  else if n = 0xE0 then some (0, [(0xA0, 0xBF), tail])
  else if n = 0xED then some (0xD, [(0x80, 0x9F), tail])
  else if n < 0xF0 then some (n - 0xE0, [tail, tail])
  else if n = 0xF0 then some (0, [(0x90, 0xBF), tail, tail])
  else if n < 0xF4 then some (n - 0xF0, [tail, tail, tail])
  else if n = 0xF4 then some (4, [(0x80, 0x8F), tail, tail])
  else none

/-- A character of which at least one octet is there and at least one is owed. -/
structure Begun where
  octets : Octets
  value : Nat
  next : OctetRange
  later : List OctetRange
deriving DecidableEq

/-! ## Decoding -/

/-- What a stretch of octets encodes. -/
structure Decoded where
  text : Text := []
  /-- The octets of a character that the stretch ends inside of. -/
  pending : Octets := []
  fault : Option Fault := none
deriving DecidableEq

/-- The same with one more character in front. -/
def Decoded.push (c : Char) (d : Decoded) : Decoded := { d with text := c :: d.text }

/-- Are the octets the first two of a surrogate? -/
def isSurrogateStart : Octets → Bool
  | [first, second] => first = 0xED && OctetRange.holds (0xA0, 0xBF) second
  | _ => false

/-- Decodes octets from `position` on, where the next character starts, or `begun` did. -/
def decodeFrom (position : Nat) (begun : Option Begun) : Octets → Decoded
  | [] => { pending := (begun.map Begun.octets).getD [] }
  | octet :: rest =>
    match begun with
    | none =>
      match announced? octet with
      | none => { fault := some ⟨position, [octet], .start⟩ }
      | some (value, []) => (decodeFrom (position + 1) none rest).push (Char.ofNat value)
      | some (value, next :: later) => decodeFrom position (some ⟨[octet], value, next, later⟩) rest
    | some b =>
      let octets := b.octets ++ [octet]
      if b.next.holds octet then
        let value := 64 * b.value + (octet.toNat - 0x80)
        match b.later with
        | [] => (decodeFrom (position + octets.length) none rest).push (Char.ofNat value)
        | next :: later => decodeFrom position (some ⟨octets, value, next, later⟩) rest
      else if rest.isEmpty && isSurrogateStart octets then { pending := octets }
      else { fault := some ⟨position, b.octets, .continuation⟩ }

/-- Decodes a stretch of octets. -/
def decode (octets : Octets) : Decoded := decodeFrom 0 none octets

example : decode [0x61, 0xC3, 0xA9, 0xE2, 0x82] = ⟨['a', 'é'], [0xE2, 0x82], none⟩ := by decide

example : (decode [0x61, 0xED, 0xA0]).pending = [0xED, 0xA0] := by decide

example : (decode [0x61, 0xED, 0xA0, 0x80]).fault = some ⟨1, [0xED], .continuation⟩ := by decide

/-! ## Blocks -/

/-- How many octets are read at a time. -/
def blockSize : Nat := 8192

/-- The blocks that octets are read in. -/
def blocks (octets : Octets) : List Octets :=
  if octets.length ≤ blockSize then [octets]
  else octets.take blockSize :: blocks (octets.drop blockSize)
termination_by octets.length
decreasing_by
  simp only [List.length_drop, blockSize] at *
  omega

/-- The fault of octets that are still pending at the very end, if there are any. -/
def faultAtEnd? (pending : Octets) : Option Fault :=
  match pending with
  | [] => none
  | first :: rest =>
    if isSurrogateStart (first :: rest) then some ⟨0, [first], .continuation⟩
    else some ⟨0, first :: rest, .truncated⟩

/-- Decodes blocks one after the other, `pending` being left of the one before: the characters of
    the blocks without a fault, and the fault. -/
def decodeBlocks (pending : Octets) : List Octets → Text × Option Fault
  | [] => ([], faultAtEnd? pending)
  | block :: rest =>
    match decode (pending ++ block) with
    | ⟨_, _, some fault⟩ => ([], some fault)
    | ⟨text, pending, none⟩ =>
      match decodeBlocks pending rest with
      | (more, fault?) => (text ++ more, fault?)

/-- Decodes stored octets. -/
def read (octets : Octets) : Text × Option Fault := decodeBlocks [] (blocks octets)

end Utf8

end LinearProgram
