import QuerySets.Text.Hex
import QuerySets.Text.Quoted

/-!
Identifiers of twelve bytes, written as twenty-four hexadecimal digits.
-/

namespace QuerySets

structure ObjectId where
  bytes : Vector UInt8 12
deriving DecidableEq

namespace ObjectId

open Text

/-- Two digits for each byte, the high one first. -/
def bytesOfHex? : List Char → Option (List UInt8)
  | [] => some []
  | [_] => none
  | high :: low :: rest => do
    let h ← Hex.value? high
    let l ← Hex.value? low
    let others ← bytesOfHex? rest
    return UInt8.ofNat (16 * h + l) :: others

def hexOfBytes (bytes : List UInt8) : List Char :=
  bytes.flatMap fun b => [Hex.digit (b.toNat / 16), Hex.digit (b.toNat % 16)]

/-- Reads the written form; digits of either case count. -/
def ofHex? (text : String) : Option ObjectId := do
  let bytes ← bytesOfHex? text.toList
  if h : bytes.length = 12 then
    return ⟨⟨bytes.toArray, by simpa using h⟩⟩
  else none

/-- The written form, in lowercase. -/
def toHex (id : ObjectId) : String := String.ofList (hexOfBytes id.bytes.toList)

/-- Identifiers compare byte by byte. -/
def order (a b : ObjectId) : Ordering := compare a.bytes.toList b.bytes.toList

/-- The identifier that spells `n` in base 256. -/
def ofNat (n : Nat) : ObjectId :=
  ⟨Vector.ofFn fun i => UInt8.ofNat (n >>> (8 * (11 - i.val)))⟩

/-- The message for a text that is no identifier. -/
def unrecognised (text : String) : String :=
  "invalid object id " ++ Quoted.quote text ++ ": expected 24 hex characters"

end ObjectId

end QuerySets
