/-
Internet addresses and their text.

Version 4 is dotted decimal. Version 6 is written in groups of lower-case hexadecimal digits without leading zeros; the
longest run of at least two zero groups, the first one if several are longest, shrinks to `::`; an address that embeds a
version 4 address (`::ffff:0:0/96`) ends in dotted decimal.
-/
import TlsClient.Bytes

namespace TlsClient

/-- an internet address -/
inductive IpAddress where
  /-- four octets -/
  | v4 (a b c d : UInt8)
  /-- eight groups of sixteen bits -/
  | v6 (groups : Vector UInt16 8)
  deriving DecidableEq, Repr

namespace IpAddress

/-- the group of sixteen bits at an index, high byte first -/
def groupAt (bytes : Bytes) (index : Nat) : UInt16 :=
  UInt16.ofNat (256 * (bytes.getD (2 * index) 0).toNat + (bytes.getD (2 * index + 1) 0).toNat)

/-- an address from its four or sixteen bytes in network order -/
def ofBytes? : Bytes → Option IpAddress
  | [a, b, c, d] => some (.v4 a b c d)
  | bytes => if bytes.length = 16 then some (.v6 (Vector.ofFn fun i => groupAt bytes i.val)) else none

/-- dotted decimal -/
def dotted (a b c d : Nat) : String := s!"{a}.{b}.{c}.{d}"

/-- a group in hexadecimal without leading zeros -/
def groupText (group : Nat) : String := String.ofList (Nat.toDigits 16 group)

/-- groups with a colon between neighbours -/
def groupsText (groups : List Nat) : String := ":".intercalate (groups.map groupText)

/-- how many zero groups a list starts with -/
def leadingZeros (groups : List Nat) : Nat := (groups.takeWhile (· == 0)).length

/-- start and length of the longest run of zero groups; the first one if several are longest -/
def longestZeroRun (groups : List Nat) : Nat × Nat :=
  (List.range groups.length).foldl
    (fun best start =>
      let length := leadingZeros (groups.drop start)
      if best.2 < length then (start, length) else best)
    (0, 0)

/-- the text of eight groups -/
def text6 (groups : List Nat) : String :=
  match groups with
  | [0, 0, 0, 0, 0, 0xffff, high, low] => "::ffff:" ++ dotted (high / 256) (high % 256) (low / 256) (low % 256)
  | groups =>
    let (start, length) := longestZeroRun groups
    if 2 ≤ length then groupsText (groups.take start) ++ "::" ++ groupsText (groups.drop (start + length))
    else groupsText groups

/-- the text of an address -/
def text : IpAddress → String
  | .v4 a b c d => dotted a.toNat b.toNat c.toNat d.toNat
  | .v6 groups => text6 (groups.toList.map UInt16.toNat)

end IpAddress

end TlsClient
