/-
Byte strings and byte windows.

A window is a byte string of fixed length that one side hands out and the other side fills.
- `zeros`: a fresh window;
- `resize`: cut a window to a length, or extend it by zeros;
- `overwrite`: copy bytes into a window at an offset; the length of the window never changes;
- `hex`: two lower-case hexadecimal digits a byte.
-/
namespace TlsClient

/-- a byte string, first byte first -/
abbrev Bytes := List UInt8

namespace Bytes

/-- `count` zero bytes -/
def zeros (count : Nat) : Bytes := List.replicate count 0

/-- cut to `length` bytes, or extend to them by zeros -/
def resize (bytes : Bytes) (length : Nat) : Bytes :=
  bytes.take length ++ zeros (length - bytes.length)

/-- copy `data` into `window` from offset `start` on; what does not fit is dropped -/
def overwrite (window : Bytes) (start : Nat) (data : Bytes) : Bytes :=
  (window.take start ++ data ++ window.drop (start + data.length)).take window.length

/-- the two hexadecimal digits of a byte -/
def hexOfByte (byte : UInt8) : List Char :=
  [Nat.digitChar (byte.toNat / 16), Nat.digitChar (byte.toNat % 16)]

/-- lower-case hexadecimal text, two digits a byte -/
def hex (bytes : Bytes) : String := String.ofList (bytes.flatMap hexOfByte)

/-- the number that `bytes` spell, least significant byte first -/
def littleEndian (bytes : Bytes) : Nat :=
  bytes.foldr (fun byte high => byte.toNat + 256 * high) 0

theorem length_zeros (count : Nat) : (zeros count).length = count := by simp [zeros]

theorem length_resize (bytes : Bytes) (length : Nat) : (resize bytes length).length = length := by
  simp [resize, zeros]; omega

theorem length_overwrite (window : Bytes) (start : Nat) (data : Bytes) :
    (overwrite window start data).length = window.length := by
  simp [overwrite]; omega

end Bytes

end TlsClient
