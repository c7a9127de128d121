/-!
# Digest of a text

A 64-bit digest of a byte sequence: start from the offset basis; for each byte, exclusive-or it in
and multiply by the prime, modulo 2^64. It identifies a file's contents in a report without
quoting them.
-/

namespace Watchdesk.Text

/-- The digest of a byte sequence. -/
def digest (bytes : ByteArray) : UInt64 :=
  bytes.foldl (fun h b => (h ^^^ b.toUInt64) * 0x100000001b3) 0xcbf29ce484222325

/-- One hexadecimal digit, in lower case. -/
def hexDigit (n : Nat) : Char := (Nat.toDigits 16 (n % 16)).headD '0'

/-- A number in hexadecimal with leading zeros up to `width` digits. -/
def hex (width n : Nat) : List Char :=
  let ds := Nat.toDigits 16 n
  List.replicate (width - ds.length) '0' ++ ds

end Watchdesk.Text
