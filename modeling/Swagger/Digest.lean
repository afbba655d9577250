/-! # Digests
A short name for a text, made of characters that need no escape in a path.

* `Digest.hash` — the 64-bit FNV-1 hash of bytes: multiply, then combine with the next byte.
* `Digest.ofText` — the first 48 bits of the hash, six for each character. -/

namespace Swagger

namespace Digest

/-- The hash of no bytes. -/
def offset : UInt64 := 0xcbf29ce484222325

/-- The factor of each step. -/
def factor : UInt64 := 0x00000100000001b3

/-- The FNV-1 hash of bytes. -/
def hash (bytes : List UInt8) : UInt64 :=
  bytes.foldl (fun h b => (h * factor) ^^^ b.toUInt64) offset

/-- The characters that stand for six bits. -/
def alphabet : List Char :=
  "ABCDEFGHIJKLMNOPQRSTUVWXYZabcdefghijklmnopqrstuvwxyz0123456789-_".toList

/-- The character of a number below sixty-four. -/
def character (n : Nat) : Char := alphabet.getD n 'A'

/-- The digest of a text: eight characters. -/
def ofText (s : String) : String :=
  let high := (hash s.toUTF8.toList).toNat / Nat.pow 2 16
  String.ofList ((List.range 8).map fun i => character (high / Nat.pow 64 (7 - i) % 64))

end Digest

end Swagger
