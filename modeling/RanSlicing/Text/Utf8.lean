/-
Reading bytes that should be UTF-8 as a text all the same.

Where the bytes are not those of a character, the longest run that could have begun one is
replaced by a single replacement character, and reading goes on behind it.
-/
namespace RanSlicing.Text

/-- What a first byte announces: how many bytes follow, the bits it gives itself, and the bounds of
the byte after it. -/
def announced? (lead : Nat) : Option (Nat × Nat × Nat × Nat) :=
  if lead < 0x80 then some (0, lead, 0x80, 0xbf)
  else if lead < 0xc2 then none
  else if lead < 0xe0 then some (1, lead - 0xc0, 0x80, 0xbf)
  else if lead < 0xf0 then
    some (2, lead - 0xe0, if lead = 0xe0 then 0xa0 else 0x80, if lead = 0xed then 0x9f else 0xbf)
  else if lead < 0xf5 then
    some (3, lead - 0xf0, if lead = 0xf0 then 0x90 else 0x80, if lead = 0xf4 then 0x8f else 0xbf)
  else none

/-- Adds the bits of `count` bytes that follow, the first of them between `low` and `high`.  The
answer is nothing if one does not fit, and what was not used. -/
def takeFollowing : (count value low high : Nat) → List UInt8 → Option Nat × List UInt8
  | 0, value, _, _, bytes => (some value, bytes)
  | _ + 1, _, _, _, [] => (none, [])
  | count + 1, value, low, high, b :: bytes =>
    if low ≤ b.toNat ∧ b.toNat ≤ high then
      takeFollowing count (value * 64 + (b.toNat - 0x80)) 0x80 0xbf bytes
    else (none, b :: bytes)

/-- The characters of at most `fuel` sequences of bytes. -/
def decodeChars : Nat → List UInt8 → List Char
  | 0, _ => []
  | _, [] => []
  | fuel + 1, b :: bytes =>
    match announced? b.toNat with
    | none => '\uFFFD' :: decodeChars fuel bytes
    | some (count, value, low, high) =>
      match takeFollowing count value low high bytes with
      | (some value, bytes) => Char.ofNat value :: decodeChars fuel bytes
      | (none, bytes) => '\uFFFD' :: decodeChars fuel bytes

/-- The text of some bytes, with replacements for what is no text. -/
def decodeReplacing (bytes : List UInt8) : String :=
  String.ofList (decodeChars bytes.length bytes)

/-- The bytes without the byte-order mark that they may begin with. -/
def withoutMark : List UInt8 → List UInt8
  | 0xef :: 0xbb :: 0xbf :: bytes => bytes
  | bytes => bytes

end RanSlicing.Text
