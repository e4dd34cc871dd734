/-!
# Text in bytes

UTF-8: the bytes of a text, and the text of bytes. Reading is either strict, refusing bytes that no
text has, or tolerant: each longest run of bytes that begins a character but does not finish it,
and each byte that begins none, is read as the replacement character `U+FFFD`.
-/

namespace SchemaChange.Text

/-- The bytes of a text. -/
def utf8 (s : List Char) : List UInt8 :=
  s.flatMap String.utf8EncodeChar

/-- The bytes that may follow a first byte, as one range for each, and the bits the first byte gives;
    none if it begins no character. -/
def followers? (b : UInt8) : Option (Nat × List (UInt8 × UInt8)) :=
  if b < 0x80 then some (b.toNat, [])
  else if b < 0xC2 then none
  else if b < 0xE0 then some (b.toNat - 0xC0, [(0x80, 0xBF)])
  else if b < 0xF0 then
    some (b.toNat - 0xE0,
      [(if b = 0xE0 then 0xA0 else 0x80, if b = 0xED then 0x9F else 0xBF), (0x80, 0xBF)])
  else if b < 0xF5 then
    some (b.toNat - 0xF0,
      [(if b = 0xF0 then 0x90 else 0x80, if b = 0xF4 then 0x8F else 0xBF), (0x80, 0xBF),
        (0x80, 0xBF)])
  else none

/-- Reads following bytes as far as they are in their ranges: the bits so far, how many bytes were read,
    and whether all were there. -/
def readFollowers (bits : Nat) : List (UInt8 × UInt8) → List UInt8 → Nat × Nat × Bool
  | [], _ => (bits, 0, true)
  | _ :: _, [] => (bits, 0, false)
  | (low, high) :: ranges, b :: bs =>
    if low ≤ b && b ≤ high then
      let (bits, count, complete) := readFollowers (bits * 64 + (b.toNat - 0x80)) ranges bs
      (bits, count + 1, complete)
    else (bits, 0, false)

/-- Reads the first character of bytes that begin with `b`: the character, or nothing where there is
    none, and how many of the bytes after `b` it takes. -/
def readChar (b : UInt8) (bs : List UInt8) : Option Char × Nat :=
  match followers? b with
  | none => (none, 0)
  | some (bits, ranges) =>
    let (bits, count, complete) := readFollowers bits ranges bs
    (if complete then some (Char.ofNat bits) else none, count)

/-- The text of bytes, with `U+FFFD` for what is none. -/
def tolerantText : List UInt8 → List Char
  | [] => []
  | b :: bs =>
    let (c, count) := readChar b bs
    c.getD '\ufffd' :: tolerantText (bs.drop count)
termination_by bs => bs.length
decreasing_by simp only [List.length_drop, List.length_cons]; omega

/-- The text of bytes, if they are one. -/
def strictText? : List UInt8 → Option (List Char)
  | [] => some []
  | b :: bs =>
    let (c, count) := readChar b bs
    match c with
    | none => none
    | some c => (strictText? (bs.drop count)).map (c :: ·)
termination_by bs => bs.length
decreasing_by simp only [List.length_drop, List.length_cons]; omega

end SchemaChange.Text
