/-! # Text as bytes

Characters are stored as one to four bytes. Encoding concatenates the bytes of each character;
decoding reads one well-formed sequence at a time. Where the bytes are malformed, strict decoding
fails, and lossy decoding writes one replacement character for each maximal run that could still
have begun a well-formed sequence.
-/

namespace Cel.Text.Utf8

/-- The bytes of a text. -/
def encode (text : List Char) : List UInt8 := text.flatMap String.utf8EncodeChar

/-- The number of bytes that a text takes. -/
def width (text : List Char) : Nat := text.foldr (·.utf8Size + ·) 0

/-- What a first byte announces: the range its second byte lies in, the number of plain
continuation bytes after that, and the bits it contributes itself. -/
structure Lead where
  low : Nat
  high : Nat
  more : Nat
  bits : Nat
deriving DecidableEq, Repr

/-- The sequence a non-ASCII byte can begin, if any. Overlong forms, surrogates and points past
U+10FFFF are excluded by the range of the second byte. -/
def lead? (byte : Nat) : Option Lead :=
  if byte < 0xC2 then none
  else if byte ≤ 0xDF then some ⟨0x80, 0xBF, 0, byte - 0xC0⟩
  else if byte = 0xE0 then some ⟨0xA0, 0xBF, 1, 0⟩
  else if byte = 0xED then some ⟨0x80, 0x9F, 1, 0xD⟩
  else if byte ≤ 0xEF then some ⟨0x80, 0xBF, 1, byte - 0xE0⟩
  else if byte = 0xF0 then some ⟨0x90, 0xBF, 2, 0⟩
  else if byte ≤ 0xF3 then some ⟨0x80, 0xBF, 2, byte - 0xF0⟩
  else if byte = 0xF4 then some ⟨0x80, 0x8F, 2, 4⟩
  else none

/-- Read `more` continuation bytes onto `point`, counting the bytes taken in `taken`. The
character is absent when a byte is missing or malformed. -/
def continuation : (more point taken : Nat) → List UInt8 → Option Char × Nat
  | 0, point, taken, _ => (some (Char.ofNat point), taken)
  | _ + 1, _, taken, [] => (none, taken)
  | more + 1, point, taken, byte :: rest =>
    if 0x80 ≤ byte.toNat ∧ byte.toNat ≤ 0xBF then
      continuation more (point * 64 + (byte.toNat - 0x80)) (taken + 1) rest
    else (none, taken)

/-- The character that a sequence of bytes begins with, and the number of bytes it takes beyond
the first. The character is absent for a malformed run. -/
def firstChar (byte : UInt8) (rest : List UInt8) : Option Char × Nat :=
  if byte.toNat < 0x80 then (some (Char.ofNat byte.toNat), 0)
  else match lead? byte.toNat, rest with
    | some lead, second :: rest =>
      if lead.low ≤ second.toNat ∧ second.toNat ≤ lead.high then
        continuation lead.more (lead.bits * 64 + (second.toNat - 0x80)) 1 rest
      else (none, 0)
    | _, _ => (none, 0)

/-- The character sequences of a byte string, in order; a malformed run stands as an absent
character. -/
def segments : List UInt8 → List (Option Char)
  | [] => []
  | byte :: rest =>
    let (char, more) := firstChar byte rest
    char :: segments (rest.drop more)
termination_by bytes => bytes.length
decreasing_by simp only [List.length_drop, List.length_cons]; omega

/-- The text that the bytes encode, if they are well formed. -/
def decode? (bytes : List UInt8) : Option (List Char) := (segments bytes).mapM id

/-- U+FFFD, which stands for bytes that encode no character. -/
def replacement : Char := '\ufffd'

/-- The text that the bytes encode, with malformed runs replaced. -/
def decodeLossy (bytes : List UInt8) : List Char := (segments bytes).map (·.getD replacement)

end Cel.Text.Utf8
