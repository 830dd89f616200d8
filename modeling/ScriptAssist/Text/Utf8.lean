import ScriptAssist.Text.Digit

namespace ScriptAssist.Text.Utf8

/-- Why bytes are not UTF-8. -/
inductive Reason where
  | invalidStart
  | invalidContinuation
  | unexpectedEnd
  deriving DecidableEq, Repr

def Reason.message : Reason → String
  | .invalidStart => "invalid start byte"
  | .invalidContinuation => "invalid continuation byte"
  | .unexpectedEnd => "unexpected end of data"

/-- Bytes are cut into characters and stretches that no character begins with; a stretch is the
longest beginning of a character that is there, and at least one byte. -/
inductive Piece where
  | char (c : Char) (size : Nat)
  | bad (size : Nat) (reason : Reason)
  deriving DecidableEq, Repr

def Piece.size : Piece → Nat
  | .char _ size => size
  | .bad size _ => size

/-- For a first byte of several: the number of bytes to follow, the bounds of the first of them,
which keep out overlong forms, surrogates and numbers beyond the last character, and the bits it
gives. -/
def lead? (byte : Nat) : Option (Nat × Nat × Nat × Nat) :=
  if byte < 0xC2 then none
  else if byte < 0xE0 then some (1, 0x80, 0xBF, byte - 0xC0)
  else if byte < 0xF0 then
    some (2, if byte = 0xE0 then 0xA0 else 0x80, if byte = 0xED then 0x9F else 0xBF, byte - 0xE0)
  else if byte < 0xF5 then
    some (3, if byte = 0xF0 then 0x90 else 0x80, if byte = 0xF4 then 0x8F else 0xBF, byte - 0xF0)
  else none

/-- Takes `count` bytes that continue a character of which `seen` bytes gave `value`. -/
def follow : Nat → Nat → Nat → Nat → Nat → List UInt8 → Piece
  | 0, _, _, value, seen, _ => .char (Char.ofNat value) seen
  | _ + 1, _, _, _, seen, [] => .bad seen .unexpectedEnd
  | count + 1, low, high, value, seen, byte :: bytes =>
    if low ≤ byte.toNat ∧ byte.toNat ≤ high then
      follow count 0x80 0xBF (64 * value + byte.toNat % 64) (seen + 1) bytes
    else .bad seen .invalidContinuation

/-- The piece that begins with `byte`. -/
def firstPiece (byte : UInt8) (bytes : List UInt8) : Piece :=
  if byte.toNat < 0x80 then .char (Char.ofNat byte.toNat) 1
  else
    match lead? byte.toNat with
    | none => .bad 1 .invalidStart
    | some (count, low, high, value) => follow count low high value 1 bytes

def pieces (bytes : List UInt8) : List Piece :=
  match bytes with
  | [] => []
  | byte :: bytes =>
    let piece := firstPiece byte bytes
    piece :: pieces (bytes.drop (piece.size - 1))
termination_by bytes.length
decreasing_by simp only [List.length_cons, List.length_drop]; omega

/-- The first bytes that are not UTF-8: where they are, and the byte they begin with. -/
structure Fault where
  offset : Nat
  size : Nat
  byte : UInt8
  reason : Reason
  deriving DecidableEq, Repr

def Fault.message (fault : Fault) : String :=
  let place :=
    if fault.size = 1 then
      s!"byte 0x{String.ofList (hexDigits 2 fault.byte.toNat)} in position {fault.offset}"
    else s!"bytes in position {fault.offset}-{fault.offset + fault.size - 1}"
  s!"'utf-8' codec can't decode {place}: {fault.reason.message}"

/-- Reads pieces that begin at `offset` of `bytes`, as long as they are characters. -/
def characters (bytes : List UInt8) (offset : Nat) : List Piece → Except Fault (List Char)
  | [] => .ok []
  | .bad size reason :: _ => .error ⟨offset, size, (bytes.drop offset).headD 0, reason⟩
  | .char c size :: pieces =>
    match characters bytes (offset + size) pieces with
    | .ok cs => .ok (c :: cs)
    | .error fault => .error fault

/-- Decodes bytes, or tells the first that cannot be. -/
def decode (bytes : List UInt8) : Except Fault (List Char) := characters bytes 0 (pieces bytes)

/-- Decodes bytes with a replacement character for each stretch that cannot be. -/
def decodeLossy (bytes : List UInt8) : List Char :=
  (pieces bytes).map fun
    | .char c _ => c
    | .bad .. => '\ufffd'

/-- The bytes of a text. -/
def encode (text : List Char) : List UInt8 := text.flatMap String.utf8EncodeChar

end ScriptAssist.Text.Utf8

namespace ScriptAssist.Text

/-- Decodes a text behind the bytes `pending`, which are in reverse order. -/
def percentDecodeFrom (pending : List UInt8) : List Char → List Char
  | [] => Utf8.decodeLossy pending.reverse
  | '%' :: a :: b :: cs =>
    match hexValue? a, hexValue? b with
    | some high, some low => percentDecodeFrom (UInt8.ofNat (16 * high + low) :: pending) cs
    | _, _ => percentDecodeFrom (0x25 :: pending) (a :: b :: cs)
  | c :: cs =>
    if c.toNat < 0x80 then percentDecodeFrom (UInt8.ofNat c.toNat :: pending) cs
    else Utf8.decodeLossy pending.reverse ++ c :: percentDecodeFrom [] cs

/-- Puts the bytes that percent signs write in their place and reads the result as UTF-8. A percent
sign without two hexadecimal digits stays. -/
def percentDecode (text : List Char) : List Char := percentDecodeFrom [] text

end ScriptAssist.Text
