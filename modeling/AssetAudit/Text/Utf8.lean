import AssetAudit.Text.Basic

/-!
# UTF-8

Texts as bytes and back. A fault is reported at the first byte that rules the text out, with the
bytes that belong to the broken character.
-/
namespace AssetAudit.Text

def utf8Char (c : Char) : List UInt8 :=
  let n := c.toNat
  if n < 0x80 then [n.toUInt8]
  else if n < 0x800 then [(0xc0 + n / 64).toUInt8, (0x80 + n % 64).toUInt8]
  else if n < 0x10000 then
    [(0xe0 + n / 4096).toUInt8, (0x80 + n / 64 % 64).toUInt8, (0x80 + n % 64).toUInt8]
  else
    [(0xf0 + n / 262144).toUInt8, (0x80 + n / 4096 % 64).toUInt8, (0x80 + n / 64 % 64).toUInt8,
      (0x80 + n % 64).toUInt8]

def utf8 (s : Text) : List UInt8 :=
  s.flatMap utf8Char

inductive DecodeFault where
  | start
  | continuation
  | truncated
  deriving DecidableEq, Repr

structure DecodeError where
  fault : DecodeFault
  first : UInt8
  position : Nat
  length : Nat
  deriving DecidableEq, Repr

def DecodeFault.message : DecodeFault → Text
  | .start => "invalid start byte".toList
  | .continuation => "invalid continuation byte".toList
  | .truncated => "unexpected end of data".toList

def DecodeError.message (e : DecodeError) : Text :=
  let place := if e.length = 1 then
      "byte 0x".toList ++ hex 2 e.first.toNat ++ " in position ".toList ++ ofNat e.position
    else "bytes in position ".toList ++ ofNat e.position ++ '-' ::
      ofNat (e.position + e.length - 1)
  "'utf-8' codec can't decode ".toList ++ place ++ ": ".toList ++ e.fault.message

inductive Decoded where
  | char (c : Char) (length : Nat)
  | fault (f : DecodeFault) (length : Nat)

def isTail (b : UInt8) : Bool :=
  0x80 ≤ b && b ≤ 0xbf

def tailBits (b : UInt8) : Nat :=
  b.toNat - 0x80

/-- May `b` follow the first byte of a character of at least three bytes? -/
def isSecond (first b : UInt8) : Bool :=
  isTail b && (first != 0xe0 || 0xa0 ≤ b) && (first != 0xed || b < 0xa0) &&
    (first != 0xf0 || 0x90 ≤ b) && (first != 0xf4 || b < 0x90)

/-- The remaining bytes of a character: how many are good, and their bits. -/
def tailsOf (ok : UInt8 → Bool) (bits : Nat) : Nat → List UInt8 → Nat → Decoded
  | 0, _, read => .char (Char.ofNat bits) read
  | _ + 1, [], read => .fault .truncated read
  | n + 1, b :: rest, read =>
    if ok b then tailsOf isTail (bits * 64 + tailBits b) n rest (read + 1)
    else .fault .continuation read

def decodeFirst (b : UInt8) (rest : List UInt8) : Decoded :=
  if b < 0x80 then .char (Char.ofNat b.toNat) 1
  else if b < 0xc2 then .fault .start 1
  else if b < 0xe0 then tailsOf isTail (b.toNat - 0xc0) 1 rest 1
  else if b < 0xf0 then tailsOf (isSecond b) (b.toNat - 0xe0) 2 rest 1
  else if b < 0xf5 then tailsOf (isSecond b) (b.toNat - 0xf0) 3 rest 1
  else .fault .start 1

/-- Go through the bytes; `skip` of them belong to the character just read. -/
def decodeFrom (got : Text) (position skip : Nat) : List UInt8 → Except DecodeError Text
  | [] => .ok got.reverse
  | b :: rest =>
    match skip with
    | n + 1 => decodeFrom got (position + 1) n rest
    | 0 =>
      match decodeFirst b rest with
      | .char c length => decodeFrom (c :: got) (position + 1) (length - 1) rest
      | .fault fault length => .error { fault, first := b, position, length }

def ofUtf8 (data : List UInt8) : Except DecodeError Text :=
  decodeFrom [] 0 0 data

def replaceFrom (got : Text) (skip : Nat) : List UInt8 → Text
  | [] => got.reverse
  | b :: rest =>
    match skip with
    | n + 1 => replaceFrom got n rest
    | 0 =>
      match decodeFirst b rest with
      | .char c length => replaceFrom (c :: got) (length - 1) rest
      | .fault _ length => replaceFrom (Char.ofNat 0xfffd :: got) (length - 1) rest

/-- The text that the bytes encode, with a replacement character for every fault. -/
def ofUtf8Replacing (data : List UInt8) : Text :=
  replaceFrom [] 0 data

def unifyLineEnds (s : Text) : Text :=
  go [] s
where
  go (got : Text) : Text → Text
    | [] => got.reverse
    | '\r' :: '\n' :: rest => go ('\n' :: got) rest
    | '\r' :: rest => go ('\n' :: got) rest
    | c :: rest => go (c :: got) rest

end AssetAudit.Text
