import MappingMarkers.Text.Quoted

/-!
UTF-8: the bytes of a text, and the text of bytes together with the place and the reason where they
are not well formed.
-/

namespace MappingMarkers.Text.Utf8

def encodeChar (c : Char) : List UInt8 :=
  let n := c.toNat
  if n < 0x80 then [.ofNat n]
  else if n < 0x800 then [.ofNat (0xC0 + n / 64), .ofNat (0x80 + n % 64)]
  else if n < 0x10000 then
    [.ofNat (0xE0 + n / 4096), .ofNat (0x80 + n / 64 % 64), .ofNat (0x80 + n % 64)]
  else
    [.ofNat (0xF0 + n / 262144), .ofNat (0x80 + n / 4096 % 64), .ofNat (0x80 + n / 64 % 64),
      .ofNat (0x80 + n % 64)]

def encode (t : Text) : List UInt8 := t.flatMap encodeChar

/-- What is wrong with a byte, or with the end of the bytes. -/
inductive Reason where
  | startByte
  | continuationByte
  | endOfData
  deriving DecidableEq

def Reason.message : Reason → Text
  | .startByte => "invalid start byte".toList
  | .continuationByte => "invalid continuation byte".toList
  | .endOfData => "unexpected end of data".toList

/-- The first bytes that belong to no character: where they start, how many they are, and the first
of them. -/
structure DecodeError where
  first : UInt8
  start : Nat
  count : Nat
  reason : Reason
  deriving DecidableEq

def DecodeError.message (e : DecodeError) : Text :=
  let head := "'utf-8' codec can't decode ".toList
  let place :=
    if e.count = 1 then
      "byte 0x".toList ++ hex 2 e.first.toNat ++ " in position ".toList ++ ofNat e.start
    else
      "bytes in position ".toList ++ ofNat e.start ++ ['-'] ++ ofNat (e.start + e.count - 1)
  head ++ place ++ ": ".toList ++ e.reason.message

/-- A character whose bytes have begun: the bits so far, how many bytes are missing, and the bounds
of the next one. -/
structure Unfinished where
  first : UInt8
  start : Nat
  count : Nat
  value : Nat
  missing : Nat
  low : Nat := 0x80
  high : Nat := 0xBF

/-- What a byte beyond ASCII begins. The bounds on the byte after it leave out long forms,
surrogates and code points that are too large. -/
def begin? (b : UInt8) (start : Nat) : Option Unfinished :=
  let n := b.toNat
  if n < 0xC2 then none
  else if n < 0xE0 then some { first := b, start, count := 1, value := n - 0xC0, missing := 1 }
  else if n < 0xF0 then
    some { first := b, start, count := 1, value := n - 0xE0, missing := 2,
           low := if n = 0xE0 then 0xA0 else 0x80, high := if n = 0xED then 0x9F else 0xBF }
  else if n < 0xF5 then
    some { first := b, start, count := 1, value := n - 0xF0, missing := 3,
           low := if n = 0xF0 then 0x90 else 0x80, high := if n = 0xF4 then 0x8F else 0xBF }
  else none

/-- The text of bytes that stand at `position`, after the bytes of an unfinished character if there
is one. -/
def decodeFrom (position : Nat) : Option Unfinished → List UInt8 → Except DecodeError Text
  | none, [] => .ok []
  | some u, [] => .error ⟨u.first, u.start, u.count, .endOfData⟩
  | none, b :: bs =>
      if b.toNat < 0x80 then (Char.ofNat b.toNat :: ·) <$> decodeFrom (position + 1) none bs
      else
        match begin? b position with
        | some u => decodeFrom (position + 1) (some u) bs
        | none => .error ⟨b, position, 1, .startByte⟩
  | some u, b :: bs =>
      if u.low ≤ b.toNat ∧ b.toNat ≤ u.high then
        let value := u.value * 64 + (b.toNat - 0x80)
        if u.missing = 1 then (Char.ofNat value :: ·) <$> decodeFrom (position + 1) none bs
        else
          decodeFrom (position + 1)
            (some { first := u.first, start := u.start, count := u.count + 1, value,
                    missing := u.missing - 1 }) bs
      else .error ⟨u.first, u.start, u.count, .continuationByte⟩

def decode (bytes : List UInt8) : Except DecodeError Text := decodeFrom 0 none bytes

def byteOrderMark : List UInt8 := [0xEF, 0xBB, 0xBF]

/-- The text of a whole file. A byte order mark in front is no part of the text, positions are
counted after it, and a file that holds only the beginning of one is empty. -/
def decodeFile (bytes : List UInt8) : Except DecodeError Text :=
  if byteOrderMark.isPrefixOf bytes then decode (bytes.drop 3)
  else if bytes.isPrefixOf byteOrderMark then .ok []
  else decode bytes

end MappingMarkers.Text.Utf8
