/-! # UTF-8

Texts as bytes, and bytes read as characters.  A sequence of bytes that is no character becomes one
replacement character: the longest beginning of a character counts as one such sequence, and every
byte that begins no character as another. -/

namespace CacheKeys.Text.Utf8

/-- The character that stands for unreadable bytes. -/
def replacement : Char := '\ufffd'

/-- A character of which some bytes have been read: the bits read so far, how many bytes are
missing, and the bounds on the next one. -/
structure Partial where
  code : Nat
  missing : Nat
  least : Nat
  greatest : Nat

/-- What a first byte begins: a whole character, a longer one, or nothing. -/
inductive Lead where
  | whole (c : Char)
  | longer (p : Partial)
  | invalid

/-- Classifies a first byte.  The bounds on the second byte exclude overlong forms, surrogates and
code points that are too great. -/
def lead (b : Nat) : Lead :=
  if b < 0x80 then .whole (Char.ofNat b)
  else if b < 0xC2 then .invalid
  else if b < 0xE0 then .longer ⟨b - 0xC0, 1, 0x80, 0xBF⟩
  else if b < 0xF0 then
    .longer ⟨b - 0xE0, 2, if b = 0xE0 then 0xA0 else 0x80, if b = 0xED then 0x9F else 0xBF⟩
  else if b < 0xF5 then
    .longer ⟨b - 0xF0, 3, if b = 0xF0 then 0x90 else 0x80, if b = 0xF4 then 0x8F else 0xBF⟩
  else .invalid

/-- Reads bytes when no character has been begun. -/
def afterLead (b : Nat) : Option Partial × List Char :=
  match lead b with
  | .whole c => (none, [c])
  | .longer p => (some p, [])
  | .invalid => (none, [replacement])

/-- Reads one byte: what has been begun after it, and the characters that it completes. -/
def step (state : Option Partial) (b : Nat) : Option Partial × List Char :=
  match state with
  | none => afterLead b
  | some p =>
    if p.least ≤ b ∧ b ≤ p.greatest then
      let code := p.code * 64 + (b - 0x80)
      if p.missing = 1 then (none, [Char.ofNat code])
      else (some ⟨code, p.missing - 1, 0x80, 0xBF⟩, [])
    else
      let (state', cs) := afterLead b
      (state', replacement :: cs)

/-- Reads bytes after what has been begun. -/
def decodeFrom : Option Partial → List UInt8 → List Char
  | none, [] => []
  | some _, [] => [replacement]
  | state, b :: bs =>
    let (state', cs) := step state b.toNat
    cs ++ decodeFrom state' bs

def decode (bytes : List UInt8) : String := String.ofList (decodeFrom none bytes)

def encode (s : String) : List UInt8 := s.toList.flatMap String.utf8EncodeChar

end CacheKeys.Text.Utf8
