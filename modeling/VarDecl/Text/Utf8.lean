import VarDecl.Text.Basic

/-!
# UTF-8

Strict decoding, byte by byte.

* A lead byte says how many continuation bytes follow and in which range the first of them lies, so
  that overlong forms, surrogates and values beyond U+10FFFF are refused;
* a `DecodeError` names the bad run: the lead byte and the continuation bytes that were right, with
  the place where it starts and the reason.
-/

namespace VarDecl.Text.Utf8

/-- Why bytes are no text. -/
inductive Reason
  | invalidStart
  | invalidContinuation
  | unexpectedEnd
  deriving DecidableEq

/-- The wording of a reason. -/
def Reason.message : Reason → Text
  | invalidStart => "invalid start byte".toList
  | invalidContinuation => "invalid continuation byte".toList
  | unexpectedEnd => "unexpected end of data".toList

/-- A run of bad bytes. -/
structure DecodeError where
  position : Nat
  lead : UInt8
  length : Nat
  reason : Reason
  deriving DecidableEq

/-- The wording of an error; a single byte is shown. -/
def DecodeError.message (e : DecodeError) : Text :=
  let run :=
    if e.length = 1 then
      "byte 0x".toList ++ [Nat.digitChar (e.lead.toNat / 16), Nat.digitChar (e.lead.toNat % 16)]
        ++ " in position ".toList ++ ofNat e.position
    else
      "bytes in position ".toList ++ ofNat e.position ++ ['-'] ++ ofNat (e.position + e.length - 1)
  "'utf-8' codec can't decode ".toList ++ run ++ ": ".toList ++ e.reason.message

/-- A character that is not complete: what was read of it, how many bytes are missing, the range of
the next one, and the value so far. -/
structure Partial where
  position : Nat
  lead : UInt8
  length : Nat
  missing : Nat
  low : Nat
  high : Nat
  value : Nat

/-- What a lead byte starts. -/
def start? (position : Nat) (b : UInt8) : Option Partial :=
  let n := b.toNat
  let part := fun missing low high base => some ⟨position, b, 1, missing, low, high, n - base⟩
  if 0xC2 ≤ n ∧ n ≤ 0xDF then part 1 0x80 0xBF 0xC0
  else if n = 0xE0 then part 2 0xA0 0xBF 0xE0
  else if n = 0xED then part 2 0x80 0x9F 0xE0
  else if 0xE1 ≤ n ∧ n ≤ 0xEF then part 2 0x80 0xBF 0xE0
  else if n = 0xF0 then part 3 0x90 0xBF 0xF0
  else if n = 0xF4 then part 3 0x80 0x8F 0xF0
  else if 0xF1 ≤ n ∧ n ≤ 0xF3 then part 3 0x80 0xBF 0xF0
  else none

/-- The error of a character that goes wrong. -/
def Partial.error (p : Partial) (reason : Reason) : DecodeError :=
  ⟨p.position, p.lead, p.length, reason⟩

/-- A character with one more byte. -/
def Partial.step (p : Partial) (b : UInt8) : Partial :=
  { p with
    length := p.length + 1, missing := p.missing - 1, low := 0x80, high := 0xBF
    value := p.value * 64 + (b.toNat - 0x80) }

/-- Decode from a position on, inside a character or not. -/
def decodeFrom (position : Nat) : Option Partial → List UInt8 → Except DecodeError Text
  | none, [] => .ok []
  | some p, [] => .error (p.error .unexpectedEnd)
  | none, b :: r =>
    if b.toNat < 0x80 then
      (decodeFrom (position + 1) none r).map (Char.ofNat b.toNat :: ·)
    else
      match start? position b with
      | some p => decodeFrom (position + 1) (some p) r
      | none => .error ⟨position, b, 1, .invalidStart⟩
  | some p, b :: r =>
    if p.low ≤ b.toNat ∧ b.toNat ≤ p.high then
      if p.missing = 1 then
        (decodeFrom (position + 1) none r).map (Char.ofNat (p.step b).value :: ·)
      else decodeFrom (position + 1) (some (p.step b)) r
    else .error (p.error .invalidContinuation)

/-- Decode a text. -/
def decode (bytes : List UInt8) : Except DecodeError Text := decodeFrom 0 none bytes

/-- The bytes of a text. -/
def encode (t : Text) : List UInt8 := (String.ofList t).toUTF8.toList

end VarDecl.Text.Utf8
