import DartModels.Text.Quoted

/-
Decoding of UTF-8 with the place and the cause of the first fault.
-/

namespace DartModels.Text.Utf8

/-- What the bytes of one character still lack: how many, and the limits of the next one. -/
structure Pending where
  owed : Nat
  low : Nat
  high : Nat
  code : Nat

/-- The first byte fixes the length and excludes overlong and surrogate forms. -/
def lead? (byte : Nat) : Option Pending :=
  if byte < 0x80 then some ⟨0, 0x80, 0xBF, byte⟩
  else if byte < 0xC2 then none
  else if byte < 0xE0 then some ⟨1, 0x80, 0xBF, byte - 0xC0⟩
  else if byte = 0xE0 then some ⟨2, 0xA0, 0xBF, 0⟩
  else if byte = 0xED then some ⟨2, 0x80, 0x9F, 0xD⟩
  else if byte < 0xF0 then some ⟨2, 0x80, 0xBF, byte - 0xE0⟩
  else if byte = 0xF0 then some ⟨3, 0x90, 0xBF, 0⟩
  else if byte < 0xF4 then some ⟨3, 0x80, 0xBF, byte - 0xF0⟩
  else if byte = 0xF4 then some ⟨3, 0x80, 0x8F, 4⟩
  else none

inductive Cause where
  | invalidStart
  | invalidContinuation
  | unexpectedEnd
  deriving DecidableEq, Repr

def Cause.message : Cause → String
  | .invalidStart => "invalid start byte"
  | .invalidContinuation => "invalid continuation byte"
  | .unexpectedEnd => "unexpected end of data"

/-- A fault spans the bytes of the character that cannot be completed. -/
structure Fault where
  cause : Cause
  position : Nat
  bytes : List Nat
  deriving DecidableEq, Repr

/-- One byte is named by its value, several by their first and last position. -/
def Fault.message (fault : Fault) : String :=
  let place := match fault.bytes with
    | [byte] =>
        "byte 0x" ++ String.ofList (hexDigits 2 byte) ++ " in position " ++ toString fault.position
    | bytes =>
        "bytes in position " ++ toString fault.position ++ "-" ++
          toString (fault.position + bytes.length - 1)
  "'utf-8' codec can't decode " ++ place ++ ": " ++ fault.cause.message

/-- Decodes from a state within a character; `seen` holds its bytes, the last one first. -/
def decodeFrom (position : Nat) (seen : List Nat) (pending : Pending) :
    List Nat → Except Fault (List Char)
  | [] =>
      if seen.isEmpty then .ok [] else .error ⟨.unexpectedEnd, position, seen.reverse⟩
  | byte :: rest =>
      if seen.isEmpty then
        match lead? byte with
        | none => .error ⟨.invalidStart, position, [byte]⟩
        | some next =>
            if next.owed = 0 then
              (decodeFrom (position + 1) [] next rest).map (Char.ofNat next.code :: ·)
            else decodeFrom position [byte] next rest
      else if byte < pending.low || pending.high < byte then
        .error ⟨.invalidContinuation, position, seen.reverse⟩
      else
        let code := 64 * pending.code + (byte - 0x80)
        let next : Pending := ⟨pending.owed - 1, 0x80, 0xBF, code⟩
        if next.owed = 0 then
          (decodeFrom (position + seen.length + 1) [] next rest).map (Char.ofNat code :: ·)
        else decodeFrom position (byte :: seen) next rest

def decode (bytes : List Nat) : Except Fault String :=
  (decodeFrom 0 [] ⟨0, 0x80, 0xBF, 0⟩ bytes).map String.ofList

end DartModels.Text.Utf8
