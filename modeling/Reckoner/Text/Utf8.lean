import Reckoner.Text.Quoted

/-!
# Strict UTF-8

Reading bytes as characters. Overlong forms, surrogates and code points above the last one are
refused; a refusal names the place and what is wrong there, and covers the longest run of bytes that
could have begun a character.

A line may end with a line feed, a carriage return or both in this order. A text is read with a line
feed for each of them: what is read has no carriage return, and a text without one is read as it is.
-/

namespace Reckoner.Text

/-- What is wrong with a byte that no character can hold. -/
inductive Utf8Fault where
  | start
  /-- A byte inside a character is not of the form that must follow. -/
  | continuation
  | truncated
deriving DecidableEq, Repr

/-- The first `length` bytes at `position` that cannot be read. -/
structure Utf8Error where
  position : Nat
  length : Nat
  byte : Nat
  fault : Utf8Fault
deriving DecidableEq, Repr

/-- What is wrong, in words. -/
def Utf8Fault.message : Utf8Fault → String
  | .start => "invalid start byte"
  | .continuation => "invalid continuation byte"
  | .truncated => "unexpected end of data"

/-- One byte is shown with its value, several by their places only. -/
def Utf8Error.message (e : Utf8Error) : String :=
  let place :=
    if e.length = 1 then
      "byte 0x" ++ String.ofList (hexDigits 2 e.byte) ++ " in position " ++
        String.ofList (Numeral.digits e.position)
    else
      "bytes in position " ++ String.ofList (Numeral.digits e.position) ++ "-" ++
        String.ofList (Numeral.digits (e.position + e.length - 1))
  "'utf-8' codec can't decode " ++ place ++ ": " ++ e.fault.message

/-- What a first byte promises: the payload it carries and the bounds of each byte after it. Only
the second byte is ever bounded more tightly than `0x80` to `0xBF`. -/
def lead? (b : Nat) : Option (Nat × List (Nat × Nat)) :=
  let tail := (0x80, 0xBF)
  if b < 0x80 then some (b, [])
  else if b < 0xC2 then none
  else if b < 0xE0 then some (b - 0xC0, [tail])
  else if b = 0xE0 then some (0, [(0xA0, 0xBF), tail])
  else if b = 0xED then some (0xD, [(0x80, 0x9F), tail])
  else if b < 0xF0 then some (b - 0xE0, [tail, tail])
  else if b = 0xF0 then some (0, [(0x90, 0xBF), tail, tail])
  else if b < 0xF4 then some (b - 0xF0, [tail, tail, tail])
  else if b = 0xF4 then some (4, [(0x80, 0x8F), tail, tail])
  else none

/-- A character that has begun: where, with which byte, the payload so far, how many bytes are
read and the bounds of those still due. -/
structure Utf8Pending where
  position : Nat
  byte : Nat
  payload : Nat
  read : Nat
  due : List (Nat × Nat)

/-- Where reading stands: the characters read, last first, and the one that has begun, if any. -/
structure Utf8State where
  done : List Char := []
  pending : Option Utf8Pending := none

/-- Reads the byte at a position. -/
def Utf8State.step (state : Utf8State) (position b : Nat) : Except Utf8Error Utf8State :=
  match state.pending with
  | none =>
    match lead? b with
    | none => .error ⟨position, 1, b, .start⟩
    | some (payload, []) => .ok { done := Char.ofNat payload :: state.done }
    | some (payload, due) =>
      .ok { state with pending := some ⟨position, b, payload, 1, due⟩ }
  | some p =>
    match p.due with
    | [] => .ok state
    | (low, high) :: due =>
      if low ≤ b && b ≤ high then
        let payload := 64 * p.payload + (b - 0x80)
        if due.isEmpty then .ok { done := Char.ofNat payload :: state.done }
        else .ok { state with pending := some { p with payload, read := p.read + 1, due } }
      else .error ⟨p.position, p.read, p.byte, .continuation⟩

/-- Reads bytes in order, the first of them at a position. -/
def Utf8State.run (state : Utf8State) (position : Nat) : List UInt8 → Except Utf8Error (List Char)
  | [] =>
    match state.pending with
    | none => .ok state.done.reverse
    | some p => .error ⟨p.position, p.read, p.byte, .truncated⟩
  | b :: bs =>
    match state.step position b.toNat with
    | .error e => .error e
    | .ok state => state.run (position + 1) bs

/-- The characters that bytes encode. -/
def decodeUtf8 (bytes : List UInt8) : Except Utf8Error (List Char) := Utf8State.run {} 0 bytes

/-! ## Line ends -/

/-- Puts a line feed for each line end. -/
def unifyLineEnds : List Char → List Char
  | [] => []
  | '\r' :: '\n' :: cs => '\n' :: unifyLineEnds cs
  | '\r' :: cs => '\n' :: unifyLineEnds cs
  | c :: cs => c :: unifyLineEnds cs

/-- No carriage return is left. -/
theorem return_notMem_unifyLineEnds (cs : List Char) : '\r' ∉ unifyLineEnds cs := by
  fun_induction unifyLineEnds cs with
  | case1 => simp
  | case2 cs ih => simpa using ih
  | case3 cs _ ih => simpa using ih
  | case4 c cs _ hc ih => simpa [ih] using fun h => hc h.symm

/-- A text without carriage returns stays as it is. -/
theorem unifyLineEnds_eq_self {cs : List Char} (h : '\r' ∉ cs) : unifyLineEnds cs = cs := by
  fun_induction unifyLineEnds cs with
  | case1 => rfl
  | case2 cs ih => simp at h
  | case3 cs _ ih => simp at h
  | case4 c cs _ _ ih => rw [ih fun hmem => h (.tail _ hmem)]

end Reckoner.Text
