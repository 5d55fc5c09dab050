import ScriptDocs.Text.Numeral

namespace ScriptDocs.Utf8

/-!
UTF-8: text as bytes. Decoding stops at the first sequence that no character has and says where it
stands, how many bytes it takes up, and what is wrong with it.
-/

/-- What is wrong with a sequence of bytes. -/
inductive Reason where
  | invalidStart
  | invalidContinuation
  | unexpectedEnd
  deriving DecidableEq, Repr

def Reason.message : Reason → Text
  | .invalidStart => "invalid start byte".toList
  | .invalidContinuation => "invalid continuation byte".toList
  | .unexpectedEnd => "unexpected end of data".toList

/-- A sequence that encodes no character: its position, its first byte and its length. -/
structure Fault where
  position : Nat
  byte : UInt8
  length : Nat
  reason : Reason
  deriving DecidableEq, Repr

/-- The wording of a fault; one byte is shown, several are only located. -/
def Fault.message (fault : Fault) : Text :=
  let place :=
    if fault.length == 1 then
      "byte 0x".toList ++ Text.hexFixed 2 fault.byte.toNat ++ " in position ".toList ++
        Text.ofNat fault.position
    else
      "bytes in position ".toList ++ Text.ofNat fault.position ++ "-".toList ++
        Text.ofNat (fault.position + fault.length - 1)
  "'utf-8' codec can't decode ".toList ++ place ++ ": ".toList ++ fault.reason.message

/-- Whether a byte may follow the first byte of a sequence. -/
def isContinuation (byte : UInt8) : Bool :=
  0x80 ≤ byte && byte < 0xC0

/-- Whether `second` may follow `first`: no sequence is longer than needed, stands for a surrogate
or passes the last code point. -/
def secondFits (first second : UInt8) : Bool :=
  isContinuation second &&
    (if first == 0xE0 then 0xA0 ≤ second
     else if first == 0xED then second < 0xA0
     else if first == 0xF0 then 0x90 ≤ second
     else if first == 0xF4 then second < 0x90
     else true)

/-- The six bits a continuation byte carries. -/
def payload (byte : UInt8) : Nat :=
  byte.toNat % 64

/-- The text that bytes encode, the first of them standing at `position`. -/
def decodeFrom (position : Nat) : List UInt8 → Except Fault Text
  | [] => .ok []
  | first :: rest =>
      let fault (length : Nat) (reason : Reason) : Except Fault Text :=
        .error ⟨position, first, length, reason⟩
      if first < 0x80 then
        (decodeFrom (position + 1) rest).map (Char.ofNat first.toNat :: ·)
      else if first < 0xC2 then
        fault 1 .invalidStart
      else if first < 0xE0 then
        match rest with
        | [] => fault 1 .unexpectedEnd
        | second :: rest =>
            if isContinuation second then
              (decodeFrom (position + 2) rest).map
                (Char.ofNat (first.toNat % 32 * 64 + payload second) :: ·)
            else
              fault 1 .invalidContinuation
      else if first < 0xF0 then
        match rest with
        | [] => fault 1 .unexpectedEnd
        | [second] => if secondFits first second then fault 2 .unexpectedEnd else fault 1 .invalidContinuation
        | second :: third :: rest =>
            if !secondFits first second then fault 1 .invalidContinuation
            else if !isContinuation third then fault 2 .invalidContinuation
            else
              (decodeFrom (position + 3) rest).map
                (Char.ofNat ((first.toNat % 16 * 64 + payload second) * 64 + payload third) :: ·)
      else if first < 0xF5 then
        match rest with
        | [] => fault 1 .unexpectedEnd
        | [second] => if secondFits first second then fault 2 .unexpectedEnd else fault 1 .invalidContinuation
        | [second, third] =>
            if !secondFits first second then fault 1 .invalidContinuation
            else if isContinuation third then fault 3 .unexpectedEnd
            else fault 2 .invalidContinuation
        | second :: third :: fourth :: rest =>
            if !secondFits first second then fault 1 .invalidContinuation
            else if !isContinuation third then fault 2 .invalidContinuation
            else if !isContinuation fourth then fault 3 .invalidContinuation
            else
              (decodeFrom (position + 4) rest).map
                (Char.ofNat
                  (((first.toNat % 8 * 64 + payload second) * 64 + payload third) * 64 +
                    payload fourth) :: ·)
      else
        fault 1 .invalidStart

def decode (bytes : List UInt8) : Except Fault Text :=
  decodeFrom 0 bytes

def encode (text : Text) : List UInt8 :=
  text.flatMap String.utf8EncodeChar

end ScriptDocs.Utf8
