/-!
Texts as bytes, and bytes as texts. `decode` names the first place where bytes are not text,
`decodeLossy` puts a replacement character there and goes on. Both take one step at a time: the
longest beginning of a character that the bytes still allow is one fault.
-/

namespace ConnectorSchema.Text

/-- The bytes of characters one after another. -/
def utf8 (cs : List Char) : List UInt8 := cs.flatMap String.utf8EncodeChar

def bytesOf (s : String) : List UInt8 := utf8 s.toList

theorem utf8_cons (c : Char) (cs : List Char) :
    utf8 (c :: cs) = String.utf8EncodeChar c ++ utf8 cs := List.flatMap_cons

theorem utf8_append (a b : List Char) : utf8 (a ++ b) = utf8 a ++ utf8 b := List.flatMap_append

theorem utf8_injective {a b : List Char} (same : utf8 a = utf8 b) : a = b := by
  have bytes : (String.ofList a).toByteArray = (String.ofList b).toByteArray := by
    rw [String.toByteArray_ofList, String.toByteArray_ofList]
    exact congrArg List.toByteArray same
  exact String.ofList_injective (String.toByteArray_inj.mp bytes)

namespace Utf8

/-- What the front of a byte list is. -/
inductive Front where
  | char (c : Char) (width : Nat)
  /-- The first `width` bytes begin no character together with the byte after them. -/
  | broken (width : Nat)
  /-- The bytes end within a character. -/
  | cut

def isContinuation (b : UInt8) : Bool := 0x80 ≤ b && b ≤ 0xBF

/-- Whether `b` may follow the leading byte of a character of three or four bytes. Long forms,
surrogates and numbers beyond the last character are left out. -/
def mayFollow (lead b : UInt8) : Bool :=
  if lead == 0xE0 then 0xA0 ≤ b && b ≤ 0xBF
  else if lead == 0xED then 0x80 ≤ b && b ≤ 0x9F
  else if lead == 0xF0 then 0x90 ≤ b && b ≤ 0xBF
  else if lead == 0xF4 then 0x80 ≤ b && b ≤ 0x8F
  else isContinuation b

def bits (b : UInt8) (mask : Nat) : Nat := b.toNat % mask

/-- The front of `lead :: rest`. -/
def front (lead : UInt8) (rest : List UInt8) : Front :=
  if lead < 0x80 then .char (Char.ofNat lead.toNat) 1
  else if lead < 0xC2 then .broken 1
  else if lead < 0xE0 then
    match rest with
    | [] => .cut
    | b :: _ =>
      if isContinuation b then .char (Char.ofNat (bits lead 32 * 64 + bits b 64)) 2 else .broken 1
  else if lead < 0xF0 then
    match rest with
    | [] => .cut
    | b :: rest =>
      if mayFollow lead b then
        match rest with
        | [] => .cut
        | c :: _ =>
          if isContinuation c then
            .char (Char.ofNat ((bits lead 16 * 64 + bits b 64) * 64 + bits c 64)) 3
          else .broken 2
      else .broken 1
  else if lead < 0xF5 then
    match rest with
    | [] => .cut
    | b :: rest =>
      if mayFollow lead b then
        match rest with
        | [] => .cut
        | c :: rest =>
          if isContinuation c then
            match rest with
            | [] => .cut
            | d :: _ =>
              if isContinuation d then
                .char (Char.ofNat (((bits lead 8 * 64 + bits b 64) * 64 + bits c 64) * 64 + bits d 64)) 4
              else .broken 3
          else .broken 2
      else .broken 1
  else .broken 1

/-- Where bytes stop being text. -/
inductive Fault where
  | invalid (width index : Nat)
  | incomplete (index : Nat)
deriving DecidableEq, Repr

def Fault.message : Fault → String
  | .invalid width index =>
    "invalid utf-8 sequence of " ++ toString width ++ " bytes from index " ++ toString index
  | .incomplete index => "incomplete utf-8 byte sequence from index " ++ toString index

/-- The text of `bytes`, whose first byte has the number `index`, after the characters of `done`,
which are in reverse. -/
def decodeFrom (index : Nat) (done : List Char) : List UInt8 → Nat → Except Fault (List Char)
  | [], _ => .ok done.reverse
  | _ :: rest, skip + 1 => decodeFrom (index + 1) done rest skip
  | lead :: rest, 0 =>
    match front lead rest with
    | .char c width => decodeFrom (index + 1) (c :: done) rest (width - 1)
    | .broken width => .error (.invalid width index)
    | .cut => .error (.incomplete index)

def decode (bytes : List UInt8) : Except Fault String :=
  (decodeFrom 0 [] bytes 0).map String.ofList

def decodeLossyFrom (done : List Char) : List UInt8 → Nat → List Char
  | [], _ => done.reverse
  | _ :: rest, skip + 1 => decodeLossyFrom done rest skip
  | lead :: rest, 0 =>
    match front lead rest with
    | .char c width => decodeLossyFrom (c :: done) rest (width - 1)
    | .broken width => decodeLossyFrom ('\uFFFD' :: done) rest (width - 1)
    | .cut => ('\uFFFD' :: done).reverse

/-- The text of the bytes, with a replacement character for each fault. -/
def decodeLossy (bytes : List UInt8) : String := String.ofList (decodeLossyFrom [] bytes 0)

end Utf8

end ConnectorSchema.Text
