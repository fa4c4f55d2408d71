import Replay.Number.Numeral
import Replay.Text.Utf8

namespace Replay.Http.Percent

def upperHex (n : Nat) : Char :=
  if n < 10 then Char.ofNat ('0'.toNat + n) else Char.ofNat ('A'.toNat + n - 10)

def encodeByte (byte : UInt8) : List Char :=
  ['%', upperHex (byte.toNat / 16), upperHex (byte.toNat % 16)]

def encodeChar (c : Char) : List Char := (String.singleton c).toUTF8.toList.flatMap encodeByte

def isUnprintable (c : Char) : Bool := c.toNat < 0x20 || 0x7E < c.toNat

def encode (set : List Char) (text : List Char) : List Char :=
  text.flatMap fun c => if isUnprintable c || set.contains c then encodeChar c else [c]

def byte? (high low : UInt8) : Option UInt8 := do
  let high ← Numeral.hexValue? (Char.ofNat high.toNat)
  let low ← Numeral.hexValue? (Char.ofNat low.toNat)
  return UInt8.ofNat (high * 16 + low)

/-- The bytes that are meant. A percent sign without two digits stands for itself. -/
def decodeBytes : List UInt8 → List UInt8
  | sign :: high :: low :: rest =>
    match if sign.toNat = 0x25 then byte? high low else none with
    | some byte => byte :: decodeBytes rest
    | none => sign :: decodeBytes (high :: low :: rest)
  | bytes => bytes

def decode? (text : List Char) : Option (List Char) :=
  (Text.decode (decodeBytes (String.ofList text).toUTF8.toList)).mapM id

end Replay.Http.Percent
