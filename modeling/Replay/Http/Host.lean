import Replay.Domain
import Replay.Http.Percent

/-!
Hosts in their normal form: names in lower case, and the addresses of four bytes and of eight groups,
which have many spellings each, in one of them.
-/

namespace Replay.Http.Host

open Text

/-! Addresses of four bytes -/

/-- A part of an address: hexadecimal after `0x`, octal after another leading zero, else decimal. -/
def addressPart? : List Char → Option Nat
  | [] => none
  | '0' :: 'x' :: digits => Numeral.readInBase? 16 digits
  | '0' :: c :: digits => Numeral.readInBase? 8 (c :: digits)
  | digits => Numeral.readInBase? 10 digits

/-- The parts of a host between its points. A point at the end adds none. -/
def labels (host : List Char) : List (List Char) :=
  let parts := pieces (· == '.') host
  if 1 < parts.length ∧ parts.getLast? = some [] then parts.dropLast else parts

def endsInNumber (host : List Char) : Bool :=
  let last := (labels host).getLastD []
  (Numeral.readDigits? last).isSome || (addressPart? last).isSome

/-- The number that the parts of an address make. Each part is a byte; the last one fills what is left
of the four. -/
def address? (parts : List (List Char)) : Option Nat :=
  (parts.mapM addressPart?).bind fun numbers =>
    let bytes := numbers.dropLast
    let last := numbers.getLastD 0
    let room := twoTo (8 * (4 - bytes.length))
    if 3 < bytes.length || bytes.any (255 < ·) || room ≤ last then none
    else some (bytes.foldl (· * 256 + ·) 0 * room + last)

def addressText (address : Nat) : List Char :=
  List.intercalate ['.'] ([24, 16, 8, 0].map fun shift =>
    Nat.toDigits 10 (address / twoTo shift % 256))

/-! Addresses of eight groups -/

def group? (text : List Char) : Option Nat :=
  if text = [] ∨ 4 < text.length then none else Numeral.readInBase? 16 text

def byteGroups? (text : List Char) : Option (List Nat) :=
  let parts := pieces (· == '.') text
  let plain (part : List Char) : Bool :=
    part.all Char.isDigit && (part.head? != some '0' || part.length == 1)
  if parts.length = 4 ∧ parts.all plain then
    (address? parts).map fun address => [address / twoTo 16, address % twoTo 16]
  else none

/-- Groups between colons, the last two of which may be written as bytes. -/
def groups? (text : List Char) : Option (List Nat) :=
  if text = [] then some []
  else
    let parts := pieces (· == ':') text
    (parts.dropLast.mapM group?).bind fun front =>
      let last := parts.getLastD []
      if last.contains '.' then (byteGroups? last).map (front ++ ·)
      else (group? last).map fun group => front ++ [group]

def cutAtGap : List Char → Option (List Char × List Char)
  | ':' :: ':' :: rest => some ([], rest)
  | c :: rest => (cutAtGap rest).map fun parts => (c :: parts.1, parts.2)
  | [] => none

/-- The eight groups of an address. A double colon stands for one or more groups of zero. -/
def eightGroups? (text : List Char) : Option (List Nat) :=
  match cutAtGap text with
  | none => (groups? text).filter (·.length = 8)
  | some (front, back) =>
    if front.contains '.' then none
    else
      (groups? front).bind fun front => (groups? back).bind fun back =>
        if front.length + back.length < 8 then
          some (front ++ List.replicate (8 - front.length - back.length) 0 ++ back)
        else none

/-- The place and the length of the longest run of zeros, the first one of several. The groups begin
at the given place. -/
def longestRun (place : Nat) : List Nat → Nat × Nat
  | [] => (place, 0)
  | group :: rest =>
    let here := ((group :: rest).takeWhile (· == 0)).length
    let later := longestRun (place + 1) rest
    if later.2 ≤ here then (place, here) else later

def groupsText (groups : List Nat) : List Char :=
  List.intercalate [':'] (groups.map (Nat.toDigits 16))

def eightGroupsText (groups : List Nat) : List Char :=
  let (place, length) := longestRun 0 groups
  if length < 2 then groupsText groups
  else groupsText (groups.take place) ++ [':', ':'] ++ groupsText (groups.drop (place + length))

/-! Hosts -/

def marks : List Char :=
  [Char.ofNat 0, ' ', '#', '/', ':', '<', '>', '?', '@', '[', '\\', ']', '^', '|']

def isForbidden (c : Char) : Bool :=
  c.toNat ≤ 0x20 || c.toNat == 0x7F || c == '%' || marks.contains c

def normalAscii? (host : List Char) : Option (List Char) :=
  if host = [] ∨ host.any isForbidden then none
  else if endsInNumber host then (address? (labels host)).map addressText
  else some host

def normalName? (host : List Char) : Option (List Char) :=
  ((Percent.decode? host).bind Domain.ascii?).bind normalAscii?

def normalOpaque? (host : List Char) : Option (List Char) :=
  if host.any marks.contains then none else some (Percent.encode [] host)

def normal? (normalName? : List Char → Option (List Char)) : List Char → Option (List Char)
  | '[' :: rest =>
    if rest.getLast? = some ']' then
      (eightGroups? rest.dropLast).map fun groups => '[' :: eightGroupsText groups ++ [']']
    else none
  | host => normalName? host

end Replay.Http.Host
