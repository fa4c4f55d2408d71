import Replay.Dict
import Replay.Number.Shortest

namespace Replay.Json

/-- A whole number that fits 64 bits, signed or not, or else a floating point number. -/
inductive Number
  | integer (value : Int)
  | double (value : Binary64)
  deriving DecidableEq, Repr

def Number.toBinary64 : Number → Binary64
  | .integer value => .ofInt value
  | .double value => value

inductive Value
  | null
  | bool (value : Bool)
  | number (value : Number)
  | text (value : String)
  | list (items : List Value)
  | object (fields : List (String × Value))
  deriving Repr, Inhabited

mutual

def Value.same : Value → Value → Bool
  | .null, .null => true
  | .bool value, .bool value' => value == value'
  | .number value, .number value' => value == value'
  | .text value, .text value' => value == value'
  | .list items, .list items' => sameItems items items'
  | .object fields, .object fields' => sameFields fields fields'
  | _, _ => false

def sameItems : List Value → List Value → Bool
  | [], [] => true
  | item :: rest, item' :: rest' => item.same item' && sameItems rest rest'
  | _, _ => false

def sameFields : List (String × Value) → List (String × Value) → Bool
  | [], [] => true
  | (key, value) :: rest, (key', value') :: rest' =>
    key == key' && value.same value' && sameFields rest rest'
  | _, _ => false

end

mutual

theorem Value.same_iff : (value other : Value) → (value.same other = true ↔ value = other)
  | .null, other => by cases other <;> simp [Value.same]
  | .bool _, other => by cases other <;> simp [Value.same]
  | .number _, other => by cases other <;> simp [Value.same]
  | .text _, other => by cases other <;> simp [Value.same]
  | .list items, other => by cases other <;> simp [Value.same, sameItems_iff items]
  | .object fields, other => by cases other <;> simp [Value.same, sameFields_iff fields]

theorem sameItems_iff : (items others : List Value) →
    (sameItems items others = true ↔ items = others)
  | [], others => by cases others <;> simp [sameItems]
  | item :: rest, others => by
    cases others <;> simp [sameItems, Value.same_iff item, sameItems_iff rest]

theorem sameFields_iff : (fields others : List (String × Value)) →
    (sameFields fields others = true ↔ fields = others)
  | [], others => by cases others <;> simp [sameFields]
  | (key, value) :: rest, others => by
    cases others <;>
      simp [sameFields, Value.same_iff value, sameFields_iff rest, Prod.ext_iff]

end

instance : DecidableEq Value := fun value other => decidable_of_iff _ (Value.same_iff value other)

namespace Value

def field? (key : String) : Value → Option Value
  | .object fields => Entries.lookup key fields
  | _ => none

def text? : Value → Option String
  | .text value => some value
  | _ => none

def list? : Value → Option (List Value)
  | .list items => some items
  | _ => none

def nat (n : Nat) : Value := .number (.integer n)

end Value

def hexDigits (width n : Nat) : List Char :=
  let digits := Nat.toDigits 16 n
  List.replicate (width - digits.length) '0' ++ digits

/-- Quotes, backslashes and control characters are escaped; all else stands for itself. -/
def escapeChar (c : Char) : List Char :=
  if c = '"' then ['\\', '"']
  else if c = '\\' then ['\\', '\\']
  else if c = '\n' then ['\\', 'n']
  else if c = '\r' then ['\\', 'r']
  else if c = '\t' then ['\\', 't']
  else if c.toNat = 0x08 then ['\\', 'b']
  else if c.toNat = 0x0C then ['\\', 'f']
  else if c.toNat < 0x20 then '\\' :: 'u' :: hexDigits 4 c.toNat
  else [c]

def quoteText (text : String) : List Char := '"' :: text.toList.flatMap escapeChar ++ ['"']

/-- Positions are written out from `10 ^ -5` to below `10 ^ 16`, always with a point; beyond that an
exponent is used. Of two equally near decimals it is the one whose last digit is even. -/
def binary64Text : Binary64 → List Char
  | .finite negative mantissa exponent =>
    let decimal := Decimal.shortest .even mantissa exponent
    let point := decimal.significant.2
    let body :=
      if -5 < point ∧ point ≤ 16 then
        let digits := decimal.positional
        if digits.contains '.' then digits else digits ++ ['.', '0']
      else decimal.scientific
    (if negative then ['-'] else []) ++ body
  | _ => ['n', 'u', 'l', 'l']

def Number.text : Number → List Char
  | .integer value => (toString value).toList
  | .double value => binary64Text value

def commaSeparated : List (List Char) → List Char
  | [] => []
  | [text] => text
  | text :: rest => text ++ ',' :: commaSeparated rest

mutual

def Value.chars : Value → List Char
  | .null => ['n', 'u', 'l', 'l']
  | .bool true => ['t', 'r', 'u', 'e']
  | .bool false => ['f', 'a', 'l', 's', 'e']
  | .number value => value.text
  | .text value => quoteText value
  | .list items => '[' :: commaSeparated (itemTexts items) ++ [']']
  | .object fields => '{' :: commaSeparated (fieldTexts fields) ++ ['}']

def itemTexts : List Value → List (List Char)
  | [] => []
  | item :: rest => item.chars :: itemTexts rest

def fieldTexts : List (String × Value) → List (List Char)
  | [] => []
  | (key, value) :: rest => (quoteText key ++ ':' :: value.chars) :: fieldTexts rest

end

def Value.compact (value : Value) : String := String.ofList value.chars

def lineBreak (depth : Nat) : List Char := '\n' :: List.replicate (2 * depth) ' '

def spread (opening closing : Char) (depth : Nat) : List (List Char) → List Char
  | [] => [opening, closing]
  | text :: rest =>
    opening :: lineBreak (depth + 1) ++ text ++
      rest.flatMap (fun text => ',' :: lineBreak (depth + 1) ++ text) ++
      lineBreak depth ++ [closing]

mutual

def Value.prettyChars (depth : Nat) : Value → List Char
  | .list items => spread '[' ']' depth (prettyItems (depth + 1) items)
  | .object fields => spread '{' '}' depth (prettyFields (depth + 1) fields)
  | value => value.chars

def prettyItems (depth : Nat) : List Value → List (List Char)
  | [] => []
  | item :: rest => item.prettyChars depth :: prettyItems depth rest

def prettyFields (depth : Nat) : List (String × Value) → List (List Char)
  | [] => []
  | (key, value) :: rest =>
    (quoteText key ++ ':' :: ' ' :: value.prettyChars depth) :: prettyFields depth rest

end

def Value.pretty (value : Value) : String := String.ofList (value.prettyChars 0)

end Replay.Json
