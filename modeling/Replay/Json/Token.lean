import Replay.Json.Value
import Replay.Number.Numeral

/-!
The tokens of a JSON text. Reading stops at the first place where no token can be read. A text or a
number may be well formed and still have no value; whether that matters is for the reader to say.
-/

namespace Replay.Json

inductive ReadError
  | eofValue
  | eofList
  | eofObject
  | eofText
  | expectedValue
  | expectedIdent
  | expectedListEnd
  | expectedObjectEnd
  | expectedColon
  | keyMustBeText
  | trailingComma
  | trailingCharacters
  | invalidNumber
  | numberOutOfRange
  | invalidEscape
  | endOfHexEscape
  | loneSurrogate
  | controlCharacter
  | invalidCodePoint
  | tooDeep
  deriving DecidableEq, Repr

def ReadError.message : ReadError → String
  | eofValue => "EOF while parsing a value"
  | eofList => "EOF while parsing a list"
  | eofObject => "EOF while parsing an object"
  | eofText => "EOF while parsing a string"
  | expectedValue => "expected value"
  | expectedIdent => "expected ident"
  | expectedListEnd => "expected `,` or `]`"
  | expectedObjectEnd => "expected `,` or `\x7d`"
  | expectedColon => "expected `:`"
  | keyMustBeText => "key must be a string"
  | trailingComma => "trailing comma"
  | trailingCharacters => "trailing characters"
  | invalidNumber => "invalid number"
  | numberOutOfRange => "number out of range"
  | invalidEscape => "invalid escape"
  | endOfHexEscape => "unexpected end of hex escape"
  | loneSurrogate => "lone leading surrogate in hex escape"
  | controlCharacter => "control character (\\u0000-\\u001F) found while parsing a string"
  | invalidCodePoint => "invalid unicode code point"
  | tooDeep => "recursion limit exceeded"

/-- A place where reading stops: the error for a reader that wants the value, and the error for one
that only skips it. -/
structure Fault where
  strict : ReadError
  lenient : ReadError
  deriving DecidableEq, Repr

def Fault.same (error : ReadError) : Fault := ⟨error, error⟩

/-- The characters of a text; `none` stands for a byte that is part of no character. -/
abbrev Source := List (Option Char)

inductive Token
  | openList
  | closeList
  | openObject
  | closeObject
  | comma
  | colon
  | null
  | bool (value : Bool)
  | number (value : Except ReadError Number)
  | text (value : Except ReadError String)
  /-- No token can be read. `quoted` tells whether a text began here. -/
  | broken (quoted : Bool) (fault : Fault)
  deriving Repr

/-! Numbers -/

structure NumberLiteral where
  negative : Bool
  whole : List Char
  fraction : Option (List Char)
  exponent : Option (Bool × List Char)
  deriving DecidableEq, Repr

def spanDigits : Source → List Char × Source
  | some c :: rest =>
    if c.isDigit then
      let (digits, rest) := spanDigits rest
      (c :: digits, rest)
    else ([], some c :: rest)
  | source => ([], source)

/-- The fault of a number that lacks a digit: a skipping reader does not tell the end of the text from
a wrong character. -/
def missingDigit (source : Source) : Fault :=
  ⟨if source = [] then .eofValue else .invalidNumber, .invalidNumber⟩

def scanExponent (source : Source) : Except Fault (Option (Bool × List Char) × Source) :=
  match source with
  | some c :: rest =>
    if c = 'e' ∨ c = 'E' then
      let (negative, rest) := match rest with
        | some '+' :: rest => (false, rest)
        | some '-' :: rest => (true, rest)
        | _ => (false, rest)
      match spanDigits rest with
      | ([], rest) => .error (missingDigit rest)
      | (digits, rest) => .ok (some (negative, digits), rest)
    else .ok (none, source)
  | _ => .ok (none, source)

def scanFraction (source : Source) : Except Fault (Option (List Char) × Source) :=
  match source with
  | some '.' :: rest =>
    match spanDigits rest with
    | ([], rest) => .error (missingDigit rest)
    | (digits, rest) => .ok (some digits, rest)
  | _ => .ok (none, source)

/-- A number after its sign. A zero is followed by no other digit. -/
def scanNumber (negative : Bool) (source : Source) : Except Fault (NumberLiteral × Source) :=
  match spanDigits source with
  | ([], rest) => .error (missingDigit rest)
  | ('0' :: _ :: _, _) => .error (.same .invalidNumber)
  | (whole, rest) =>
    match scanFraction rest with
    | .error fault => .error fault
    | .ok (fraction, rest) =>
      match scanExponent rest with
      | .error fault => .error fault
      | .ok (exponent, rest) => .ok (⟨negative, whole, fraction, exponent⟩, rest)

/-- Takes in digits as long as the number stays below `2 ^ 64`; gives the number and how many digits
were left out. -/
def takeDigits (value : Nat) : List Char → Nat × Nat
  | [] => (value, 0)
  | c :: rest =>
    let next := value * 10 + Numeral.digitValue c
    if next < twoTo 64 then takeDigits next rest else (value, rest.length + 1)

/-- The number times a power of ten, rounded at every step; `none` if it is too large. The powers at
hand reach from `10 ^ -308` to `10 ^ 308`. -/
def scaleByTen (x : Binary64) (exponent : Int) : Option Binary64 :=
  if exponent.natAbs ≤ 308 then
    let power := Binary64.ofNat (tenTo exponent.natAbs)
    match if 0 ≤ exponent then x.mul power else x.div power with
    | .finite negative mantissa exponent => some (.finite negative mantissa exponent)
    | _ => none
  else if x.isZero then some x
  else if 0 ≤ exponent then none
  else scaleByTen (x.div (Binary64.ofNat (tenTo 308))) (exponent + 308)
termination_by (-exponent).toNat
decreasing_by omega

namespace NumberLiteral

def signedDouble (literal : NumberLiteral) (x : Binary64) : Number :=
  .double (if literal.negative then x.negate else x)

/-- The floating point number that is made from the leading digits below `2 ^ 64` and a power of ten.
It need not be the nearest one to the literal. -/
def double? (literal : NumberLiteral) : Option Number :=
  let (value, omitted) := takeDigits 0 literal.whole
  let fraction := literal.fraction.getD []
  let (value, dropped) := takeDigits value fraction
  let shift : Int := match literal.exponent with
    | none => 0
    | some (negative, digits) =>
      let size : Int := Numeral.digitsValue 0 digits
      if negative then -size else size
  (scaleByTen (Binary64.ofNat value) (omitted - ((fraction.length : Int) - dropped) + shift)).map
    literal.signedDouble

/-- A whole number that fits 64 bits stays whole, with the exception of a negative zero. -/
def number (literal : NumberLiteral) : Except ReadError Number :=
  let value := Numeral.digitsValue 0 literal.whole
  if literal.fraction = none ∧ literal.exponent = none ∧ value < twoTo 64 then
    if !literal.negative then .ok (.integer value)
    else if 0 < value ∧ value ≤ twoTo 63 then .ok (.integer (-value))
    else .ok (literal.signedDouble (Binary64.ofNat value))
  else
    match literal.double? with
    | some number => .ok number
    | none => .error .numberOutOfRange

end NumberLiteral

/-! Texts -/

def byteCount : Source → Nat
  | [] => 0
  | some c :: rest => c.utf8Size + byteCount rest
  | none :: rest => 1 + byteCount rest

def hexUnit? : Option Char → Option Nat
  | some c => Numeral.hexValue? c
  | none => none

def scanHex : Source → Except ReadError (Nat × Source)
  | a :: b :: c :: d :: rest =>
    match hexUnit? a, hexUnit? b, hexUnit? c, hexUnit? d with
    | some a, some b, some c, some d => .ok (((a * 16 + b) * 16 + c) * 16 + d, rest)
    | _, _, _, _ => .error .invalidEscape
  | source => .error (if byteCount source < 4 then .eofText else .invalidEscape)

def scanLowHalf (high : Nat) : Source → Except ReadError (Char × Source)
  | [] => .error .eofText
  | [some '\\'] => .error .eofText
  | some '\\' :: some 'u' :: rest =>
    match scanHex rest with
    | .error error => .error error
    | .ok (low, rest) =>
      if 0xDC00 ≤ low ∧ low ≤ 0xDFFF then
        .ok (Char.ofNat ((high - 0xD800) * 0x400 + (low - 0xDC00) + 0x10000), rest)
      else .error .loneSurrogate
  | _ => .error .endOfHexEscape

/-- The escape after a backslash. Half a surrogate pair is well formed but no character. -/
def scanEscape : Source → Except ReadError (Except ReadError Char × Source)
  | [] => .error .eofText
  | some '"' :: rest => .ok (.ok '"', rest)
  | some '\\' :: rest => .ok (.ok '\\', rest)
  | some '/' :: rest => .ok (.ok '/', rest)
  | some 'b' :: rest => .ok (.ok (Char.ofNat 0x08), rest)
  | some 'f' :: rest => .ok (.ok (Char.ofNat 0x0C), rest)
  | some 'n' :: rest => .ok (.ok '\n', rest)
  | some 'r' :: rest => .ok (.ok '\r', rest)
  | some 't' :: rest => .ok (.ok '\t', rest)
  | some 'u' :: rest =>
    match scanHex rest with
    | .error error => .error error
    | .ok (code, rest) =>
      if 0xDC00 ≤ code ∧ code ≤ 0xDFFF then .ok (.error .loneSurrogate, rest)
      else if 0xD800 ≤ code ∧ code ≤ 0xDBFF then
        match scanLowHalf code rest with
        | .ok (c, rest) => .ok (.ok c, rest)
        | .error error => .ok (.error error, rest)
      else .ok (.ok (Char.ofNat code), rest)
  | _ => .error .invalidEscape

theorem length_of_scanHex {source rest : Source} {code : Nat}
    (scanned : scanHex source = .ok (code, rest)) : rest.length < source.length := by
  unfold scanHex at scanned
  split at scanned
  · split at scanned
    · obtain ⟨-, rfl⟩ := Prod.mk.inj (Except.ok.inj scanned)
      simp only [List.length_cons]
      omega
    · cases scanned
  · cases scanned

theorem length_of_scanLowHalf {high : Nat} {source rest : Source} {c : Char}
    (scanned : scanLowHalf high source = .ok (c, rest)) : rest.length < source.length := by
  unfold scanLowHalf at scanned
  split at scanned
  · cases scanned
  · cases scanned
  · split at scanned
    · cases scanned
    · next found =>
      have shorter := length_of_scanHex found
      split at scanned
      · obtain ⟨-, rfl⟩ := Prod.mk.inj (Except.ok.inj scanned)
        simp only [List.length_cons]
        omega
      · cases scanned
  · cases scanned

theorem length_of_scanEscape {source rest : Source} {c : Except ReadError Char}
    (scanned : scanEscape source = .ok (c, rest)) : rest.length < source.length := by
  unfold scanEscape at scanned
  split at scanned
  case h_1 => cases scanned
  case h_11 => cases scanned
  case h_10 =>
    split at scanned
    · cases scanned
    · next found =>
      have shorter := length_of_scanHex found
      split at scanned
      · obtain ⟨-, rfl⟩ := Prod.mk.inj (Except.ok.inj scanned)
        simp only [List.length_cons]
        omega
      · split at scanned
        · split at scanned
          · next half =>
            have shorter' := length_of_scanLowHalf half
            obtain ⟨-, rfl⟩ := Prod.mk.inj (Except.ok.inj scanned)
            simp only [List.length_cons]
            omega
          · obtain ⟨-, rfl⟩ := Prod.mk.inj (Except.ok.inj scanned)
            simp only [List.length_cons]
            omega
        · obtain ⟨-, rfl⟩ := Prod.mk.inj (Except.ok.inj scanned)
          simp only [List.length_cons]
          omega
  all_goals
    obtain ⟨-, rfl⟩ := Prod.mk.inj (Except.ok.inj scanned)
    simp

def assemble (reversed : List (Option Char)) : Except ReadError String :=
  if reversed.all Option.isSome then .ok (String.ofList (reversed.reverse.filterMap id))
  else .error .invalidCodePoint

/-- Adds a character, unless an earlier one was none. -/
def pushUnit (units : Except ReadError (List (Option Char))) (unit : Except ReadError (Option Char)) :
    Except ReadError (List (Option Char)) :=
  match units, unit with
  | .ok units, .ok unit => .ok (unit :: units)
  | .ok _, .error error => .error error
  | .error error, _ => .error error

def breakText (units : Except ReadError (List (Option Char))) (error : ReadError) : Token :=
  match units with
  | .ok _ => .broken true (.same error)
  | .error first => .broken true ⟨first, error⟩

def scanText (units : Except ReadError (List (Option Char))) : Source → Token × Source
  | [] => (breakText units .eofText, [])
  | none :: rest => scanText (pushUnit units (.ok none)) rest
  | some '"' :: rest =>
    (.text (match units with
      | .ok units => assemble units
      | .error error => .error error), rest)
  | some '\\' :: rest =>
    match _h : scanEscape rest with
    | .error error => (breakText units error, [])
    | .ok (unit, after) => scanText (pushUnit units (unit.map some)) after
  | some c :: rest =>
    if c.toNat < 0x20 then (breakText units .controlCharacter, [])
    else scanText (pushUnit units (.ok (some c))) rest
termination_by source => source.length
decreasing_by
  · simp
  · have := length_of_scanEscape _h
    simp only [List.length_cons]
    omega
  · simp

/-! Tokens -/

def isSpace (c : Char) : Bool := c == ' ' || c == '\n' || c == '\t' || c == '\r'

def scanWord (token : Token) : List Char → Source → Token × Source
  | [], rest => (token, rest)
  | _ :: _, [] => (.broken false (.same .eofValue), [])
  | c :: word, unit :: rest =>
    if unit = some c then scanWord token word rest
    else (.broken false (.same .expectedIdent), [])

def numberToken (negative : Bool) (source : Source) : Token × Source :=
  match scanNumber negative source with
  | .ok (literal, rest) => (.number literal.number, rest)
  | .error fault => (.broken false fault, [])

def scanToken (c : Char) (rest : Source) : Token × Source :=
  match c with
  | '[' => (.openList, rest)
  | ']' => (.closeList, rest)
  | '{' => (.openObject, rest)
  | '}' => (.closeObject, rest)
  | ',' => (.comma, rest)
  | ':' => (.colon, rest)
  | '"' => scanText (.ok []) rest
  | 'n' => scanWord .null ['u', 'l', 'l'] rest
  | 't' => scanWord (.bool true) ['r', 'u', 'e'] rest
  | 'f' => scanWord (.bool false) ['a', 'l', 's', 'e'] rest
  | '-' => numberToken true rest
  | c =>
    if c.isDigit then numberToken false (some c :: rest)
    else (.broken false (.same .expectedValue), [])

theorem length_spanDigits (source : Source) : (spanDigits source).2.length ≤ source.length := by
  induction source with
  | nil => simp [spanDigits]
  | cons unit rest ih =>
    cases unit with
    | none => simp [spanDigits]
    | some c =>
      by_cases digit : c.isDigit
      · simp only [spanDigits, digit, ↓reduceIte, List.length_cons]
        omega
      · simp [spanDigits, digit]

theorem length_spanDigits_lt {source rest : Source} {c : Char} {digits : List Char}
    (spanned : spanDigits source = (c :: digits, rest)) : rest.length < source.length := by
  cases source with
  | nil => simp [spanDigits] at spanned
  | cons unit tail =>
    cases unit with
    | none => simp [spanDigits] at spanned
    | some d =>
      by_cases digit : d.isDigit
      · simp only [spanDigits, digit, ↓reduceIte, Prod.mk.injEq] at spanned
        obtain ⟨-, rfl⟩ := spanned
        have := length_spanDigits tail
        simp only [List.length_cons]
        omega
      · simp [spanDigits, digit] at spanned

theorem length_of_scanFraction {source rest : Source} {fraction : Option (List Char)}
    (scanned : scanFraction source = .ok (fraction, rest)) : rest.length ≤ source.length := by
  unfold scanFraction at scanned
  split at scanned
  · next tail =>
    have := length_spanDigits tail
    split at scanned
    · cases scanned
    · next found =>
      obtain ⟨-, rfl⟩ := Prod.mk.inj (Except.ok.inj scanned)
      rw [found] at this
      simp only [List.length_cons] at this ⊢
      omega
  · obtain ⟨-, rfl⟩ := Prod.mk.inj (Except.ok.inj scanned)
    exact Nat.le_refl _

theorem length_of_scanExponent {source rest : Source} {exponent : Option (Bool × List Char)}
    (scanned : scanExponent source = .ok (exponent, rest)) : rest.length ≤ source.length := by
  unfold scanExponent at scanned
  split at scanned
  · next c tail =>
    split at scanned
    · have bound (r : Source) : (spanDigits r).2.length ≤ r.length := length_spanDigits r
      split at scanned
      next negative after signed =>
      have shorter : after.length ≤ tail.length := by
        split at signed
        all_goals
          obtain ⟨-, rfl⟩ := Prod.mk.inj signed
          simp
      split at scanned
      · cases scanned
      · next found =>
        obtain ⟨-, rfl⟩ := Prod.mk.inj (Except.ok.inj scanned)
        have := bound after
        rw [found] at this
        simp only [List.length_cons] at this ⊢
        omega
    · obtain ⟨-, rfl⟩ := Prod.mk.inj (Except.ok.inj scanned)
      exact Nat.le_refl _
  · obtain ⟨-, rfl⟩ := Prod.mk.inj (Except.ok.inj scanned)
    exact Nat.le_refl _

theorem length_of_scanNumber {negative : Bool} {source rest : Source} {literal : NumberLiteral}
    (scanned : scanNumber negative source = .ok (literal, rest)) : rest.length < source.length := by
  unfold scanNumber at scanned
  split at scanned
  · cases scanned
  · cases scanned
  · next whole after nonempty _ spanned =>
    obtain ⟨c, digits, rfl⟩ : ∃ c digits, whole = c :: digits := by
      cases whole with
      | nil => exact absurd rfl nonempty
      | cons c digits => exact ⟨c, digits, rfl⟩
    have shorter := length_spanDigits_lt spanned
    split at scanned
    · cases scanned
    · next fraction =>
      have := length_of_scanFraction fraction
      split at scanned
      · cases scanned
      · next exponent =>
        have := length_of_scanExponent exponent
        obtain ⟨-, rfl⟩ := Prod.mk.inj (Except.ok.inj scanned)
        omega

theorem length_numberToken (negative : Bool) {source : Source} (present : source ≠ []) :
    (numberToken negative source).2.length < source.length := by
  unfold numberToken
  split
  · next scanned => exact length_of_scanNumber scanned
  · exact List.length_pos_iff.mpr present

theorem length_scanText (units : Except ReadError (List (Option Char))) (source : Source) :
    (scanText units source).2.length ≤ source.length := by
  fun_induction scanText units source with
  | case1 => simp
  | case2 units rest ih => simp only [List.length_cons]; omega
  | case3 units rest => simp
  | case4 => simp
  | case5 units rest unit after found ih =>
    have := length_of_scanEscape found
    simp only [List.length_cons]
    omega
  | case6 => simp
  | case7 units c rest _ _ _ ih => simp only [List.length_cons]; omega

theorem length_scanWord (token : Token) (word : List Char) (source : Source) :
    (scanWord token word source).2.length ≤ source.length := by
  induction word generalizing source with
  | nil => simp [scanWord]
  | cons c word ih =>
    cases source with
    | nil => simp [scanWord]
    | cons unit rest =>
      simp only [scanWord]
      split
      · have := ih rest
        simp only [List.length_cons]
        omega
      · simp

theorem length_scanToken (c : Char) (rest : Source) :
    (scanToken c rest).2.length ≤ rest.length := by
  unfold scanToken
  split
  case h_7 => exact length_scanText _ rest
  case h_8 => exact length_scanWord _ _ rest
  case h_9 => exact length_scanWord _ _ rest
  case h_10 => exact length_scanWord _ _ rest
  case h_11 =>
    cases rest with
    | nil => simp [numberToken, scanNumber, spanDigits]
    | cons unit tail => exact Nat.le_of_lt (length_numberToken true (List.cons_ne_nil _ _))
  case h_12 =>
    split
    · exact Nat.le_of_lt_succ (length_numberToken false (List.cons_ne_nil _ _))
    · simp
  all_goals exact Nat.le_refl _

def tokens : Source → List Token
  | [] => []
  | none :: _ => [.broken false (.same .expectedValue)]
  | some c :: rest =>
    if isSpace c then tokens rest
    else (scanToken c rest).1 :: tokens (scanToken c rest).2
termination_by source => source.length
decreasing_by
  · simp
  · have := length_scanToken c rest
    simp only [List.length_cons]
    omega

end Replay.Json
