import TextTemplate.Value.Basic

/-!
# Reading data

Reads a value from its JSON text. A number with neither point nor exponent is a whole number if it
has 64 bits, and a double otherwise. A double is read in two steps: the digits that fit into 64 bits
are rounded, and the result is scaled by a power of ten and rounded again.

## Main definitions

- `Number.ofParts?` — the number that digits, fraction and exponent spell
- `Value.read?` — the value of a JSON text
-/

namespace TextTemplate

open Text

namespace Number

/-- The digits read so far, as far as they fit into 64 bits, and the digits that are left. -/
def gather (significand : Nat) : List Char → Nat × List Char
  | [] => (significand, [])
  | c :: cs =>
    let next := 10 * significand + digitValue c
    if next < Nat.pow 2 64 then gather next cs else (significand, c :: cs)

/-- The largest power of ten whose nearest double is finite. -/
def greatestPower : Nat := 308

/-- The nearest double to a power of ten. -/
def powerOfTen? (n : Nat) : Option Binary64 :=
  Binary64.ofNat? false (Nat.pow 10 n)

/-- A double divided a number of times by the greatest power of ten. -/
def divideBySteps? (x : Binary64) : Nat → Option Binary64
  | 0 => some x
  | steps + 1 =>
    if x.isZero then some x
    else (powerOfTen? greatestPower).bind fun power =>
      (x.div? power).bind fun y => divideBySteps? y steps

/-- A double divided by a power of ten, in steps of the greatest one and a rest. -/
def scaleDown? (x : Binary64) (n : Nat) : Option Binary64 :=
  let steps := (n - 1) / greatestPower
  (divideBySteps? x steps).bind fun y =>
    (powerOfTen? (n - steps * greatestPower)).bind y.div?

/-- A double multiplied by a power of ten, if the result is finite. -/
def scaleUp? (x : Binary64) (n : Nat) : Option Binary64 :=
  if n ≤ greatestPower then (powerOfTen? n).bind x.mul?
  else if x.isZero then some x
  else none

/-- A double scaled by a power of ten. -/
def scale? (x : Binary64) : Int → Option Binary64
  | .ofNat n => scaleUp? x n
  | .negSucc n => scaleDown? x (n + 1)

/-- The number spelled by a sign, digits, and possibly a fraction and an exponent. -/
def ofParts? (negative : Bool) (digits : List Char) (fraction? : Option (List Char))
    (exponent? : Option Int) : Option Number :=
  let (significand, left) := gather 0 digits
  match fraction?, exponent?, left with
  | none, none, [] =>
    if !negative then some (integer significand)
    else if significand == 0 || Nat.pow 2 63 < significand then
      (Binary64.ofNat? true significand).map float
    else some (integer (-significand))
  | _, _, _ =>
    let fraction := fraction?.getD []
    let (significand, dropped) := gather significand fraction
    let read := fraction.length - dropped.length
    (Binary64.ofNat? negative significand).bind fun x =>
      (scale? x ((left.length : Int) - read + exponent?.getD 0)).map float

end Number

namespace Value

/-- The text without the blanks that may stand between the parts of a value. -/
def skipBlanks (cs : List Char) : List Char :=
  cs.dropWhile fun c => c = ' ' || c = '\t' || c = '\n' || c = '\r'

/-- An exponent mark with its sign and digits, if one follows, and the text behind it. -/
def readExponent (cs : List Char) : Option Int × List Char :=
  let digits (sign : Int) (rest : List Char) : Option Int × List Char :=
    (some (sign * decimalValue (rest.takeWhile Char.isDigit)), rest.dropWhile Char.isDigit)
  match cs with
  | c :: rest =>
    if c = 'e' || c = 'E' then
      match rest with
      | '+' :: rest => digits 1 rest
      | '-' :: rest => digits (-1) rest
      | _ => digits 1 rest
    else (none, cs)
  | [] => (none, [])

/-- A number and the text behind it. -/
def readNumber? (cs : List Char) : Option (Number × List Char) :=
  let (negative, cs) := match cs with
    | '-' :: rest => (true, rest)
    | _ => (false, cs)
  let digits := cs.takeWhile Char.isDigit
  let rest := cs.dropWhile Char.isDigit
  if digits.isEmpty then none
  else
    let (fraction?, rest) := match rest with
      | '.' :: more => (some (more.takeWhile Char.isDigit), more.dropWhile Char.isDigit)
      | _ => (none, rest)
    let (exponent?, rest) := readExponent rest
    (Number.ofParts? negative digits fraction? exponent?).map fun n => (n, rest)

/-- The value of a hexadecimal digit. -/
def hexDigit? (c : Char) : Option Nat :=
  if c.isDigit then some (digitValue c)
  else if 'a' ≤ c && c ≤ 'f' then some (c.toNat - 'a'.toNat + 10)
  else if 'A' ≤ c && c ≤ 'F' then some (c.toNat - 'A'.toNat + 10)
  else none

/-- Four hexadecimal digits and the text behind them. -/
def readUnit? : List Char → Option (Nat × List Char)
  | a :: b :: c :: d :: rest =>
    match hexDigit? a, hexDigit? b, hexDigit? c, hexDigit? d with
    | some a, some b, some c, some d => some (((a * 16 + b) * 16 + c) * 16 + d, rest)
    | _, _, _, _ => none
  | _ => none

/-- The character of an escape by code, which may take two 16-bit units, and the text behind it. -/
def readCode? (cs : List Char) : Option (Char × List Char) :=
  (readUnit? cs).bind fun (unit, rest) =>
    if unit < 0xd800 || 0xdfff < unit then some (Char.ofNat unit, rest)
    else match rest with
      | '\\' :: 'u' :: rest =>
        (readUnit? rest).bind fun (low, rest) =>
          if unit < 0xdc00 && 0xdc00 ≤ low && low ≤ 0xdfff then
            some (Char.ofNat (0x10000 + (unit - 0xd800) * 0x400 + (low - 0xdc00)), rest)
          else none
      | _ => none

/-- The character of an escape by letter. -/
def escapedChar? (c : Char) : Option Char :=
  if c = '"' || c = '\\' || c = '/' then some c
  else if c = 'b' then some '\x08'
  else if c = 'f' then some '\x0c'
  else if c = 'n' then some '\n'
  else if c = 'r' then some '\r'
  else if c = 't' then some '\t'
  else none

/-- The characters up to the closing quote, in reverse onto `done`, and the text behind it. -/
def readChars? (done : List Char) : Nat → List Char → Option (String × List Char)
  | 0, _ => none
  | _ + 1, [] => none
  | fuel + 1, c :: cs =>
    if c = '"' then some (String.ofList done.reverse, cs)
    else if c = '\\' then
      match cs with
      | 'u' :: rest => (readCode? rest).bind fun (c, rest) => readChars? (c :: done) fuel rest
      | e :: rest => (escapedChar? e).bind fun c => readChars? (c :: done) fuel rest
      | [] => none
    else readChars? (c :: done) fuel cs

/-- A quoted text, behind its opening quote, and the text behind it. -/
def readText? (cs : List Char) : Option (String × List Char) :=
  readChars? [] (cs.length + 1) cs

/-- Puts a member under its key, in place of an older member with that key. -/
def putMember (key : String) (value : Value) :
    List (String × Value) → List (String × Value)
  | [] => [(key, value)]
  | (k, v) :: members =>
    if k == key then (k, value) :: members else (k, v) :: putMember key value members

mutual

/-- A value and the text behind it; every call takes one unit of fuel. -/
def readValue? : Nat → List Char → Option (Value × List Char)
  | 0, _ => none
  | fuel + 1, cs =>
    match skipBlanks cs with
    | '"' :: rest => (readText? rest).map fun (s, rest) => (text s, rest)
    | '[' :: rest =>
      match skipBlanks rest with
      | ']' :: rest => some (sequence [], rest)
      | rest => (readItems? fuel rest).map fun (items, rest) => (sequence items, rest)
    | '\x7b' :: rest =>
      match skipBlanks rest with
      | '\x7d' :: rest => some (keyed [], rest)
      | rest => (readMembers? fuel [] rest).map fun (members, rest) => (keyed members, rest)
    | 'n' :: 'u' :: 'l' :: 'l' :: rest => some (null, rest)
    | 't' :: 'r' :: 'u' :: 'e' :: rest => some (boolean true, rest)
    | 'f' :: 'a' :: 'l' :: 's' :: 'e' :: rest => some (boolean false, rest)
    | cs => (readNumber? cs).map fun (n, rest) => (number n, rest)

/-- The items of a sequence up to its closing bracket. -/
def readItems? : Nat → List Char → Option (List Value × List Char)
  | 0, _ => none
  | fuel + 1, cs =>
    (readValue? fuel cs).bind fun (item, rest) =>
      match skipBlanks rest with
      | ']' :: rest => some ([item], rest)
      | ',' :: rest => (readItems? fuel rest).map fun (items, rest) => (item :: items, rest)
      | _ => none

/-- The members of a keyed collection, added to those read before, up to its closing brace. -/
def readMembers? : Nat → List (String × Value) → List Char →
    Option (List (String × Value) × List Char)
  | 0, _, _ => none
  | fuel + 1, members, cs =>
    match skipBlanks cs with
    | '"' :: rest =>
      (readText? rest).bind fun (key, rest) =>
        match skipBlanks rest with
        | ':' :: rest =>
          (readValue? fuel rest).bind fun (value, rest) =>
            let members := putMember key value members
            match skipBlanks rest with
            | '\x7d' :: rest => some (members, rest)
            | ',' :: rest => readMembers? fuel members rest
            | _ => none
        | _ => none
    | _ => none

end

/-- The value of a JSON text. A value takes at least one character for every two calls. -/
def read? (source : String) : Option Value :=
  let cs := source.toList
  match readValue? (2 * cs.length + 2) cs with
  | some (value, rest) => if (skipBlanks rest).isEmpty then some value else none
  | none => none

end Value

end TextTemplate
