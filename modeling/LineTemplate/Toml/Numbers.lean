import LineTemplate.Toml.Strings
import LineTemplate.Toml.Value

/-!
Contract: the reading of numbers and times in TOML documents.

Owns: which texts are integers within 64 bits, floating-point numbers and times.

Does not own: their values; a document of settings only needs their kind.
-/

namespace LineTemplate.Toml

/-- Whether a character is one of `0` to `9`. -/
def isDigit (c : Char) : Bool := '0' ≤ c && c ≤ '9'

def valueOf (base : Nat) (digits : Text) : Nat :=
  digits.foldl (fun value digit => base * value + (Text.hexValue? digit).getD 0) 0

/-- Digits that may be parted by single underscores, after a first digit. -/
def moreDigits (digit : Char → Bool) : Text → Text × Text
  | '_' :: next :: rest =>
      if digit next then
        let (digits, after) := moreDigits digit rest
        (next :: digits, after)
      else ([], '_' :: next :: rest)
  | first :: rest =>
      if digit first then
        let (digits, after) := moreDigits digit rest
        (first :: digits, after)
      else ([], first :: rest)
  | [] => ([], [])

/-- One digit or more, which may be parted by single underscores. -/
def readDigits (digit : Char → Bool) : Text → Option (Text × Text)
  | [] => none
  | first :: rest =>
      if digit first then
        let (digits, after) := moreDigits digit rest
        some (first :: digits, after)
      else none

/-- Whether a minus sign stands first, and what follows a sign. -/
def readSign : Text → Bool × Text
  | '-' :: rest => (true, rest)
  | '+' :: rest => (false, rest)
  | text => (false, text)

/-- A number without a fraction: a sign, and digits without a leading zero. -/
structure Whole where
  negative : Bool
  digits : Text
deriving DecidableEq, Repr

/-- Reads a number without a fraction. -/
def readWhole (text : Text) : Option (Whole × Text) :=
  let (negative, unsigned) := readSign text
  match unsigned with
  | '0' :: rest => some (⟨negative, ['0']⟩, rest)
  | _ => (readDigits isDigit unsigned).map fun (digits, after) => (⟨negative, digits⟩, after)

/-! ### Integers -/

/-- The least number that does not fit into 63 bits. -/
def wholeLimit : Nat := Nat.pow 2 63

/-- Reads digits of a base whose value fits into 63 bits. -/
def readBase (base : Nat) (digit : Char → Bool) (text : Text) : Option (Value × Text) :=
  match readDigits digit text with
  | none => none
  | some (digits, after) =>
      if valueOf base digits < wholeLimit then some (.integer, after) else none

def readInteger : Text → Option (Value × Text)
  | '0' :: 'x' :: rest => readBase 16 (fun c => (Text.hexValue? c).isSome) rest
  | '0' :: 'o' :: rest => readBase 8 (fun c => '0' ≤ c && c ≤ '7') rest
  | '0' :: 'b' :: rest => readBase 2 (fun c => c = '0' || c = '1') rest
  | text =>
      match readWhole text with
      | none => none
      | some (whole, after) =>
          let value := valueOf 10 whole.digits
          let limit := if whole.negative then wholeLimit + 1 else wholeLimit
          if value < limit then some (.integer, after) else none

/-! ### Floating-point numbers -/

/-- Reads a fraction after its point. -/
def readFraction : Text → Option (Text × Text)
  | '.' :: rest => readDigits isDigit rest
  | _ => none

def readExponent : Text → Option (Whole × Text)
  | first :: rest =>
      if first = 'e' ∨ first = 'E' then
        let (negative, unsigned) := readSign rest
        (readDigits isDigit unsigned).map fun (digits, after) => (⟨negative, digits⟩, after)
      else none
  | [] => none

/-- The least number that rounds to more than the greatest finite one of 64
bits. -/
def decimalLimit : Nat := Nat.pow 2 1024 - Nat.pow 2 970

/-- Whether a decimal number rounds to more than the greatest finite one of 64
bits. `digits` are all its digits, `places` how many of them follow the point. -/
def overflows (digits : Text) (places : Nat) (exponent : Whole) : Bool :=
  let significant := digits.dropWhile (· = '0')
  let power : Int :=
    (if exponent.negative then -1 else 1) * (valueOf 10 exponent.digits : Int) - places
  let size : Int := significant.length + power
  if significant.isEmpty || size < 309 then false
  else if 309 < size then true
  else
    if 0 ≤ power then decimalLimit ≤ valueOf 10 significant * Nat.pow 10 power.toNat
    else decimalLimit * Nat.pow 10 (-power).toNat ≤ valueOf 10 significant

/-- Reads a number with a fraction, an exponent or both. A positive number must
not be too great. -/
def readDecimal (text : Text) : Option (Value × Text) :=
  match readWhole text with
  | none => none
  | some (whole, afterWhole) =>
      let (fraction, afterFraction) := (readFraction afterWhole).getD ([], afterWhole)
      let (exponent, after) :=
        match readExponent afterFraction with
        | some (exponent, after) => (exponent, after)
        | none => (⟨false, []⟩, afterFraction)
      if fraction.isEmpty && exponent.digits.isEmpty then none
      else if !whole.negative && overflows (whole.digits ++ fraction) fraction.length exponent then
        none
      else some (.float, after)

def readSpecial (text : Text) : Option (Value × Text) :=
  match (readSign text).2 with
  | 'i' :: 'n' :: 'f' :: rest => some (.float, rest)
  | 'n' :: 'a' :: 'n' :: rest => some (.float, rest)
  | _ => none

/-! ### Times -/

def readTwo (least most : Nat) : Text → Option (Nat × Text)
  | first :: second :: rest =>
      let value := valueOf 10 [first, second]
      if isDigit first && isDigit second && least ≤ value && value ≤ most then some (value, rest)
      else none
  | _ => none

def isLeap (year : Nat) : Bool := year % 4 = 0 && (year % 100 != 0 || year % 400 = 0)

def daysOf (year month : Nat) : Nat :=
  if month = 2 then if isLeap year then 29 else 28
  else if month = 4 ∨ month = 6 ∨ month = 9 ∨ month = 11 then 30
  else 31

def dropChar? (c : Char) : Text → Option Text
  | first :: rest => if first = c then some rest else none
  | [] => none

/-- Reads a date; gives what follows it. -/
def readDate (text : Text) : Option Text := do
  let year := text.take 4
  if year.length = 4 ∧ year.all isDigit then
    let (month, afterMonth) ← readTwo 1 12 (← dropChar? '-' (text.drop 4))
    let (day, after) ← readTwo 1 31 (← dropChar? '-' afterMonth)
    if day ≤ daysOf (valueOf 10 year) month then some after else none
  else none

/-- Reads the fraction of a second, if there is one. -/
def dropSecondFraction : Text → Text
  | '.' :: first :: rest =>
      if isDigit first then rest.dropWhile isDigit else '.' :: first :: rest
  | text => text

/-- Reads a time of day; gives what follows it. -/
def readTime (text : Text) : Option Text := do
  let (_, afterHour) ← readTwo 0 23 text
  let (_, afterMinute) ← readTwo 0 59 (← dropChar? ':' afterHour)
  let (_, after) ← readTwo 0 60 (← dropChar? ':' afterMinute)
  some (dropSecondFraction after)

/-- Reads the offset of a time zone; gives what follows it. -/
def readOffset : Text → Option Text
  | first :: rest =>
      if first = 'Z' ∨ first = 'z' then some rest
      else if first = '+' ∨ first = '-' then do
        let (_, afterHour) ← readTwo 0 23 rest
        let (_, after) ← readTwo 0 59 (← dropChar? ':' afterHour)
        some after
      else none
  | [] => none

/-- Whether a character may stand between a date and a time. -/
def isTimeMark (c : Char) : Bool := c = 'T' || c = 't' || c = ' '

/-- Drops a time with an optional offset behind a date, if there is one. -/
def dropTimeOfDay : Text → Text
  | [] => []
  | first :: rest =>
      if isTimeMark first then
        match readTime rest with
        | some after => (readOffset after).getD after
        | none => first :: rest
      else first :: rest

def readDateTime (text : Text) : Option (Value × Text) :=
  match readDate text with
  | some after => some (.dateTime, dropTimeOfDay after)
  | none => (readTime text).map fun after => (.dateTime, after)

/-- Reads a number or a time, whichever reads first of a time, a decimal number,
infinity and an integer. -/
def readNumber (text : Text) : Option (Value × Text) :=
  ((readDateTime text).or (readDecimal text)).or ((readSpecial text).or (readInteger text))

end LineTemplate.Toml
