import CommitStyle.Reader
import CommitStyle.Document.Tree

/-!
# TOML numbers and dates

A scalar that is no string is a run of characters that no other character of the notation can
continue; its kind is told from the run as a whole.
-/

namespace CommitStyle.Document.Toml

def isScalarChar (c : Char) : Bool :=
  c.isAlphanum || c == '+' || c == '-' || c == '_' || c == ':' || c == '.'

/-- Digits in which an underscore stands only between two digits, without the underscores. -/
def plainDigits? (base : Nat) : List Char → Option (List Char)
  | [] => none
  | [c] => if isDigitIn base c then some [c] else none
  | c :: '_' :: rest => if isDigitIn base c then (plainDigits? base rest).map (c :: ·) else none
  | c :: rest => if isDigitIn base c then (plainDigits? base rest).map (c :: ·) else none

def decimalDigits? (text : List Char) : Option (List Char) := do
  let digits ← plainDigits? 10 text
  if digits.length == 1 || digits.head? != some '0' then some digits else none

/-- Splits a sign off a text; true stands for a minus. -/
def splitSign : List Char → Bool × List Char
  | '+' :: rest => (false, rest)
  | '-' :: rest => (true, rest)
  | text => (false, text)

/-- An integer, decimal with a sign or in another base without one. -/
def integer? (text : List Char) : Option Int := do
  let n ← match text with
    | '0' :: 'x' :: rest => (plainDigits? 16 rest).map fun digits => (ofDigits 16 digits : Int)
    | '0' :: 'o' :: rest => (plainDigits? 8 rest).map fun digits => (ofDigits 8 digits : Int)
    | '0' :: 'b' :: rest => (plainDigits? 2 rest).map fun digits => (ofDigits 2 digits : Int)
    | _ =>
      let (negative, rest) := splitSign text
      (decimalDigits? rest).map fun digits =>
        if negative then -(ofDigits 10 digits : Int) else (ofDigits 10 digits : Int)
  if isInRange n then some n else none

/-- Whether `digits * 10 ^ (exponent - places)` is too large for a binary64 number: at least half a
unit above the largest one. -/
def exceedsReals (digits : List Char) (places : Nat) (exponent : Int) : Bool :=
  let n := ofDigits 10 digits
  let scale := exponent - places
  let bound := Nat.pow 2 1024 - Nat.pow 2 970
  if n == 0 then false
  else if 400 < scale + (digits.dropWhile (· == '0')).length then true
  else if scale + (digits.dropWhile (· == '0')).length < 300 then false
  else if 0 ≤ scale then bound ≤ n * Nat.pow 10 scale.toNat
  else bound * Nat.pow 10 (-scale).toNat ≤ n

/-- Whether the text is a real number: it has a fraction or an exponent and does not exceed the range,
or it is infinite or no number at all. -/
def isReal (text : List Char) : Bool :=
  let (negative, rest) := splitSign text
  if rest == "inf".toList || rest == "nan".toList then true
  else
    let isExponent (c : Char) := c == 'e' || c == 'E'
    let mantissa := rest.takeWhile (!isExponent ·)
    let power := rest.dropWhile (!isExponent ·)
    let whole := mantissa.takeWhile (· != '.')
    let fraction := mantissa.dropWhile (· != '.')
    let parts? : Option (List Char × List Char × Int) := do
      let wholeDigits ← decimalDigits? whole
      let fractionDigits ← if fraction.isEmpty then some [] else plainDigits? 10 (fraction.drop 1)
      let exponent ← if power.isEmpty then some 0 else do
        let (minus, digits) := splitSign (power.drop 1)
        let n : Int := ofDigits 10 (← plainDigits? 10 digits)
        some (if minus then -n else n)
      some (wholeDigits, fractionDigits, exponent)
    match parts? with
    | some (wholeDigits, fractionDigits, exponent) =>
      !(fraction.isEmpty && power.isEmpty) &&
        (negative || !exceedsReals (wholeDigits ++ fractionDigits) fractionDigits.length exponent)
    | none => false

def twoDigits? : List Char → Option Nat
  | [a, b] => if a.isDigit && b.isDigit then some (ofDigits 10 [a, b]) else none
  | _ => none

def daysInMonth (year month : Nat) : Nat :=
  if month == 2 then
    if year % 4 == 0 && (year % 100 != 0 || year % 400 == 0) then 29 else 28
  else if month == 4 || month == 6 || month == 9 || month == 11 then 30
  else 31

def isDate : List Char → Bool
  | [y₁, y₂, y₃, y₄, '-', m₁, m₂, '-', d₁, d₂] =>
    match twoDigits? [m₁, m₂], twoDigits? [d₁, d₂] with
    | some month, some day =>
      [y₁, y₂, y₃, y₄].all (·.isDigit) && 1 ≤ month && month ≤ 12 && 1 ≤ day &&
        day ≤ daysInMonth (ofDigits 10 [y₁, y₂, y₃, y₄]) month
    | _, _ => false
  | _ => false

def isTime : List Char → Bool
  | h₁ :: h₂ :: ':' :: m₁ :: m₂ :: ':' :: s₁ :: s₂ :: fraction =>
    match twoDigits? [h₁, h₂], twoDigits? [m₁, m₂], twoDigits? [s₁, s₂] with
    | some hour, some minute, some second =>
      hour ≤ 23 && minute ≤ 59 && second ≤ 60 &&
        match fraction with
        | [] => true
        | c :: digits => c == '.' && !digits.isEmpty && digits.all (·.isDigit)
    | _, _, _ => false
  | _ => false

def isOffset : List Char → Bool
  | ['Z'] | ['z'] => true
  | [sign, h₁, h₂, ':', m₁, m₂] =>
    match twoDigits? [h₁, h₂], twoDigits? [m₁, m₂] with
    | some hour, some minute => (sign == '+' || sign == '-') && hour ≤ 23 && minute ≤ 59
    | _, _ => false
  | _ => false

def isOffsetTime (text : List Char) : Bool :=
  let isTimeChar (c : Char) := c.isDigit || c == ':' || c == '.'
  let offset := text.dropWhile isTimeChar
  isTime (text.takeWhile isTimeChar) && (offset.isEmpty || isOffset offset)

def isDateTime (text : List Char) : Bool :=
  isDate text || isTime text ||
    isDate (text.take 10) &&
      match text.drop 10 with
      | c :: time => (c == 'T' || c == 't') && isOffsetTime time
      | [] => false

open Reader in
/-- A scalar that is no string. A time may follow a date after a blank. -/
def scalar : Reader Tree := do
  let text ← takeWhile isScalarChar
  if text == "true".toList then return .bool true
  else if text == "false".toList then return .bool false
  else
    match integer? text with
    | some n => return .integer n
    | none =>
      require (isReal text || isDateTime text)
      if isDate text then
        match ← get with
        | ' ' :: rest =>
          if isOffsetTime (rest.takeWhile isScalarChar) then set (rest.dropWhile isScalarChar)
        | _ => pure ()
      return .other

end CommitStyle.Document.Toml
