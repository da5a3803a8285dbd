import BearerAuth.Settings.Toml.Token
import BearerAuth.Settings.Value
import BearerAuth.Text.Blank

/-!
# TOML scalars

A plain word in the place of a value is a truth value, an integer, a number with a fraction, or a
date or time. Dates and times become their text in normal form.
-/

namespace BearerAuth.Toml

open Text (isDigit isHexDigit)

/-! ## Numbers -/

/-- The word without its underscores, each of which has to stand between two digits. -/
def withoutUnderscores? (isDigit : Char → Bool) : List Char → Option (List Char)
  | [] => some []
  | a :: '_' :: b :: cs =>
    if isDigit a && isDigit b then (withoutUnderscores? isDigit (b :: cs)).map (a :: ·) else none
  | c :: cs => if c = '_' then none else (withoutUnderscores? isDigit cs).map (c :: ·)

/-- The value of digits in a base, of which there has to be one. -/
def digitsIn? (base : Nat) (cs : List Char) : Option Nat :=
  if cs.isEmpty then none else Text.valueIn? base cs

def splitSign : List Char → Option Char × List Char
  | '+' :: cs => (some '+', cs)
  | '-' :: cs => (some '-', cs)
  | cs => (none, cs)

def hasNoLeadingZero : List Char → Bool
  | '0' :: _ :: _ => false
  | _ => true

def magnitude? (signed : Bool) : List Char → Option Nat
  | '0' :: 'x' :: cs =>
    if signed then none else (withoutUnderscores? isHexDigit cs).bind (digitsIn? 16)
  | '0' :: 'o' :: cs => if signed then none else (withoutUnderscores? isDigit cs).bind (digitsIn? 8)
  | '0' :: 'b' :: cs => if signed then none else (withoutUnderscores? isDigit cs).bind (digitsIn? 2)
  | cs =>
    ((withoutUnderscores? isDigit cs).filter hasNoLeadingZero).bind Number.digitsValue?

def integer? (cs : List Char) : Option Int :=
  let (sign, digits) := splitSign cs
  ((magnitude? sign.isSome digits).map fun n => if sign = some '-' then -(n : Int) else n).filter
    fun n => Number.minInt64 ≤ n && n ≤ Number.maxInt64

/-- Whether the digits around a point and an exponent are as TOML has them. -/
def isDecimal (cs : List Char) : Bool :=
  let whole := cs.takeWhile isDigit
  let rest := cs.dropWhile isDigit
  let tail := match rest with
    | '.' :: after =>
      if (after.takeWhile isDigit).isEmpty then none else some (after.dropWhile isDigit)
    | after => some after
  !whole.isEmpty && hasNoLeadingZero whole && !rest.isEmpty && tail.isSome

def finite? (cs : List Char) : Option SettingNumber :=
  let (sign, digits) := splitSign cs
  match (withoutUnderscores? isDigit digits).filter isDecimal with
  | none => none
  | some digits =>
    match SettingNumber.unsigned? (sign = some '-') digits with
    | some (.finite x) => some (.finite x)
    | _ => none

def number? (cs : List Char) : Option SettingNumber :=
  let (sign, rest) := splitSign cs
  if rest = ['i', 'n', 'f'] then some (.infinite (sign = some '-'))
  else if rest = ['n', 'a', 'n'] then some .notANumber
  else finite? cs

/-! ## Dates and times -/

/-- The value of exactly `n` digits. -/
def fixed? (n : Nat) (cs : List Char) : Option Nat :=
  if cs.length = n then Number.digitsValue? cs else none

def daysOf (year month : Nat) : Nat :=
  if month = 2 then
    if year % 4 = 0 ∧ (year % 100 ≠ 0 ∨ year % 400 = 0) then 29 else 28
  else if [4, 6, 9, 11].contains month then 30
  else 31

def isDate (cs : List Char) : Bool :=
  match Text.pieces (· == '-') cs with
  | [y, m, d] =>
    match fixed? 4 y, fixed? 2 m, fixed? 2 d with
    | some year, some month, some day =>
      1 ≤ month && month ≤ 12 && 1 ≤ day && day ≤ daysOf year month
    | _, _, _ => false
  | _ => false

/-- The text without its trailing zeros. -/
def withoutZeros (cs : List Char) : List Char :=
  (cs.reverse.dropWhile (· == '0')).reverse

/-- The normal form of a time without its offset. -/
def time? (cs : List Char) : Option (List Char) :=
  match Text.pieces (· == ':') cs with
  | [h, m, s] =>
    let whole := s.takeWhile isDigit
    let inRange := (fixed? 2 h).any (· ≤ 23) && (fixed? 2 m).any (· ≤ 59) &&
      (fixed? 2 whole).any (· ≤ 60)
    let clock := h ++ ':' :: m ++ ':' :: whole
    match inRange, s.dropWhile isDigit with
    | true, [] => some clock
    | true, '.' :: digits =>
      if digits.isEmpty || !digits.all isDigit then none
      else
        let shown := withoutZeros (digits.take 9)
        some (if shown.isEmpty then clock else clock ++ '.' :: shown)
    | _, _ => none
  | _ => none

def isOffset (cs : List Char) : Bool :=
  match Text.pieces (· == ':') cs with
  | [h, m] => (fixed? 2 h).any (· ≤ 23) && (fixed? 2 m).any (· ≤ 59)
  | _ => false

/-- The normal form of a time that may have an offset. -/
def zonedTime? (cs : List Char) : Option (List Char) :=
  match cs.reverse with
  | 'Z' :: before | 'z' :: before => (time? before.reverse).map (· ++ ['Z'])
  | _ =>
    let clock := cs.takeWhile fun c => c ≠ '+' && c ≠ '-'
    match cs.dropWhile fun c => c ≠ '+' && c ≠ '-' with
    | [] => time? clock
    | sign :: offset =>
      if isOffset offset then (time? clock).map (· ++ sign :: offset) else none

/-- The normal form of a date, a time, or both. -/
def moment? (cs : List Char) : Option (List Char) :=
  let date := cs.take 10
  match cs.drop 10 with
  | [] => if isDate date then some date else time? cs
  | c :: time =>
    if isDate date then
      if c = 'T' || c = 't' || c = ' ' then (zonedTime? time).map (date ++ 'T' :: ·) else none
    else time? cs

/-! ## Words -/

def scalar? (cs : List Char) : Option Setting :=
  if cs = ['t', 'r', 'u', 'e'] then some (.bool true)
  else if cs = ['f', 'a', 'l', 's', 'e'] then some (.bool false)
  else
    match integer? cs with
    | some n => some (.int n)
    | none =>
      match number? cs with
      | some x => some (.number x)
      | none => (moment? cs).map fun s => .text (String.ofList s)

end BearerAuth.Toml
