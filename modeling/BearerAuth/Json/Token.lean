import BearerAuth.Json.Value
import BearerAuth.Number.Layout
import BearerAuth.Text.Digit

/-!
# JSON tokens

The characters of a JSON text are read one at a time by a machine that keeps what it has seen of the
current token. Numbers follow the JSON grammar state by state, so a token ends at the first
character that cannot continue it. The first character that no token admits ends the list of tokens
with `fault`.
-/

namespace BearerAuth.Json

inductive Token where
  | openArray
  | closeArray
  | openObject
  | closeObject
  | colon
  | comma
  | null
  | bool (b : Bool)
  | num (n : JsonNumber)
  | str (s : String)
  /-- The text stops being JSON here. -/
  | fault
  deriving DecidableEq, Repr

/-! ## Numbers -/

/-- The parts of a number literal read so far; digit lists are in reverse. -/
structure NumberParts where
  /-- Whether the literal starts with a minus sign. -/
  negative : Bool
  /-- Digits before the point. -/
  whole : List Nat
  /-- Digits after the point. -/
  fraction : List Nat
  /-- Whether there is a point or an exponent. -/
  isDouble : Bool
  /-- Whether the exponent has a minus sign. -/
  exponentNegative : Bool
  /-- Absolute value of the exponent. -/
  exponent : Nat
  deriving DecidableEq, Repr

/-- Where in a number literal the machine stands, by the last character read. -/
inductive NumberPlace where
  | minus
  | zero
  | whole
  | point
  | fraction
  | exponentMark
  | exponentSign
  | exponent
  deriving DecidableEq, Repr

def NumberPlace.mayEnd : NumberPlace → Bool
  | .zero | .whole | .fraction | .exponent => true
  | .minus | .point | .exponentMark | .exponentSign => false

/-- Takes digits into a significand as long as it fits 64 bits. The result is the significand and
the number of digits that were left out. -/
def takeDigits : Nat → List Nat → Nat × Nat
  | significand, [] => (significand, 0)
  | significand, d :: ds =>
    if significand * 10 + d ≤ Number.maxUInt64 then takeDigits (significand * 10 + d) ds
    else (significand, (d :: ds).length)

/-- `10 ^ n` rounded to binary64, for `n` at most 308. -/
def powerOfTen (n : Nat) : Number.Binary64 :=
  (Number.Binary64.ofDecimal false 1 n).getD (Number.Binary64.zero false)

/-- Multiplies by a power of ten in binary64 arithmetic, in steps of at most `10 ^ 308`; nothing on
overflow. A number scaled down three times by `10 ^ 308` is zero. -/
def scaleByPower (x : Number.Binary64) (exponent : Int) : Nat → Option Number.Binary64
  | 0 => some (Number.Binary64.zero false)
  | steps + 1 =>
    if exponent.natAbs ≤ 308 then
      if 0 ≤ exponent then x.mul (powerOfTen exponent.natAbs)
      else x.div (powerOfTen exponent.natAbs)
    else if x.isZero then some x
    else if 0 ≤ exponent then none
    else
      match x.div (powerOfTen 308) with
      | some y => scaleByPower y (exponent + 308) steps
      | none => none

/-- The binary64 value of a literal: the digits that fit a 64-bit significand, scaled by a power of
ten. Integer digits that do not fit still count as places, fraction digits that do not fit are
dropped. -/
def NumberParts.double? (p : NumberParts) : Option Number.Binary64 :=
  let (significand, dropped) := takeDigits 0 p.whole.reverse
  let (significand, left) := takeDigits significand p.fraction.reverse
  let kept := p.fraction.length - left
  let power : Int := if p.exponentNegative then -(p.exponent : Int) else (p.exponent : Int)
  let exponent : Int := (dropped : Int) - (kept : Int) + power
  match Number.Binary64.ofDecimal false significand 0 with
  | none => none
  | some x => (scaleByPower x exponent 4).map fun y => { y with negative := p.negative }

/-- The number of a complete literal; a literal beyond the finite numbers is a fault. -/
def NumberParts.token (p : NumberParts) : Token :=
  let magnitude : Nat := p.whole.reverse.foldl (fun n d => n * 10 + d) 0
  let asDouble : Token :=
    match p.double? with
    | some x => .num (.double x)
    | none => .fault
  if p.isDouble then asDouble
  else if p.negative then
    if 0 < magnitude ∧ magnitude ≤ Nat.pow 2 63 then .num (.int (-(magnitude : Int))) else asDouble
  else if magnitude ≤ Number.maxUInt64 then .num (.int magnitude)
  else asDouble

/-- The next place and parts after a character, if the literal goes on. -/
def continueNumber (place : NumberPlace) (p : NumberParts) (c : Char) :
    Option (NumberPlace × NumberParts) :=
  let digit := c.toNat - 48
  let isDigit := '0' ≤ c && c ≤ '9'
  let isMark := c == 'e' || c == 'E'
  match place with
  | .minus =>
    if isDigit then
      some (if c == '0' then .zero else .whole, { p with whole := [digit] })
    else none
  -- Nothing but a point or an exponent follows a zero in front.
  | .zero =>
    if c == '.' then some (.point, { p with isDouble := true })
    else if isMark then some (.exponentMark, { p with isDouble := true })
    else none
  | .whole =>
    if isDigit then some (.whole, { p with whole := digit :: p.whole })
    else if c == '.' then some (.point, { p with isDouble := true })
    else if isMark then some (.exponentMark, { p with isDouble := true })
    else none
  | .point | .fraction =>
    if isDigit then some (.fraction, { p with fraction := digit :: p.fraction })
    else if isMark && place == .fraction then some (.exponentMark, p)
    else none
  | .exponentMark =>
    if isDigit then some (.exponent, { p with exponent := digit })
    else if c == '+' then some (.exponentSign, p)
    else if c == '-' then some (.exponentSign, { p with exponentNegative := true })
    else none
  | .exponentSign | .exponent =>
    if isDigit then some (.exponent, { p with exponent := p.exponent * 10 + digit }) else none

/-! ## The machine -/

/-- What the machine has read of the current token; character lists are in reverse. -/
inductive Mode where
  | between
  /-- In a literal name: the characters still to come. -/
  | name (left : List Char) (token : Token)
  /-- In a number. -/
  | number (place : NumberPlace) (parts : NumberParts)
  /-- In a string. -/
  | string (seen : List Char)
  /-- After a backslash. -/
  | escape (seen : List Char)
  /-- In the hexadecimal digits of an escape; `high` is a surrogate that waits for its partner. -/
  | hex (seen : List Char) (high : Option Nat) (value : Nat) (left : Nat)
  /-- After a high surrogate, where a backslash must follow. -/
  | partner (seen : List Char) (high : Nat)
  /-- After a high surrogate and a backslash. -/
  | partnerMark (seen : List Char) (high : Nat)
  /-- After a fault: nothing is read any more. -/
  | halted
  deriving DecidableEq, Repr

/-- The blanks allowed between JSON tokens. -/
def isSpace (c : Char) : Bool :=
  c == ' ' || c == '\n' || c == '\t' || c == '\r'

def NumberParts.empty (negative : Bool) : NumberParts :=
  ⟨negative, [], [], false, false, 0⟩

def faulty : List Token × Mode :=
  ([.fault], .halted)

def startToken (c : Char) : List Token × Mode :=
  if isSpace c then ([], .between)
  else if c = '\x7b' then ([.openObject], .between)
  else if c = '\x7d' then ([.closeObject], .between)
  else if c = '[' then ([.openArray], .between)
  else if c = ']' then ([.closeArray], .between)
  else if c = ':' then ([.colon], .between)
  else if c = ',' then ([.comma], .between)
  else if c = '"' then ([], .string [])
  else if c = 'n' then ([], .name ['u', 'l', 'l'] .null)
  else if c = 't' then ([], .name ['r', 'u', 'e'] (.bool true))
  else if c = 'f' then ([], .name ['a', 'l', 's', 'e'] (.bool false))
  else if c = '-' then ([], .number .minus (.empty true))
  else if c = '0' then ([], .number .zero { NumberParts.empty false with whole := [0] })
  else if '1' ≤ c ∧ c ≤ '9' then
    ([], .number .whole { NumberParts.empty false with whole := [c.toNat - 48] })
  else faulty

def shortEscape? (c : Char) : Option Char :=
  if c = '"' ∨ c = '\\' ∨ c = '/' then some c
  else if c = 'b' then some (Char.ofNat 8)
  else if c = 'f' then some (Char.ofNat 12)
  else if c = 'n' then some '\n'
  else if c = 'r' then some '\r'
  else if c = 't' then some '\t'
  else none

/-- What follows the last digit of a hexadecimal escape: surrogates must come in pairs. -/
def finishHex (seen : List Char) (high : Option Nat) (value : Nat) : List Token × Mode :=
  match high with
  | none =>
    if 0xD800 ≤ value ∧ value ≤ 0xDBFF then ([], .partner seen value)
    else if 0xDC00 ≤ value ∧ value ≤ 0xDFFF then faulty
    else ([], .string (Char.ofNat value :: seen))
  | some h =>
    if 0xDC00 ≤ value ∧ value ≤ 0xDFFF then
      ([], .string (Char.ofNat (0x10000 + (h - 0xD800) * 0x400 + (value - 0xDC00)) :: seen))
    else faulty

/-- One step of the machine: the tokens that the character completes, and what is read next. -/
def step : Mode → Char → List Token × Mode
  | .between, c => startToken c
  | .name left token, c =>
    match left with
    | [] => faulty
    | [last] => if c = last then ([token], .between) else faulty
    | next :: left => if c = next then ([], .name left token) else faulty
  | .number place parts, c =>
    match continueNumber place parts c with
    | some (place, parts) => ([], .number place parts)
    | none =>
      -- A number has no mark at its end, so this character already belongs to the next token. A
      -- zero that a digit follows is no number.
      if place.mayEnd && !(place == .zero && '0' ≤ c && c ≤ '9') then
        match parts.token with
        | .fault => faulty
        | token =>
          let (more, mode) := startToken c
          (token :: more, mode)
      else faulty
  | .string seen, c =>
    if c = '"' then ([.str (String.ofList seen.reverse)], .between)
    else if c = '\\' then ([], .escape seen)
    else if c.toNat < 32 then faulty
    else ([], .string (c :: seen))
  | .escape seen, c =>
    match shortEscape? c with
    | some e => ([], .string (e :: seen))
    | none => if c = 'u' then ([], .hex seen none 0 4) else faulty
  | .hex seen high value left, c =>
    match Text.hexValue? c with
    | none => faulty
    | some d =>
      if left ≤ 1 then finishHex seen high (value * 16 + d)
      else ([], .hex seen high (value * 16 + d) (left - 1))
  | .partner seen high, c => if c = '\\' then ([], .partnerMark seen high) else faulty
  | .partnerMark seen high, c => if c = 'u' then ([], .hex seen (some high) 0 4) else faulty
  | .halted, _ => ([], .halted)

/-- The tokens that the end of the text completes. -/
def finish : Mode → List Token
  | .between | .halted => []
  | .number place parts => if place.mayEnd then [parts.token] else [.fault]
  | _ => [.fault]

def tokensFrom : Mode → List Char → List Token
  | mode, [] => finish mode
  | mode, c :: cs =>
    let (out, next) := step mode c
    out ++ tokensFrom next cs

def tokens (cs : List Char) : List Token :=
  tokensFrom .between cs

end BearerAuth.Json
