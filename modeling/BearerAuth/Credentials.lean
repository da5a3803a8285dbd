import BearerAuth.AuthError
import BearerAuth.Text.Cut
import BearerAuth.Text.Utf8

/-!
# Credentials

The credentials of a request are the value of its first `authorization` header. The value has to be
printable ASCII, tabs included, and what follows the exact word `Bearer` and one space is the token,
which may be empty.
-/

namespace BearerAuth

/-- A header of a request, as bytes. -/
structure Header where
  /-- The name; letter case does not count. -/
  name : List UInt8
  value : List UInt8
  deriving DecidableEq, Repr

/-- A bearer token, as the client sent it. -/
structure BearerToken where
  text : String
  deriving DecidableEq, Repr

namespace BearerToken

def isEmpty (t : BearerToken) : Bool :=
  t.text.isEmpty

/-- What diagnostics show in place of the token. -/
def redacted (t : BearerToken) : String :=
  "<redacted " ++ toString t.text.utf8ByteSize ++ " bytes>"

def describe (t : BearerToken) : String :=
  "JwtToken(" ++ t.redacted ++ ")"

def describeLong (t : BearerToken) : String :=
  "JwtToken(\n    " ++ t.redacted ++ ",\n)"

end BearerToken

namespace Credentials

def headerName : List UInt8 :=
  Text.Utf8.encode "authorization"

/-- A byte with ASCII capitals made small. -/
def lowerByte (b : UInt8) : UInt8 :=
  if 0x41 ≤ b ∧ b ≤ 0x5A then b + 0x20 else b

def isCarrier (h : Header) : Bool :=
  h.name.map lowerByte == headerName

/-- Whether a byte may stand in credentials. -/
def isVisible (b : UInt8) : Bool :=
  (0x20 ≤ b && b ≤ 0x7E) || b == 0x09

def asciiChars (bytes : List UInt8) : List Char :=
  bytes.map fun b => Char.ofNat b.toNat

theorem toNat_asciiChar (b : UInt8) : (Char.ofNat b.toNat).toNat = b.toNat := by
  have hvalid : b.toNat.isValidChar := .inl (Nat.lt_trans b.toNat_lt (by decide))
  rw [Char.ofNat, dif_pos hvalid]
  rfl

theorem asciiChar_inj {b c : UInt8} (h : Char.ofNat b.toNat = Char.ofNat c.toNat) : b = c := by
  have hcode := congrArg Char.toNat h
  rw [toNat_asciiChar, toNat_asciiChar] at hcode
  exact UInt8.toNat_inj.1 hcode

theorem toLower_asciiChar (b : UInt8) :
    (Char.ofNat b.toNat).toLower = Char.ofNat (lowerByte b).toNat := by
  have hall : ∀ n < 256, (Char.ofNat n).toLower = Char.ofNat (lowerByte (UInt8.ofNat n)).toNat := by
    decide +kernel
  simpa using hall b.toNat b.toNat_lt

/-- Credentials are carried by the header whose name is `authorization`, up to the case of ASCII
letters. -/
theorem isCarrier_iff {h : Header} :
    isCarrier h = true ↔ (String.ofList (asciiChars h.name)).toLower = "authorization" := by
  have hname : asciiChars headerName = "authorization".toList := by decide +kernel
  have hlower : (String.ofList (asciiChars h.name)).toLower.toList =
      asciiChars (h.name.map lowerByte) := calc
    _ = (String.ofList (asciiChars h.name)).toList.map Char.toLower := String.toList_map
    _ = asciiChars (h.name.map lowerByte) := by simp [asciiChars, toLower_asciiChar]
  rw [← String.toList_inj, hlower, ← hname, isCarrier, beq_iff_eq]
  -- Bytes are told apart by their characters.
  exact (List.map_inj_right fun _ _ => asciiChar_inj).symm

def missing : AuthError :=
  .missingCredentials AuthError.missingCredentialsText

def invalid : AuthError :=
  .invalidCredentials AuthError.invalidCredentialsText

/-- The text of a value that is not empty. -/
def textOfValue (value : List UInt8) : Except AuthError String :=
  if value.isEmpty then .error missing
  else if value.all isVisible then .ok (String.ofList (asciiChars value))
  else .error invalid

def ofHeaders (headers : List Header) : Except AuthError String :=
  match headers.find? isCarrier with
  | none => .error missing
  | some h => textOfValue h.value

/-- What stands in front of a token. -/
def scheme : List Char :=
  ['B', 'e', 'a', 'r', 'e', 'r', ' ']

def bearerToken (credentials : String) : Except AuthError BearerToken :=
  match Text.after? scheme credentials.toList with
  | some cs => .ok ⟨String.ofList cs⟩
  | none => .error invalid

def token (headers : List Header) : Except AuthError BearerToken :=
  ofHeaders headers >>= bearerToken

end Credentials

end BearerAuth
