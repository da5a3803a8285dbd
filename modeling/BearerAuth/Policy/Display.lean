import BearerAuth.Policy.Basic
import BearerAuth.Text.Quoted

/-!
# Policies in diagnostics

A policy in one line, with its fields in order.
-/

namespace BearerAuth

def describeOption (written : Option String) : String :=
  match written with
  | some s => "Some(" ++ s ++ ")"
  | none => "None"

def describeTexts (items : List String) : String :=
  Text.bracketed (items.map Text.quoted)

def Policy.describe (p : Policy) : String :=
  "JwtBearerAuthConfig \x7b audience: " ++ Text.quoted p.audience ++
    ", authorized_algorithms: " ++ Text.bracketed (p.algorithms.map Algorithm.name) ++
    ", authorized_audiences: " ++ describeOption (p.audiences.map describeTexts) ++
    ", authorized_issuers: " ++ describeOption (p.issuers.map describeTexts) ++
    ", leeway_seconds: " ++ toString p.leeway.toNat ++ " \x7d"

end BearerAuth
