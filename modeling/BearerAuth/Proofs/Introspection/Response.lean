import BearerAuth.Introspection.Response
import BearerAuth.Proofs.Json.Field
import BearerAuth.Proofs.Json.Trailing
import BearerAuth.Proofs.Text.Utf8
import BearerAuth.Text.Utf8

/-!
# Bodies that are introspection responses

A body is a response when its characters are the text of one object and the members of this object
say what the response says: `active` stands once and is a truth value, and every other declared
member is absent, `null` or of its type. After a body that is a response only blanks may follow.
-/

namespace BearerAuth.IntrospectionResponse

variable {members : Json.Members} {r r' : IntrospectionResponse} {v : Json} {cs : List Char}
  {body more : List UInt8}

/-- The members say what the response says. -/
structure ReadFrom (members : Json.Members) (r : IntrospectionResponse) : Prop where
  active : members.filter (fun m => m.1 = "active") = [("active", .bool r.active)]
  scope : members.Declares Json.string? "scope" r.scope
  clientId : members.Declares Json.string? "client_id" r.clientId
  username : members.Declares Json.string? "username" r.username
  tokenType : members.Declares Json.string? "token_type" r.tokenType
  exp : members.Declares int64? "exp" r.exp
  sub : members.Declares Json.string? "sub" r.sub
  iss : members.Declares Json.string? "iss" r.iss
  additional : r.additional =
    Json.Members.mergedDeep (members.filter fun m => !declaredKeys.contains m.1)

theorem bool?_eq_some_iff {b : Bool} : bool? v = some b ↔ v = .bool b := by
  cases v with
  | bool c => simp [bool?]
  | _ => simp [bool?]

theorem required?_active_eq_some_iff {b : Bool} :
    members.required? bool? "active" = some b ↔
      members.filter (fun m => m.1 = "active") = [("active", .bool b)] := by
  rw [Json.Members.required?_eq_some_iff]
  simp only [bool?_eq_some_iff, exists_eq_right]

theorem ofJson?_eq_some_iff :
    ofJson? v = some r ↔ ∃ members, v = .obj members ∧ ReadFrom members r := by
  cases v with
  | obj members =>
    simp only [ofJson?, Option.bind_eq_bind, Option.bind_eq_some_iff, Option.pure_def,
      required?_active_eq_some_iff, Json.Members.optional?_eq_some_iff]
    constructor
    · rintro ⟨active, hactive, scope, hscope, clientId, hclientId, username, husername, tokenType,
        htokenType, exp, hexp, sub, hsub, iss, hiss, ⟨⟩⟩
      exact ⟨members, rfl, hactive, hscope, hclientId, husername, htokenType, hexp, hsub, hiss, rfl⟩
    · rintro ⟨_, ⟨⟩, h⟩
      refine ⟨r.active, h.active, r.scope, h.scope, r.clientId, h.clientId, r.username, h.username,
        r.tokenType, h.tokenType, r.exp, h.exp, r.sub, h.sub, r.iss, h.iss, ?_⟩
      rw [← h.additional]
  | _ => simp [ofJson?]

/-! ## From bytes to members -/

/-- The body is the text of one object, in UTF-8, and its members say what the response says. -/
def IsBody (body : List UInt8) (r : IntrospectionResponse) : Prop :=
  ∃ cs members, Text.Utf8.decode? body = some cs ∧
    Json.tokens cs = Json.writtenTokens (.obj members) ∧
    Json.NestsWithin Json.maxDepth (.obj members) ∧ ReadFrom members r

/-- Blanks and nothing else. -/
def IsBlank (bytes : List UInt8) : Prop :=
  ∃ cs, Text.Utf8.decode? bytes = some cs ∧ ∀ c ∈ cs, Json.isSpace c = true

theorem ofChars?_eq_some_iff :
    ofChars? cs = some r ↔
      ∃ members, Json.parse? cs = some (.obj members) ∧ ReadFrom members r := by
  simp only [ofChars?, Option.bind_eq_some_iff, ofJson?_eq_some_iff]
  constructor
  · rintro ⟨_, hparse, members, rfl, hread⟩
    exact ⟨members, hparse, hread⟩
  · rintro ⟨members, hparse, hread⟩
    exact ⟨.obj members, hparse, members, rfl, hread⟩

theorem isBody_iff : IsBody body r ↔ (Text.Utf8.decode? body).bind ofChars? = some r := by
  simp only [IsBody, Option.bind_eq_some_iff, ofChars?_eq_some_iff, Json.parse?_eq_some_iff,
    and_assoc, exists_and_left]

theorem IsBody.unique (h : IsBody body r) (h' : IsBody body r') : r' = r :=
  Option.some.inj ((isBody_iff.1 h').symm.trans (isBody_iff.1 h))

/-- After a response only blanks may follow, and they change nothing. -/
theorem IsBody.append_iff (h : IsBody body r) :
    IsBody (body ++ more) r' ↔ IsBlank more ∧ r' = r := by
  rcases h with ⟨cs, members, hdecode, htokens, hnests, hread⟩
  have hparse : Json.parse? cs = some (.obj members) :=
    Json.parse?_eq_some_iff.2 ⟨htokens, hnests⟩
  -- Blanks after the closing brace change nothing.
  have hblank : IsBlank more → IsBody (body ++ more) r := by
    rintro ⟨ds, hmore, hds⟩
    have happend : Text.Utf8.decode? (body ++ more) = some (cs ++ ds) := by
      rw [Text.Utf8.decode?_append hdecode, hmore]
      rfl
    have hsame : Json.parse? (cs ++ ds) = some (.obj members) := by
      rw [Json.parse?_append_of_obj hparse, if_pos (List.all_eq_true.2 hds)]
    rcases Json.parse?_eq_some_iff.1 hsame with ⟨htokens', hnests'⟩
    exact ⟨cs ++ ds, members, happend, htokens', hnests', hread⟩
  constructor
  · intro h'
    have hmore : IsBlank more := by
      rcases h' with ⟨cs', members', hdecode', htokens', hnests', _⟩
      rw [Text.Utf8.decode?_append hdecode] at hdecode'
      rcases Option.map_eq_some_iff.1 hdecode' with ⟨ds, hds, rfl⟩
      have hparse' := Json.parse?_eq_some_iff.2 ⟨htokens', hnests'⟩
      rw [Json.parse?_append_of_obj hparse] at hparse'
      exact ⟨ds, hds, List.all_eq_true.1 (Option.ite_none_right_eq_some.1 hparse').1⟩
    exact ⟨hmore, (hblank hmore).unique h'⟩
  · rintro ⟨hmore, rfl⟩
    exact hblank hmore

end BearerAuth.IntrospectionResponse
