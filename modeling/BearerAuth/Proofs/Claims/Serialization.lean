import BearerAuth.Proofs.Claims.Draft
import BearerAuth.Proofs.Claims.StringList
import BearerAuth.Proofs.Json.Merge
import BearerAuth.Proofs.Json.Parser

/-!
# Serialized payloads read back

However a payload has been obtained, its claims object is read as the same payload, and so is the
JSON text of this object. What makes this work is that every field has passed its check: a list that
has been read once is read as itself, and the seconds of an accepted timestamp are accepted again.
-/

namespace BearerAuth

/-! ## Timestamps -/

namespace Claims

/-- An accepted timestamp is at a whole second within the bounds. -/
theorem inBounds_of_timestamp {input : TimestampInput} {t : Instant} (h : timestamp input = .ok t) :
    InBounds t.seconds ∧ t = .ofSeconds t.seconds := by
  rcases timestamp_eq_ok_iff.1 h with ⟨n, _, hbounds, rfl⟩
  exact ⟨hbounds, rfl⟩

theorem timestampValue_ofInt_seconds {input : TimestampInput} {t : Instant}
    (h : timestamp input = .ok t) : timestampValue (Json.ofInt t.seconds) = .ok t := by
  rcases inBounds_of_timestamp h with ⟨hbounds, hwhole⟩
  rw [timestampValue_ofInt]
  exact boundedInstant_eq_ok_iff.2 ⟨hbounds, hwhole.symm⟩

theorem isPlain_ofInt {levels : Nat} {input : TimestampInput} {t : Instant}
    (h : timestamp input = .ok t) : Json.IsPlain levels (Json.ofInt t.seconds) := by
  have hfits := (inBounds_of_timestamp h).1.isInt64
  have hmax : Number.maxInt64 ≤ (Number.maxUInt64 : Int) := by decide
  exact .int ⟨hfits.1, Int.le_trans hfits.2 hmax⟩

end Claims

theorem Json.isPlain_ofStrings {levels : Nat} (items : List String) :
    IsPlain (levels + 1) (ofStrings items) := by
  refine .arr fun v hv => ?_
  rcases List.mem_map.1 hv with ⟨s, _, rfl⟩
  exact .str s

/-! ## Payloads -/

namespace Payload

variable {p : Payload}

/-- Every field of a payload has passed the check of its claim. -/
structure IsChecked (p : Payload) : Prop where
  scope : ∃ v, Claims.stringList v = .ok p.scope
  aud : ∃ v, Claims.stringList v = .ok p.aud
  exp : ∃ t, Claims.timestamp t = .ok p.exp
  iat : ∃ t, Claims.timestamp t = .ok p.iat
  nbf : ∃ t, Claims.timestamp t = .ok p.nbf

/-- The ways to obtain a payload: from a claims object or field by field. -/
inductive Obtainable (p : Payload) : Prop
  | ofClaims (claims : Json.Members) (h : ofClaims claims = .ok p)
  | build (fields : List PayloadField) (h : (PayloadDraft.ofFields fields).build = .ok p)

theorem Obtainable.isChecked (h : p.Obtainable) : p.IsChecked := by
  have htimestamp : ∀ {v : Json} {i : Instant}, Claims.timestampValue v = .ok i →
      ∃ t, Claims.timestamp t = .ok i := by
    intro v i hv
    rcases bind_eq_ok_iff.1 hv with ⟨t, _, ht⟩
    exact ⟨t, ht⟩
  cases h with
  | ofClaims claims h =>
    rcases ofClaims_eq_ok_iff.1 h with
      ⟨⟨v, _, hscope⟩, ⟨w, _, haud⟩, _, ⟨_, _, hexp⟩, ⟨_, _, hiat⟩, ⟨_, _, hnbf⟩, _⟩
    exact ⟨⟨v, hscope⟩, ⟨w, haud⟩, htimestamp hexp, htimestamp hiat, htimestamp hnbf⟩
  | build fields h =>
    rcases PayloadDraft.build_eq_ok_iff.1 h with
      ⟨⟨v, _, hscope⟩, ⟨w, _, haud⟩, _, ⟨t, _, hexp⟩, ⟨u, _, hiat⟩, ⟨x, _, hnbf⟩, _⟩
    exact ⟨⟨v, hscope⟩, ⟨w, haud⟩, ⟨t, hexp⟩, ⟨u, hiat⟩, ⟨x, hnbf⟩⟩

theorem IsChecked.ofClaims_toClaims (h : p.IsChecked) : ofClaims p.toClaims = .ok p := by
  rcases h with ⟨⟨_, hscope⟩, ⟨_, haud⟩, ⟨_, hexp⟩, ⟨_, hiat⟩, ⟨_, hnbf⟩⟩
  refine ofClaims_eq_ok_iff.2 ⟨?_, ?_, ?_, ?_, ?_, ?_, ?_⟩
  · exact ⟨_, rfl, Claims.stringList_ofStrings hscope⟩
  · exact ⟨_, rfl, Claims.stringList_ofStrings haud⟩
  · rfl
  · exact ⟨_, rfl, Claims.timestampValue_ofInt_seconds hexp⟩
  · exact ⟨_, rfl, Claims.timestampValue_ofInt_seconds hiat⟩
  · exact ⟨_, rfl, Claims.timestampValue_ofInt_seconds hnbf⟩
  · rfl

/-- The claims object of a payload holds integers and texts, in lists at most. -/
theorem IsChecked.isPlain_toJson (h : p.IsChecked) (levels : Nat) :
    Json.IsPlain (levels + 2) p.toJson := by
  rcases h with ⟨_, _, ⟨_, hexp⟩, ⟨_, hiat⟩, ⟨_, hnbf⟩⟩
  refine .obj ?_
  simp only [toClaims, List.forall_mem_cons]
  exact ⟨Json.isPlain_ofStrings _, Json.isPlain_ofStrings _, .str _, Claims.isPlain_ofInt hexp,
    Claims.isPlain_ofInt hiat, Claims.isPlain_ofInt hnbf, .str _, by simp⟩

/-- No key is repeated in the claims of a payload, so nothing in them is merged. -/
theorem mergedDeep_toClaims (p : Payload) : Json.Members.mergedDeep p.toClaims = p.toClaims := by
  simp [toClaims, Json.Members.mergedDeep, Json.mergedMembers, Json.merged_ofStrings, Json.merged,
    Json.ofInt, Json.Members.merged, Json.Members.set]

theorem IsChecked.parse?_toJson (h : p.IsChecked) :
    Json.parse? p.toJson.write = some (.obj p.toClaims) := by
  have hplain : Json.IsPlain Json.maxDepth p.toJson := h.isPlain_toJson 125
  exact Json.parse?_write hplain

/-- A payload that has been obtained in any way is read back from its claims object, and from the
JSON text of this object as well; so different payloads have different texts. -/
theorem serialized_reads_back (h : p.Obtainable) :
    ofClaims p.toClaims = .ok p ∧
      (∃ members : Json.Members, Json.parse? p.toJson.write = some (.obj members) ∧
        ofClaims members.mergedDeep = .ok p) ∧
      ∀ q : Payload, q.Obtainable → q.toJson.write = p.toJson.write → q = p := by
  have hread := h.isChecked.ofClaims_toClaims
  refine ⟨hread, ⟨p.toClaims, h.isChecked.parse?_toJson, ?_⟩, ?_⟩
  · rw [mergedDeep_toClaims, hread]
  -- The text gives the claims object back, and that belongs to one payload only.
  · intro q hq hsame
    have hq' := hq.isChecked.parse?_toJson
    rw [hsame, h.isChecked.parse?_toJson] at hq'
    have hclaims : p.toClaims = q.toClaims := by simpa using hq'
    have hread' := hq.isChecked.ofClaims_toClaims
    rw [← hclaims, hread] at hread'
    exact (Except.ok.inj hread').symm

end Payload

namespace Sample

/-- Fields in every form: lists with entries that are no strings and with letters whose lower-case
form is longer or depends on its place, and timestamps as text, instant and seconds. -/
def fields : List PayloadField :=
  [.scope (.arr [.str " ΟΔΟΣ ", .num (.int 5), .null, .obj [("K", .bool true)]]),
    .aud (.str "\u0130 B"), .iss "i", .exp (.text " 60 "), .iat (.zoned ⟨-1, 5⟩), .nbf (.seconds 0),
    .sub ""]

def built : Payload :=
  ⟨["οδος", "5", "\x7b\"k\":true\x7d"], ["i\u0307", "b"], "i", .ofSeconds 60, .ofSeconds (-1),
    .ofSeconds 0, ""⟩

end Sample

/-- Reading a payload back changes none of the forms that its fields have been given in. -/
theorem Payload.sample_reads_back :
    (PayloadDraft.ofFields Sample.fields).build = .ok Sample.built ∧
      Payload.ofClaims Sample.built.toClaims = .ok Sample.built := by
  have hbuilt : (PayloadDraft.ofFields Sample.fields).build = .ok Sample.built := by
    decide +kernel
  exact ⟨hbuilt, (Payload.serialized_reads_back (.build Sample.fields hbuilt)).1⟩

end BearerAuth
