import BearerAuth.Claims.Payload
import BearerAuth.Proofs.Number.Signed
import BearerAuth.Proofs.Result
import BearerAuth.Proofs.Text.Blank

/-!
# Which timestamps are accepted

A timestamp in any form reads as a Unix second, or it is a text that does not read as one of 64
bits. It is accepted exactly when that second lies in one of the years 1 to 9999; dates reach all of
these years, so that nothing else can go wrong. Instants read as the second that they are in,
whatever their nanoseconds.
-/

namespace BearerAuth

/-! ## Years -/

namespace Calendar

/-- The year has a leap day. -/
def IsLeap (year : Int) : Prop :=
  (4 ∣ year ∧ ¬100 ∣ year) ∨ 400 ∣ year

instance : DecidablePred IsLeap := fun year =>
  inferInstanceAs (Decidable ((4 ∣ year ∧ ¬100 ∣ year) ∨ 400 ∣ year))

/-- A Unix second lies in a year. -/
def InYear (n year : Int) : Prop :=
  yearStart year ≤ n ∧ n < yearStart (year + 1)

/-- A Unix second lies in one of the years from `first` to `last`. -/
def InYears (first last n : Int) : Prop :=
  ∃ year, (first ≤ year ∧ year ≤ last) ∧ InYear n year

/-- A year takes as many days as the rule of leap years gives it. -/
theorem yearStart_succ (year : Int) :
    yearStart (year + 1) = yearStart year + 86400 * if IsLeap year then 366 else 365 := by
  by_cases hleap : IsLeap year
  · rw [if_pos hleap]
    unfold IsLeap at hleap
    unfold yearStart leapDays
    omega
  · rw [if_neg hleap]
    unfold IsLeap at hleap
    unfold yearStart leapDays
    omega

theorem yearStart_mono {year later : Int} (h : year ≤ later) :
    yearStart year ≤ yearStart later := by
  obtain ⟨k, rfl⟩ := Int.le.dest h
  clear h
  induction k with
  | zero => simp
  | succ k ih =>
    have hsucc := yearStart_succ (year + k)
    rw [Int.natCast_succ, ← Int.add_assoc]
    split at hsucc
    · omega
    · omega

theorem inYears_iff {first last n : Int} :
    InYears first last n ↔ yearStart first ≤ n ∧ n < yearStart (last + 1) := by
  constructor
  · rintro ⟨year, ⟨hfirst, hlast⟩, hstart, hend⟩
    have hlow := yearStart_mono hfirst
    have hhigh := yearStart_mono (show year + 1 ≤ last + 1 by omega)
    omega
  · rintro ⟨hlow, hhigh⟩
    have hyears : first ≤ last := by
      by_cases hle : first ≤ last
      · exact hle
      · have hempty := yearStart_mono (show last + 1 ≤ first by omega)
        omega
    -- The years are gone through from the first one, until the next begins after the second.
    obtain ⟨k, rfl⟩ : ∃ k : Nat, last = first + k := ⟨(last - first).toNat, by omega⟩
    clear hyears
    induction k with
    | zero => exact ⟨first, ⟨by omega, by omega⟩, hlow, by simpa using hhigh⟩
    | succ k ih =>
      by_cases hearlier : n < yearStart (first + k + 1)
      · rcases ih hearlier with ⟨year, ⟨hfirst, hlast⟩, hyear⟩
        exact ⟨year, ⟨hfirst, by omega⟩, hyear⟩
      · refine ⟨first + k + 1, ⟨by omega, by omega⟩, by omega, ?_⟩
        rwa [Int.natCast_succ, ← Int.add_assoc] at hhigh

end Calendar

namespace Claims

variable {n : Int} {t : Instant} {s : String} {input : TimestampInput} {e : ClaimsError}

/-- A Unix second that is accepted. -/
def InBounds (n : Int) : Prop :=
  minTimestamp ≤ n ∧ n ≤ maxTimestamp

/-- The bounds are the first second of the year 1 and the last of the year 9999. -/
theorem inBounds_iff : InBounds n ↔ Calendar.InYears 1 9999 n := by
  have hmin : Calendar.yearStart 1 = minTimestamp := rfl
  have hmax : Calendar.yearStart (9999 + 1) = maxTimestamp + 1 := rfl
  rw [Calendar.inYears_iff, hmin, hmax, Int.lt_add_one_iff]
  exact Iff.rfl

theorem InBounds.isInt64 (h : InBounds n) : Number.IsInt64 n := by
  have hmin : Number.minInt64 ≤ minTimestamp := by decide
  have hmax : maxTimestamp ≤ Number.maxInt64 := by decide
  exact ⟨Int.le_trans hmin h.1, Int.le_trans h.2 hmax⟩

/-- Dates reach every second within the bounds. -/
theorem InBounds.ofSeconds?_eq (h : InBounds n) : Instant.ofSeconds? n = some (.ofSeconds n) := by
  have hmin : Calendar.yearStart (-262143) ≤ minTimestamp := by decide
  have hmax : maxTimestamp < Calendar.yearStart 262143 := by decide
  exact if_pos ⟨Int.le_trans hmin h.1, Int.lt_of_le_of_lt h.2 hmax⟩

theorem boundedInstant_of_inBounds (h : InBounds n) : boundedInstant n = .ok (.ofSeconds n) := by
  have hbounds : minTimestamp ≤ n ∧ n ≤ maxTimestamp := h
  rw [boundedInstant, if_pos hbounds, h.ofSeconds?_eq]

theorem boundedInstant_of_not_inBounds (h : ¬InBounds n) :
    boundedInstant n = .error (.invalidTimestampValue n) :=
  if_neg h

theorem boundedInstant_eq_ok_iff :
    boundedInstant n = .ok t ↔ InBounds n ∧ Instant.ofSeconds n = t := by
  by_cases h : InBounds n
  · simp [boundedInstant_of_inBounds h, h]
  · simp [boundedInstant_of_not_inBounds h, h]

theorem boundedInstant_eq_error_iff :
    boundedInstant n = .error e ↔ ¬InBounds n ∧ .invalidTimestampValue n = e := by
  by_cases h : InBounds n
  · simp [boundedInstant_of_inBounds h, h]
  · simp [boundedInstant_of_not_inBounds h, h]

/-! ## What a timestamp reads as -/

/-- The Unix second that a timestamp reads as. A text reads as an integer if this has a place in 64
bits. -/
inductive Reads : TimestampInput → Int → Prop
  | zoned (t : Instant) : Reads (.zoned t) t.seconds
  | unzoned (t : Instant) : Reads (.unzoned t) t.seconds
  | seconds (n : Int) : Reads (.seconds n) n
  | text {s : String} {n : Int} (h : Number.IsInteger (Text.trimmed s.toList) n)
    (hfits : Number.IsInt64 n) : Reads (.text s) n

theorem reads_text_iff :
    Reads (.text s) n ↔ Number.IsInteger (Text.trimmed s.toList) n ∧ Number.IsInt64 n := by
  constructor
  · intro h
    cases h with
    | text h hfits => exact ⟨h, hfits⟩
  · rintro ⟨h, hfits⟩
    exact .text h hfits

theorem timestampSeconds_text_eq_ok_iff :
    timestampSeconds (.text s) = .ok n ↔ Reads (.text s) n := by
  rw [reads_text_iff, ← Number.int64?_eq_some_iff]
  simp only [timestampSeconds]
  cases Number.int64? (Text.trimmed s.toList) with
  | none => simp
  | some m => simp

/-- What is truncated from an instant is within its second. -/
theorem timestampSeconds_eq_ok_iff : timestampSeconds input = .ok n ↔ Reads input n := by
  cases input with
  | zoned t =>
    constructor
    · intro h
      obtain rfl : t.seconds = n := Except.ok.inj h
      exact .zoned t
    · intro h
      cases h with
      | zoned => rfl
  | unzoned t =>
    constructor
    · intro h
      obtain rfl : t.seconds = n := Except.ok.inj h
      exact .unzoned t
    · intro h
      cases h with
      | unzoned => rfl
  | seconds m =>
    constructor
    · intro h
      obtain rfl : m = n := Except.ok.inj h
      exact .seconds m
    · intro h
      cases h with
      | seconds => rfl
  -- Only a text has to be read first.
  | text s => exact timestampSeconds_text_eq_ok_iff

theorem timestampSeconds_eq_error_iff :
    timestampSeconds input = .error e ↔
      ∃ s, input = .text s ∧ (∀ n, ¬Reads (.text s) n) ∧ .invalidTimestampString s = e := by
  constructor
  · intro h
    cases input with
    | text s =>
      refine ⟨s, rfl, ?_, ?_⟩
      · intro n hn
        rw [timestampSeconds_text_eq_ok_iff.2 hn] at h
        cases h
      · simp only [timestampSeconds] at h
        cases hread : Number.int64? (Text.trimmed s.toList) with
        | none => simpa [hread] using h
        | some m => simp [hread] at h
    | _ => cases h
  · rintro ⟨s, rfl, hnone, rfl⟩
    have hread : Number.int64? (Text.trimmed s.toList) = none := by
      refine Number.int64?_eq_none_iff.2 fun n hn hfits => hnone n (.text hn hfits)
    simp [timestampSeconds, hread]

theorem timestamp_eq_ok_iff :
    timestamp input = .ok t ↔ ∃ n, Reads input n ∧ InBounds n ∧ Instant.ofSeconds n = t := by
  unfold timestamp
  simp only [bind_eq_ok_iff, timestampSeconds_eq_ok_iff, boundedInstant_eq_ok_iff]

theorem timestamp_eq_error_iff :
    timestamp input = .error e ↔
      (∃ s, input = .text s ∧ (∀ n, ¬Reads (.text s) n) ∧ .invalidTimestampString s = e) ∨
        ∃ n, Reads input n ∧ ¬InBounds n ∧ .invalidTimestampValue n = e := by
  unfold timestamp
  simp only [bind_eq_error_iff, timestampSeconds_eq_ok_iff, timestampSeconds_eq_error_iff,
    boundedInstant_eq_error_iff]

/-- Timestamps that read as the same second get the same verdict. -/
theorem timestamp_of_reads (h : Reads input n) : timestamp input = boundedInstant n := by
  have hread := timestampSeconds_eq_ok_iff.2 h
  rw [timestamp, hread]
  rfl

/-- Which timestamps are accepted, and what is wrong with each of the others. An instant counts as
its second, a number has to be within the bounds, and a text has to be an integer within them. -/
theorem timestamp_accepts_exactly :
    (∀ t : Instant, timestamp (.zoned t) = timestamp (.seconds t.seconds) ∧
      timestamp (.unzoned t) = timestamp (.seconds t.seconds)) ∧
    (∀ n t, timestamp (.seconds n) = .ok t ↔ InBounds n ∧ t = ⟨n, 0⟩) ∧
    (∀ n e, timestamp (.seconds n) = .error e ↔ ¬InBounds n ∧ e = .invalidTimestampValue n) ∧
    (∀ s t, timestamp (.text s) = .ok t ↔
      ∃ n, Number.IsInteger (Text.trimmed s.toList) n ∧ InBounds n ∧ t = ⟨n, 0⟩) ∧
    (∀ s e, timestamp (.text s) = .error e ↔
      (∃ n, Number.IsInteger (Text.trimmed s.toList) n ∧ Number.IsInt64 n ∧ ¬InBounds n ∧
        e = .invalidTimestampValue n) ∨
      (¬∃ n, Number.IsInteger (Text.trimmed s.toList) n ∧ Number.IsInt64 n) ∧
        e = .invalidTimestampString s) := by
  refine ⟨?_, ?_, ?_, ?_, ?_⟩
  · intro t
    have hseconds : timestamp (.seconds t.seconds) = boundedInstant t.seconds :=
      timestamp_of_reads (.seconds t.seconds)
    exact ⟨(timestamp_of_reads (.zoned t)).trans hseconds.symm,
      (timestamp_of_reads (.unzoned t)).trans hseconds.symm⟩
  · intro n t
    rw [timestamp_of_reads (.seconds n), boundedInstant_eq_ok_iff]
    exact and_congr_right fun _ => eq_comm
  · intro n e
    rw [timestamp_of_reads (.seconds n), boundedInstant_eq_error_iff]
    exact and_congr_right fun _ => eq_comm
  · intro s t
    rw [timestamp_eq_ok_iff]
    constructor
    · rintro ⟨n, hread, hbounds, rfl⟩
      exact ⟨n, (reads_text_iff.1 hread).1, hbounds, rfl⟩
    -- The bounds leave no accepted integer outside of 64 bits.
    · rintro ⟨n, hinteger, hbounds, rfl⟩
      exact ⟨n, .text hinteger hbounds.isInt64, hbounds, rfl⟩
  · intro s e
    rw [timestamp_eq_error_iff, or_comm]
    refine or_congr ?_ ?_
    · constructor
      · rintro ⟨n, hread, hbounds, rfl⟩
        rcases reads_text_iff.1 hread with ⟨hinteger, hfits⟩
        exact ⟨n, hinteger, hfits, hbounds, rfl⟩
      · rintro ⟨n, hinteger, hfits, hbounds, rfl⟩
        exact ⟨n, .text hinteger hfits, hbounds, rfl⟩
    · constructor
      · rintro ⟨_, ⟨⟩, hnone, rfl⟩
        refine ⟨?_, rfl⟩
        rintro ⟨n, hinteger, hfits⟩
        exact hnone n (.text hinteger hfits)
      · rintro ⟨hnone, rfl⟩
        exact ⟨s, rfl, fun n hread => hnone ⟨n, reads_text_iff.1 hread⟩, rfl⟩

/-! ## Numbers and their digits -/

/-- A number that is too large for 64 bits with a sign is refused at once, but not in another way
than the other numbers out of bounds. -/
theorem timestampValue_ofInt (n : Int) : timestampValue (Json.ofInt n) = boundedInstant n := by
  by_cases hfits : n ≤ Number.maxInt64
  · have hform : timestampInput (Json.ofInt n) = .ok (.seconds n) := if_pos hfits
    rw [timestampValue, hform]
    exact timestamp_of_reads (.seconds n)
  · have hform : timestampInput (Json.ofInt n) = .error (.invalidTimestampValue n) := if_neg hfits
    have houtside : ¬InBounds n := fun h => hfits h.isInt64.2
    rw [timestampValue, hform, boundedInstant_of_not_inBounds houtside]
    rfl

theorem trimmed_intText (n : Int) :
    Text.trimmed (Number.intText n).toList = Number.signedDigits n := by
  rw [Number.intText, String.toList_ofList]
  exact (Text.isTrimmed_of_forall (Number.isNumberText_signedDigits n).isBlank_eq_false).trimmed_eq

theorem reads_intText_iff {m : Int} :
    Reads (.text (Number.intText n)) m ↔ n = m ∧ Number.IsInt64 n := by
  have hdigits := Number.isInteger_signedDigits n
  rw [reads_text_iff, trimmed_intText]
  constructor
  · rintro ⟨hinteger, hfits⟩
    obtain rfl := hdigits.unique hinteger
    exact ⟨rfl, hfits⟩
  · rintro ⟨rfl, hfits⟩
    exact ⟨hdigits, hfits⟩

theorem timestampValue_intText (h : Number.IsInt64 n) :
    timestampValue (.str (Number.intText n)) = boundedInstant n :=
  timestamp_of_reads (reads_intText_iff.2 ⟨rfl, h⟩)

theorem timestampValue_intText_of_not_isInt64 (h : ¬Number.IsInt64 n) :
    timestampValue (.str (Number.intText n)) = .error (.invalidTimestampString (Number.intText n)) :=
  timestamp_eq_error_iff.2 (.inl ⟨_, rfl, fun _ hread => h (reads_intText_iff.1 hread).2, rfl⟩)

/-- A number and its digits in a text get the same verdict up to the largest integer of 64 bits with
a sign. Beyond it both are refused, but the digits are said not to be an integer. -/
theorem number_and_text_agree_iff {n : Int}
    (h : Number.minInt64 ≤ n ∧ n ≤ Number.maxUInt64) :
    (timestampValue (.str (Number.intText n)) = timestampValue (Json.ofInt n) ↔
      n ≤ Number.maxInt64) ∧
    (Calendar.InYears 1 9999 n → timestampValue (Json.ofInt n) = .ok ⟨n, 0⟩) ∧
    (¬Calendar.InYears 1 9999 n →
      timestampValue (Json.ofInt n) = .error (.invalidTimestampValue n)) ∧
    (Number.maxInt64 < n → timestampValue (.str (Number.intText n)) =
      .error (.invalidTimestampString (Number.intText n))) := by
  have hlarge : Number.maxInt64 < n → timestampValue (.str (Number.intText n)) =
      .error (.invalidTimestampString (Number.intText n)) := by
    intro hn
    exact timestampValue_intText_of_not_isInt64 fun hfits => Int.not_lt.2 hfits.2 hn
  rw [timestampValue_ofInt, ← inBounds_iff]
  refine ⟨⟨?_, ?_⟩, boundedInstant_of_inBounds, boundedInstant_of_not_inBounds, hlarge⟩
  · intro hsame
    refine Int.not_lt.1 fun hn => ?_
    have houtside : ¬InBounds n := fun hbounds => Int.not_lt.2 hbounds.isInt64.2 hn
    rw [hlarge hn, boundedInstant_of_not_inBounds houtside] at hsame
    cases hsame
  · intro hn
    exact timestampValue_intText ⟨h.1, hn⟩

/-- The last second before the year 1 is refused as a number and in digits, for the same reason. -/
theorem sample_number_and_text_agree :
    timestampValue (Json.ofInt (-62135596801)) =
        .error (.invalidTimestampValue (-62135596801)) ∧
      timestampValue (.str "-62135596801") = .error (.invalidTimestampValue (-62135596801)) := by
  have hbounds : Number.minInt64 ≤ -62135596801 ∧ -62135596801 ≤ (Number.maxUInt64 : Int) := by
    decide
  have hdigits : Number.intText (-62135596801) = "-62135596801" := rfl
  have hbefore : ¬Calendar.InYears 1 9999 (-62135596801) := by
    rw [← inBounds_iff]
    exact fun h => absurd h.1 (by decide)
  rcases number_and_text_agree_iff hbounds with ⟨hagree, _, hnumber, _⟩
  have hsame := hagree.2 (by decide)
  rw [hdigits] at hsame
  exact ⟨hnumber hbefore, hsame.trans (hnumber hbefore)⟩

/-- The first number that takes more than 64 bits with a sign is refused as lying out of bounds. Its
digits are refused as being no integer. -/
theorem digits_beyond_int64_unread :
    Number.intText 9223372036854775808 = "9223372036854775808" ∧
      timestampValue (Json.ofInt 9223372036854775808) =
        .error (.invalidTimestampValue 9223372036854775808) ∧
      timestampValue (.str "9223372036854775808") =
        .error (.invalidTimestampString "9223372036854775808") :=
  ⟨rfl, rfl, rfl⟩

end Claims

end BearerAuth
