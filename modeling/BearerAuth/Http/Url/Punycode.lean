/-!
# Punycode

A label with characters beyond ASCII is written in ASCII: the ASCII characters come first, then the
places of the others as differences. A difference is a number of variable length in base 36 whose
digit thresholds adapt to the differences before it.
-/

namespace BearerAuth.Http.Punycode

def digit (n : Nat) : Char :=
  if n < 26 then Char.ofNat (97 + n) else Char.ofNat (22 + n)

/-- The threshold of the digit at place `k`. -/
def threshold (k bias : Nat) : Nat :=
  if k ≤ bias + 1 then 1 else if bias + 26 ≤ k then 26 else k - bias

theorem one_le_threshold (k bias : Nat) : 1 ≤ threshold k bias := by
  unfold threshold
  split
  · exact Nat.le_refl 1
  · split <;> omega

/-- Divides a difference down to the range of the bias. -/
def scaleDown (delta k : Nat) : Nat × Nat :=
  if 455 < delta then scaleDown (delta / 35) (k + 36) else (delta, k)
termination_by delta

/-- The bias after a difference, when `count` characters have been written. -/
def adapt (delta count : Nat) (first : Bool) : Nat :=
  let delta := if first then delta / 700 else delta / 2
  let (delta, k) := scaleDown (delta + delta / count) 0
  k + 36 * delta / (delta + 38)

/-- The digits of a difference from place `k` on. -/
def digits (bias k q : Nat) : List Char :=
  let t := threshold k bias
  if q < t then [digit q]
  else digit (t + (q - t) % (36 - t)) :: digits bias (k + 36) ((q - t) / (36 - t))
termination_by q
decreasing_by
  have h := one_le_threshold k bias
  exact Nat.lt_of_le_of_lt (Nat.div_le_self _ _) (by omega)

structure Written where
  /-- The digits so far. -/
  text : List Char
  /-- The difference that is being counted. -/
  delta : Nat
  /-- The current bias. -/
  bias : Nat
  /-- How many characters have been written. -/
  count : Nat

/-- Passes one character of the label while code point `n` is being written. -/
def pass (basic n : Nat) (w : Written) (c : Char) : Written :=
  if c.toNat < n then { w with delta := w.delta + 1 }
  else if c.toNat = n then
    { text := w.text ++ digits w.bias 36 w.delta, delta := 0,
      bias := adapt w.delta (w.count + 1) (w.count == basic), count := w.count + 1 }
  else w

/-- Writes the code points, which come in order, each at all its places. `from` is the first code
point that has not been passed. -/
def writeCodes (label : List Char) (basic : Nat) : List Nat → Nat → Written → List Char
  | [], _, w => w.text
  | n :: rest, first, w =>
    let w := { w with delta := w.delta + (n - first) * (w.count + 1) }
    let w := label.foldl (pass basic n) w
    writeCodes label basic rest (n + 1) { w with delta := w.delta + 1 }

/-- The code points beyond ASCII of a label, in order and each once. -/
def codes (label : List Char) : List Nat :=
  ((label.map Char.toNat).filter (128 ≤ ·)).mergeSort.eraseReps

def encode (label : List Char) : List Char :=
  let basic := label.filter fun c => c.toNat < 128
  let lead := if basic.isEmpty then [] else basic ++ ['-']
  lead ++ writeCodes label basic.length (codes label) 128 ⟨[], 0, 72, basic.length⟩

end BearerAuth.Http.Punycode
