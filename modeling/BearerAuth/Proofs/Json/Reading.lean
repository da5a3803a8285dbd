import BearerAuth.Proofs.Json.Parser
import BearerAuth.Proofs.Result

/-!
# What is read as a value

A text is read as a value exactly when its tokens are those of the value, nothing before them and
nothing after, and the value nests no deeper than a reader follows. That the machine reads such a
text is one half. For the other half, the place of the machine and its stack tell which tokens it
has taken, so a run that ends with a complete value has taken the tokens of this value.
-/

namespace BearerAuth.Json

variable {place place' : Place} {stack stack' : List Frame} {t : Token} {ts rest : List Token}
  {v : Json}

/-! ## Tokens up to the end of a container -/

/-- The tokens of an item that another one follows. -/
def earlierItem (v : Json) : List Token :=
  writtenTokens v ++ [.comma]

/-- The tokens of a key, up to its value. -/
def keyTokens (key : String) : List Token :=
  [.str key, .colon]

/-- The tokens of a member that another one follows. -/
def earlierMember (m : String × Json) : List Token :=
  keyTokens m.1 ++ writtenTokens m.2 ++ [.comma]

theorem writtenTokens_append_itemTokens (items : List Json) (v w : Json) :
    writtenTokens v ++ itemTokens (items ++ [w]) =
      (v :: items).flatMap earlierItem ++ writtenTokens w ++ [.closeArray] := by
  induction items generalizing v with
  | nil => simp [itemTokens, earlierItem]
  | cons u items ih =>
    rw [List.cons_append, itemTokens, ih u, List.flatMap_cons (x := v), earlierItem]
    simp only [List.append_assoc, List.cons_append, List.nil_append]

theorem writtenTokens_arr_concat (items : List Json) (v : Json) :
    writtenTokens (.arr (items ++ [v])) =
      .openArray :: (items.flatMap earlierItem ++ writtenTokens v ++ [.closeArray]) := by
  cases items with
  | nil => rfl
  | cons u items =>
    rw [List.cons_append, writtenTokens, writtenTokens_append_itemTokens]

theorem memberTokens_concat (members : Members) (m n : String × Json) :
    keyTokens m.1 ++ (writtenTokens m.2 ++ memberTokens (members ++ [n])) =
      (m :: members).flatMap earlierMember ++ keyTokens n.1 ++ writtenTokens n.2 ++
        [.closeObject] := by
  induction members generalizing m with
  | nil => simp [memberTokens, earlierMember, keyTokens]
  | cons u members ih =>
    rcases u with ⟨k, u⟩
    have hrest := ih (k, u)
    rw [List.cons_append, memberTokens, List.flatMap_cons (x := m), earlierMember]
    simp only [keyTokens, List.append_assoc, List.cons_append, List.nil_append] at hrest ⊢
    rw [hrest]

theorem writtenTokens_obj_concat (members : Members) (m : String × Json) :
    writtenTokens (.obj (members ++ [m])) =
      .openObject :: (members.flatMap earlierMember ++ keyTokens m.1 ++ writtenTokens m.2 ++
        [.closeObject]) := by
  cases members with
  | nil => rfl
  | cons u members =>
    rw [← memberTokens_concat]
    rfl

/-! ## What the machine has taken -/

/-- The tokens that open a container and lead to the next thing in it. -/
def Frame.opening : Frame → List Token
  | .array items => .openArray :: items.reverse.flatMap earlierItem
  | .object members key =>
    .openObject :: (members.reverse.flatMap earlierMember ++ key.toList.flatMap keyTokens)

/-- The values that a container holds so far. -/
def Frame.values : Frame → List Json
  | .array items => items
  | .object members _ => members.map Prod.snd

/-- The levels that are left inside open containers. -/
def levelsLeft (stack : List Frame) : Nat :=
  maxDepth - stack.length

theorem levelsLeft_eq_succ (h : stack.length < maxDepth) (f : Frame) :
    levelsLeft stack = levelsLeft (f :: stack) + 1 := by
  rw [levelsLeft, levelsLeft, List.length_cons]
  omega

/-- The containers are open after these tokens, and no value in them nests too deep. -/
inductive Opened : List Frame → List Token → Prop
  | outside : Opened [] []
  | frame {stack : List Frame} {ts : List Token} {f : Frame} (h : Opened stack ts)
    (hroom : stack.length < maxDepth)
    (hvalues : ∀ v ∈ f.values, NestsWithin (levelsLeft (f :: stack)) v) :
    Opened (f :: stack) (ts ++ f.opening)

/-- The machine stands here after these tokens. -/
inductive Reached : Place → List Frame → List Token → Prop
  | value {stack : List Frame} {ts : List Token} (h : Opened stack ts) : Reached .value stack ts
  | firstItem {stack : List Frame} {ts : List Token} (h : Opened (.array [] :: stack) ts) :
    Reached .firstItem (.array [] :: stack) ts
  | firstKey {stack : List Frame} {ts : List Token} (h : Opened (.object [] none :: stack) ts) :
    Reached .firstKey (.object [] none :: stack) ts
  | key {members : Members} {stack : List Frame} {ts : List Token}
    (h : Opened (.object members none :: stack) ts) :
    Reached .key (.object members none :: stack) ts
  | colon {stack : List Frame} {ts : List Token} (h : Opened stack (ts ++ [.colon])) :
    Reached .colon stack ts
  | after {stack : List Frame} {ts : List Token} {v : Json} (h : Opened stack ts)
    (hv : NestsWithin (levelsLeft stack) v) :
    Reached (.after v) stack (ts ++ writtenTokens v)

/-- An object waits for a key, and the key is taken. -/
theorem Opened.takeKey {members : Members} {key : String}
    (h : Opened (.object members none :: stack) ts) :
    Opened (.object members (some key) :: stack) (ts ++ [.str key] ++ [.colon]) := by
  cases h with
  | @frame _ ts _ h hroom hvalues =>
    have hkeyed : Opened (.object members (some key) :: stack)
        (ts ++ Frame.opening (.object members (some key))) := .frame h hroom hvalues
    simpa [Frame.opening, keyTokens] using hkeyed

theorem Opened.reached_scalar (h : Opened stack ts) (ht : t.scalar? = some v) :
    Reached (.after v) stack (ts ++ [t]) := by
  have hv : writtenTokens v = [t] ∧ ∀ levels, NestsWithin levels v := by
    cases t with
    | null => cases ht; exact ⟨rfl, fun _ => .null⟩
    | bool b => cases ht; exact ⟨rfl, fun _ => .bool b⟩
    | num n => cases ht; exact ⟨rfl, fun _ => .num n⟩
    | str s => cases ht; exact ⟨rfl, fun _ => .str s⟩
    | _ => cases ht
  rw [← hv.1]
  exact .after h (hv.2 _)

theorem Opened.reached_startValue (h : Opened stack ts)
    (hstep : startValue stack t = some (place', stack')) : Reached place' stack' (ts ++ [t]) := by
  unfold startValue at hstep
  cases hscalar : t.scalar? with
  | some v =>
    rw [hscalar] at hstep
    cases hstep
    exact h.reached_scalar hscalar
  | none =>
    rw [hscalar] at hstep
    cases t with
    | openArray =>
      rcases Option.ite_none_right_eq_some.1 hstep with ⟨hroom, hnext⟩
      cases hnext
      exact .firstItem (.frame h hroom (by simp [Frame.values]))
    | openObject =>
      rcases Option.ite_none_right_eq_some.1 hstep with ⟨hroom, hnext⟩
      cases hnext
      exact .firstKey (.frame h hroom (by simp [Frame.values]))
    | _ => cases hstep

/-- After an item comes another one or the end of the array. -/
theorem Opened.reached_afterItem {items : List Json} (h : Opened (.array items :: stack) ts)
    (hv : NestsWithin (levelsLeft (.array items :: stack)) v)
    (hstep : closeOrContinue v (.array items) stack t = some (place', stack')) :
    Reached place' stack' (ts ++ writtenTokens v ++ [t]) := by
  cases h with
  | @frame _ ts _ h hroom hvalues =>
    have hitems : ∀ w ∈ v :: items, NestsWithin (levelsLeft (.array items :: stack)) w :=
      List.forall_mem_cons.2 ⟨hv, hvalues⟩
    cases t with
    | comma =>
      cases hstep
      have hnext : Opened (.array (v :: items) :: stack)
          (ts ++ Frame.opening (.array (v :: items))) := .frame h hroom hitems
      simpa [Frame.opening, earlierItem] using Reached.value hnext
    | closeArray =>
      cases hstep
      -- The array itself takes up the level that its items did not have.
      have harr : NestsWithin (levelsLeft stack) (.arr (v :: items).reverse) := by
        rw [levelsLeft_eq_succ hroom (.array items)]
        exact .arr fun w hw => hitems w (List.mem_reverse.1 hw)
      have hclosed := Reached.after h harr
      rw [List.reverse_cons, writtenTokens_arr_concat] at hclosed
      simpa [Frame.opening] using hclosed
    | _ => cases hstep

/-- After a member comes another one or the end of the object. -/
theorem Opened.reached_afterMember {members : Members} {key : Option String}
    (h : Opened (.object members key :: stack) ts)
    (hv : NestsWithin (levelsLeft (.object members key :: stack)) v)
    (hstep : closeOrContinue v (.object members key) stack t = some (place', stack')) :
    Reached place' stack' (ts ++ writtenTokens v ++ [t]) := by
  cases key with
  | none => cases t with
    | _ => cases hstep
  | some k =>
    cases h with
    | @frame _ ts _ h hroom hvalues =>
      have hmembers : ∀ m ∈ (k, v) :: members,
          NestsWithin (levelsLeft (.object members (some k) :: stack)) m.2 :=
        List.forall_mem_cons.2 ⟨hv, fun m hm => hvalues _ (List.mem_map_of_mem hm)⟩
      -- A comma keeps the object open for the next key, a brace closes it.
      cases t with
      | comma =>
        cases hstep
        have hnext : Opened (.object ((k, v) :: members) none :: stack)
            (ts ++ Frame.opening (.object ((k, v) :: members) none)) :=
          .frame h hroom (List.forall_mem_map.2 hmembers)
        simpa [Frame.opening, earlierMember] using Reached.key hnext
      | closeObject =>
        cases hstep
        have hobj : NestsWithin (levelsLeft stack) (.obj ((k, v) :: members).reverse) := by
          rw [levelsLeft_eq_succ hroom (.object members (some k))]
          exact .obj fun m hm => hmembers m (List.mem_reverse.1 hm)
        have hclosed := Reached.after h hobj
        rw [List.reverse_cons, writtenTokens_obj_concat] at hclosed
        simpa [Frame.opening] using hclosed
      | _ => cases hstep

/-- One step of the machine takes one token. -/
theorem Reached.advance (h : Reached place stack ts)
    (hstep : Json.advance place stack t = some (place', stack')) :
    Reached place' stack' (ts ++ [t]) := by
  cases h with
  | value h => exact h.reached_startValue hstep
  | firstItem h =>
    -- An array may end before its first item; any other token starts this item.
    by_cases ht : t = .closeArray
    · subst ht
      cases hstep
      cases h with
      | frame h hroom _ =>
        have hempty : NestsWithin (levelsLeft stack') (.arr []) := by
          rw [levelsLeft_eq_succ hroom (.array [])]
          exact .arr (List.forall_mem_nil _)
        simpa [Frame.opening, writtenTokens] using Reached.after h hempty
    · rw [Place.IsStart.advance_eq (.inr rfl) ht] at hstep
      exact h.reached_startValue hstep
  | firstKey h =>
    cases t with
    | closeObject =>
      cases hstep
      cases h with
      | frame h hroom _ =>
        have hempty : NestsWithin (levelsLeft stack') (.obj []) := by
          rw [levelsLeft_eq_succ hroom (.object [] none)]
          exact .obj (List.forall_mem_nil _)
        simpa [Frame.opening, writtenTokens] using Reached.after h hempty
    | str key =>
      cases hstep
      exact .colon h.takeKey
    | _ => cases hstep
  | key h =>
    cases t with
    | str key =>
      cases hstep
      exact .colon h.takeKey
    | _ => cases hstep
  | colon h =>
    cases t with
    | colon =>
      cases hstep
      exact .value h
    | _ => cases hstep
  | @after stack ts v h hv =>
    cases stack with
    | nil => cases hstep
    | cons f stack => cases f with
      | array items => exact h.reached_afterItem hv hstep
      | object members key => exact h.reached_afterMember hv hstep

theorem parseFrom_cons_of_none (h : advance place stack t = none) :
    parseFrom place stack (t :: ts) ≠ .ok v := by
  intro hrun
  cases place with
  | after w =>
    cases stack with
    | nil => cases hrun
    | cons f stack => simp [parseFrom, h] at hrun
  | _ => simp [parseFrom, h] at hrun

/-- A run that ends with a value has taken the tokens of this value. -/
theorem Reached.of_parseFrom (h : Reached place stack ts)
    (hrun : parseFrom place stack rest = .ok v) :
    ts ++ rest = writtenTokens v ∧ NestsWithin maxDepth v := by
  induction rest generalizing place stack ts with
  | nil =>
    -- A run is over only after a complete value outside every container.
    cases h with
    | @after stack ts w h hw =>
      cases stack with
      | nil =>
        cases h
        cases hrun
        exact ⟨List.append_nil _, hw⟩
      | cons f stack => cases hrun
    | _ => cases hrun
  | cons t rest ih =>
    cases hadvance : Json.advance place stack t with
    | none => exact absurd hrun (parseFrom_cons_of_none hadvance)
    | some next =>
      rw [parseFrom_cons hadvance] at hrun
      simpa using ih (h.advance hadvance) hrun

/-- A text is read as a value exactly when its tokens are those of the value and no others, and the
value nests no deeper than a reader follows. -/
theorem parse?_eq_some_iff {cs : List Char} :
    parse? cs = some v ↔ tokens cs = writtenTokens v ∧ NestsWithin maxDepth v := by
  rw [parse?, toOption_eq_some_iff, parse]
  constructor
  · intro h
    exact (Reached.value .outside).of_parseFrom h
  · rintro ⟨htokens, hnests⟩
    rw [htokens]
    exact hnests.parseFrom_writtenTokens

end BearerAuth.Json
