import BearerAuth.Proofs.KeyStore

/-!
# What a key store replies

Clients of a key store install sets, look keys up and ask for the current set. A store takes one
call at a time, so the calls of all clients form one sequence. The main statement here says what
every reply in such a sequence is, for a store in memory: the set that was installed last is what is
listed and searched, whole and by itself, and two listings are of the same installation exactly when
nothing was installed between them. Stores that refuse every set reply to each call as if it were
the first.
-/

namespace BearerAuth.KeyStore

variable {σ : Type} {store : KeyStore σ} {state : σ} {initial : JwkSet} {requests : List Request}

/-! ## Calls -/

inductive Request where
  | install (set : JwkSet)
  | get (kid : String)
  | list
  deriving DecidableEq, Repr

/-- What a key store replies to a call. -/
inductive Reply where
  | installed (result : Except KeyStoreError Unit)
  | found (result : Except KeyStoreError Jwk)
  | listed (result : Except KeyStoreError InstalledSet)

def serve (store : KeyStore σ) (state : σ) : Request → σ × Reply
  | .install set => ((store.install state set).1, .installed (store.install state set).2)
  | .get kid => (state, .found (store.get state kid))
  | .list => (state, .listed (store.list state))

def run (store : KeyStore σ) (state : σ) : List Request → σ × List Reply
  | [] => (state, [])
  | request :: requests =>
    let (state, reply) := store.serve state request
    let (state, replies) := store.run state requests
    (state, reply :: replies)

def Request.set? : Request → Option JwkSet
  | install set => some set
  | get _ | list => none

/-- The sets that are handed to a store, in order. -/
def storedSets (requests : List Request) : List JwkSet :=
  requests.filterMap Request.set?

/-- The set that a store has to hold after some calls: the last one that was handed to it, or the
one before all calls. -/
def currentSet (initial : JwkSet) (requests : List Request) : JwkSet :=
  (storedSets requests).getLast?.getD initial

/-! ## Runs -/

theorem length_run (store : KeyStore σ) (state : σ) (requests : List Request) :
    (store.run state requests).2.length = requests.length := by
  induction requests generalizing state with
  | nil => rfl
  | cons request requests ih => simp only [run, List.length_cons, ih]

/-- The reply at a place is the one in the state that the calls before it lead to. -/
theorem getElem?_run (store : KeyStore σ) (state : σ) (requests : List Request) (i : Nat) :
    (store.run state requests).2[i]? =
      requests[i]?.map fun request =>
        (store.serve (store.run state (requests.take i)).1 request).2 := by
  induction requests generalizing state i with
  | nil => rfl
  | cons request requests ih =>
    cases i with
    | zero => rfl
    | succ i =>
      simp only [run, List.getElem?_cons_succ, List.take_succ_cons, ih]

/-- A store in memory holds the set that was installed last, and counts the installations. -/
theorem run_memory (installed : InstalledSet) (requests : List Request) :
    (memory.run installed requests).1 =
      ⟨currentSet installed.set requests, installed.number + (storedSets requests).length⟩ := by
  induction requests generalizing installed with
  | nil => rfl
  | cons request requests ih =>
    simp only [run, ih]
    cases request with
    | install set =>
      -- The set is the current one until the next installation.
      have hset : currentSet set requests = currentSet installed.set (.install set :: requests) := by
        simp [currentSet, storedSets, Request.set?, List.getLast?_cons]
      simp only [serve, memory, hset, storedSets, List.filterMap_cons, Request.set?,
        List.length_cons, InstalledSet.mk.injEq, true_and]
      omega
    | get kid => rfl
    | list => rfl

/-! ## Installations between two calls -/

theorem storedSets_take_succ (requests : List Request) (i : Nat) :
    storedSets (requests.take (i + 1)) =
      storedSets (requests.take i) ++ (requests[i]?.bind Request.set?).toList := by
  unfold storedSets
  rw [List.take_add_one, List.filterMap_append]
  cases requests[i]? with
  | none => rfl
  | some request =>
    cases request with
    | install set => rfl
    | get kid => rfl
    | list => rfl

theorem length_storedSets_take_le (requests : List Request) {i j : Nat} (hij : i ≤ j) :
    (storedSets (requests.take i)).length ≤ (storedSets (requests.take j)).length := by
  apply List.Sublist.length_le
  exact (List.take_sublist_take_left hij).filterMap Request.set?

theorem set?_eq_some_iff {request : Request} {set : JwkSet} :
    request.set? = some set ↔ request = .install set := by
  cases request with
  | install other => simp [Request.set?]
  | get kid => simp [Request.set?]
  | list => simp [Request.set?]

/-- As many sets have been stored at two places exactly when none is stored from the first up to the
second. -/
theorem length_storedSets_take_eq_iff {i j : Nat} (hij : i ≤ j) :
    (storedSets (requests.take i)).length = (storedSets (requests.take j)).length ↔
      ∀ k set, i ≤ k → k < j → requests[k]? ≠ some (.install set) := by
  induction hij with
  | refl =>
    refine ⟨fun _ k set hik hki => ?_, fun _ => rfl⟩
    exact absurd hki (Nat.not_lt.2 hik)
  | @step j hij ih =>
    rw [storedSets_take_succ, List.length_append]
    cases hstored : requests[j]?.bind Request.set? with
    | none =>
      have hnone : ∀ set, requests[j]? ≠ some (.install set) := by
        intro set hset
        simp [hset, Request.set?] at hstored
      rw [Option.toList_none, List.length_nil, Nat.add_zero, ih]
      constructor
      · intro h k set hik hkj
        rcases Nat.lt_succ_iff_lt_or_eq.1 hkj with hlt | rfl
        · exact h k set hik hlt
        · exact hnone set
      · intro h k set hik hkj
        exact h k set hik (Nat.lt_succ_of_lt hkj)
    | some set =>
      rcases Option.bind_eq_some_iff.1 hstored with ⟨request, hrequest, hset⟩
      obtain rfl := set?_eq_some_iff.1 hset
      -- The count never goes back, so it cannot be what it was once a set has been added.
      have hle := length_storedSets_take_le requests hij
      constructor
      · intro h
        rw [Option.toList_some, List.length_singleton] at h
        omega
      · intro h
        exact absurd hrequest (h j set hij (Nat.lt_succ_self j))

/-! ## Stores that refuse -/

/-- The store refuses every set and stays as it is. -/
def Refuses (store : KeyStore σ) (state : σ) : Prop :=
  ∀ set, ∃ e, store.install state set = (state, .error e)

theorem Refuses.serve_eq (h : store.Refuses state) (request : Request) :
    (store.serve state request).1 = state := by
  cases request with
  | install set =>
    rcases h set with ⟨e, he⟩
    rw [serve, he]
  | get kid => rfl
  | list => rfl

/-- A store that refuses every set takes each call as if it were the first. -/
theorem Refuses.run_eq (h : store.Refuses state) (requests : List Request) :
    store.run state requests =
      (state, requests.map fun request => (store.serve state request).2) := by
  induction requests with
  | nil => rfl
  | cons request requests ih => simp only [run, h.serve_eq, ih, List.map_cons]

/-- The reply of a store that refuses every set with an error, lists what is given and looks keys up
there. -/
def readOnlyReply (e : KeyStoreError) (listing : Except KeyStoreError InstalledSet) :
    Request → Reply
  | .install _ => .installed (.error e)
  | .get kid => .found (lookupListed listing kid)
  | .list => .listed listing

theorem run_readOnly {e : KeyStoreError}
    (hinstall : ∀ set, store.install state set = (state, .error e))
    (hget : store.get state = lookupListed (store.list state)) (requests : List Request) :
    (store.run state requests).2 = requests.map (readOnlyReply e (store.list state)) := by
  have hrefuses : store.Refuses state := fun set => ⟨e, hinstall set⟩
  rw [hrefuses.run_eq]
  apply List.map_congr_left
  intro request _
  cases request with
  | install set => rw [serve, hinstall, readOnlyReply]
  | get kid => rw [serve, hget, readOnlyReply]
  | list => rfl

theorem run_fixed (set : JwkSet) (requests : List Request) :
    ((fixed set).run () requests).2 =
      requests.map (readOnlyReply (.unavailable "read-only") (.ok ⟨set, 0⟩)) :=
  run_readOnly (fun _ => rfl) rfl requests

theorem run_unreachable (reason : String) (requests : List Request) :
    ((unreachable reason).run () requests).2 =
      requests.map (readOnlyReply (.unavailable reason) (.error (.unavailable reason))) :=
  run_readOnly (fun _ => rfl) rfl requests

/-! ## Replies of a store in memory -/

/-- A store in memory replies out of the set that is the current one at the place of the call. -/
theorem reply_memory {i : Nat} {request : Request} (h : requests[i]? = some request) :
    (memory.run (.initial initial) requests).2[i]? =
      some (memory.serve ⟨currentSet initial (requests.take i),
        (storedSets (requests.take i)).length⟩ request).2 := by
  rw [getElem?_run, h, run_memory]
  simp [InstalledSet.initial]

theorem eq_list_of_reply {i : Nat} {listing : InstalledSet}
    (h : (memory.run (.initial initial) requests).2[i]? = some (.listed (.ok listing))) :
    requests[i]? = some .list ∧
      listing = ⟨currentSet initial (requests.take i),
        (storedSets (requests.take i)).length⟩ := by
  cases hrequest : requests[i]? with
  | none =>
    rw [getElem?_run, hrequest] at h
    cases h
  | some request =>
    rw [reply_memory hrequest] at h
    cases request with
    | install set => cases h
    | get kid => cases h
    | list => exact ⟨rfl, by cases h; rfl⟩

/-- What is replied to any sequence of calls. A store in memory takes every set. It lists the one
that was installed last before, or the first of all, and two listings are of the same installation
exactly when nothing is installed between them, whatever the sets are. It looks keys up in that set:
the first one with the key id is found, and the key id is denied when there is none. Where the calls
have led to, its own lookup and the one through the listing agree. A store that refuses every set
takes each call as if it were the first, so that its listings and lookups are the same all along. -/
theorem stores_reply_from_current_set (initial : JwkSet) (requests : List Request) :
    let final := memory.run (.initial initial) requests
    let replies : List Reply := final.2
    let setAt := fun i => currentSet initial (requests.take i)
    replies.length = requests.length ∧
      (∀ (i : Nat) set, requests[i]? = some (.install set) →
        replies[i]? = some (.installed (.ok ()))) ∧
      (∀ i : Nat, requests[i]? = some .list →
        ∃ listing, replies[i]? = some (.listed (.ok listing)) ∧ listing.set = setAt i) ∧
      (∀ (i j : Nat) a b, i ≤ j → replies[i]? = some (.listed (.ok a)) →
        replies[j]? = some (.listed (.ok b)) →
          (a.number = b.number ↔
            ∀ k set, i < k → k < j → requests[k]? ≠ some (.install set))) ∧
      (∀ (i : Nat) kid, requests[i]? = some (.get kid) →
        ∃ result, replies[i]? = some (.found result) ∧
          (∀ key, result = .ok key ↔ (setAt i).HasFirst kid key) ∧
          ∀ e, result = .error e ↔ ¬(setAt i).HasKeyId kid ∧ e = .keyNotFound kid) ∧
      (∀ kid, memory.get final.1 kid = lookupListed (memory.list final.1) kid) ∧
      (∀ (σ : Type) (store : KeyStore σ) (state : σ), store.Refuses state →
        store.run state requests =
          (state, requests.map fun request => (store.serve state request).2)) ∧
      ∀ set reason,
        ((fixed set).run () requests).2 =
            requests.map (readOnlyReply (.unavailable "read-only") (.ok ⟨set, 0⟩)) ∧
          ((unreachable reason).run () requests).2 =
            requests.map (readOnlyReply (.unavailable reason) (.error (.unavailable reason))) := by
  intro final replies setAt
  refine ⟨length_run _ _ _, ?_, ?_, ?_, ?_, fun _ => rfl,
    fun _ store state hrefuses => hrefuses.run_eq requests, ?_⟩
  · intro i set hrequest
    exact reply_memory hrequest
  · intro i hrequest
    exact ⟨_, reply_memory hrequest, rfl⟩
  · intro i j a b hij ha hb
    rcases eq_list_of_reply ha with ⟨hlist, rfl⟩
    rcases eq_list_of_reply hb with ⟨_, rfl⟩
    rw [length_storedSets_take_eq_iff hij]
    -- The call at the first of the two places is a listing, so nothing is installed there.
    constructor
    · intro h k set hik hkj
      exact h k set (Nat.le_of_lt hik) hkj
    · intro h k set hik hkj
      rcases Nat.lt_or_eq_of_le hik with hlt | rfl
      · exact h k set hlt hkj
      · rw [hlist]
        exact fun hsame => by cases hsame
  · intro i kid hrequest
    exact ⟨_, reply_memory hrequest, fun _ => JwkSet.lookup_eq_ok_iff,
      fun _ => JwkSet.lookup_eq_error_iff⟩
  · intro set reason
    exact ⟨run_fixed set requests, run_unreachable reason requests⟩

end BearerAuth.KeyStore

namespace BearerAuth

namespace Sample

def secret (kid : Option String) (k : String) : Jwk :=
  ⟨none, none, none, kid, none, none, none, none, .octets k⟩

/-- A set with a key without an id and two keys with the same. -/
def secrets : JwkSet :=
  ⟨[secret none "a", secret (some "k") "b", secret (some "k") "c"]⟩

/-- The set is listed, looked up in and listed again, and is then replaced by an equal one. -/
def calls : List KeyStore.Request :=
  [.install secrets, .list, .get "k", .list, .install secrets, .list]

end Sample

/-- The two listings before the second installation are of the same set, the third is of an equal
one, and the first of the two keys is found. -/
theorem KeyStore.sample_sets_told_apart :
    let replies : List Reply := (memory.run (.initial .empty) Sample.calls).2
    (∃ a b c, replies[1]? = some (.listed (.ok a)) ∧ replies[3]? = some (.listed (.ok b)) ∧
      replies[5]? = some (.listed (.ok c)) ∧ a.number = b.number ∧ b.number ≠ c.number ∧
        b.set = c.set) ∧
      replies[2]? = some (.found (.ok (Sample.secret (some "k") "b"))) := by
  intro replies
  obtain ⟨_, _, hlists, hsame, hfinds, _⟩ := stores_reply_from_current_set .empty Sample.calls
  obtain ⟨a, ha, _⟩ := hlists 1 rfl
  obtain ⟨b, hb, hbset⟩ := hlists 3 rfl
  obtain ⟨c, hc, hcset⟩ := hlists 5 rfl
  refine ⟨⟨a, b, c, ha, hb, hc, ?_, ?_, ?_⟩, ?_⟩
  · apply (hsame 1 3 a b (by decide) ha hb).2
    intro k set hlow hhigh
    obtain rfl : k = 2 := by omega
    exact fun h => by cases h
  · intro hnumber
    exact (hsame 3 5 b c (by decide) hb hc).1 hnumber 4 Sample.secrets (by decide) (by decide) rfl
  · rw [hbset, hcset]
    rfl
  · obtain ⟨result, hresult, hok, _⟩ := hfinds 2 "k" rfl
    obtain rfl : result = .ok (Sample.secret (some "k") "b") := by
      apply (hok _).2
      exact ⟨rfl, [Sample.secret none "a"], [Sample.secret (some "k") "c"], rfl, by decide⟩
    exact hresult

end BearerAuth
