import NtfsLogfile.Validate

/-!
# The client lists

`ntfs_log_client_array_is_consistent` walks the free list and then the in-use list with one
count of records left, started at `log_clients` and not reset by the `goto check_list`. The walk
is structural on that count, so it visits at most `log_clients` records in all.
`ntfsLogClientArrayIsConsistent_iff` states what it accepts in terms of the two lists as index
sequences.
-/

namespace NtfsLogfile

open RestartArea

/-- `F` is the walk along `next` from `start`: the indices met before `LOGFILE_NO_CLIENT`. -/
def ListFrom (next : Nat → Nat) : Nat → List Nat → Prop
  | start, [] => start = logfileNoClient
  | start, i :: rest => i = start ∧ start ≠ logfileNoClient ∧ ListFrom next (next i) rest

theorem listFrom_of_eq {next : Nat → Nat} {F : List Nat} :
    ListFrom next logfileNoClient F ↔ F = [] := by
  cases F <;> simp [ListFrom]

/-- A walk from a record starts with it and goes on from its `next_client`. -/
theorem exists_listFrom_of_ne {next : Nat → Nat} {idx : Nat} (hidx : idx ≠ logfileNoClient)
    {P : List Nat → Prop} :
    (∃ F, ListFrom next idx F ∧ P F) ↔ ∃ G, ListFrom next (next idx) G ∧ P (idx :: G) := by
  constructor
  · rintro ⟨_ | ⟨i, G⟩, hF, hP⟩
    · exact absurd hF hidx
    · obtain ⟨rfl, -, hG⟩ := hF
      exact ⟨G, hG, hP⟩
  · rintro ⟨G, hG, hP⟩
    exact ⟨idx :: G, ⟨rfl, hidx, hG⟩, hP⟩

/-- One run of the `check_list` loop, exactly: it succeeds when the list from `idx` is a walk
of at most `nrClients` in-range indices whose head has no predecessor (when the run starts at
the head), and it leaves the count less the walk's length. -/
theorem checkList_eq_some_iff (prev next : Nat → Nat) (logClients : Nat) :
    ∀ nrClients idx idxIsFirst r,
      checkList prev next logClients nrClients idx idxIsFirst = some r ↔
        ∃ F, ListFrom next idx F ∧ F.length ≤ nrClients ∧ nrClients - F.length = r ∧
          (∀ i ∈ F, i < logClients) ∧
          (idxIsFirst = true → ∀ i ∈ F.head?, prev i = logfileNoClient) := by
  intro nrClients
  induction nrClients with
  | zero =>
    intro idx idxIsFirst r
    by_cases hidx : idx = logfileNoClient
    · subst hidx
      simp [checkList, listFrom_of_eq]
    · rw [exists_listFrom_of_ne hidx]
      simp [checkList, hidx]
  | succ n ih =>
    intro idx idxIsFirst r
    by_cases hidx : idx = logfileNoClient
    · subst hidx
      simp [checkList, listFrom_of_eq]
    · rw [checkList, if_neg hidx, exists_listFrom_of_ne hidx]
      split_ifs with hlc hfirst
      · simp [Nat.not_lt.mpr hlc]
      · simp [hfirst.1, hfirst.2]
      · rw [ih]
        simp only [not_and, not_not] at hfirst
        simp [Nat.lt_of_not_le hlc, eq_true hfirst]

/-- A walk ends where `next`, iterated over its length, reaches the end of the list. -/
theorem ListFrom.iterate_eq {next : Nat → Nat} :
    ∀ {start : Nat} {F : List Nat}, ListFrom next start F → next^[F.length] start = logfileNoClient
  | _, [], h => h
  | _, _ :: _, ⟨rfl, _, h⟩ => by
    rw [List.length_cons, Function.iterate_succ_apply]
    exact h.iterate_eq

theorem ntfsLogClientArrayIsConsistent_eq_ok_iff (rp : Bytes) :
    ntfsLogClientArrayIsConsistent rp = .ok () ↔ ∃ r₁ r₂,
      checkList (clientPrev rp) (clientNext rp) (logClients (restartArea rp))
        (logClients (restartArea rp)) (clientFreeList (restartArea rp)) true = some r₁ ∧
      checkList (clientPrev rp) (clientNext rp) (logClients (restartArea rp)) r₁
        (clientInUseList (restartArea rp)) true = some r₂ := by
  unfold ntfsLogClientArrayIsConsistent
  dsimp only
  split
  · simp_all
  · split <;> simp_all

/-- The check accepts iff both lists are walks of in-range indices, together at most
`log_clients` long, each starting at a record without a predecessor. -/
theorem ntfsLogClientArrayIsConsistent_eq_ok_iff_walks (rp : Bytes) :
    ntfsLogClientArrayIsConsistent rp = .ok () ↔
      ∃ F U, ListFrom (clientNext rp) (clientFreeList (restartArea rp)) F ∧
        ListFrom (clientNext rp) (clientInUseList (restartArea rp)) U ∧
        (∀ i ∈ F ++ U, i < logClients (restartArea rp)) ∧
        F.length + U.length ≤ logClients (restartArea rp) ∧
        (∀ i ∈ F.head?, clientPrev rp i = logfileNoClient) ∧
        (∀ i ∈ U.head?, clientPrev rp i = logfileNoClient) := by
  rw [ntfsLogClientArrayIsConsistent_eq_ok_iff]
  simp only [checkList_eq_some_iff]
  constructor
  · rintro ⟨_, _, ⟨F, hF, hFlen, rfl, hFlt, hFh⟩, ⟨U, hU, hUlen, rfl, hUlt, hUh⟩⟩
    refine ⟨F, U, hF, hU, ?_, by omega, hFh trivial, hUh trivial⟩
    simp only [List.mem_append]
    rintro i (hi | hi)
    exacts [hFlt i hi, hUlt i hi]
  · rintro ⟨F, U, hF, hU, hlt, hlen, hFh, hUh⟩
    exact ⟨_, _, ⟨F, hF, by omega, rfl, fun i hi => hlt i (by simp [hi]), fun _ => hFh⟩,
      ⟨U, hU, by omega, rfl, fun i hi => hlt i (by simp [hi]), fun _ => hUh⟩⟩

/-- **The client list check, exactly.** It accepts iff the free list and the in-use list are
walks `F` and `U` of in-range indices, together at most `log_clients` long, each starting at a
record without a predecessor; so it rejects every list that never reaches its end, whether it
cycles through its head or through its middle. -/
theorem ntfsLogClientArrayIsConsistent_iff (rp : Bytes) :
    (ntfsLogClientArrayIsConsistent rp = .ok () ↔
      ∃ F U, ListFrom (clientNext rp) (clientFreeList (restartArea rp)) F ∧
        ListFrom (clientNext rp) (clientInUseList (restartArea rp)) U ∧
        (∀ i ∈ F ++ U, i < logClients (restartArea rp)) ∧
        F.length + U.length ≤ logClients (restartArea rp) ∧
        (∀ i ∈ F.head?, clientPrev rp i = logfileNoClient) ∧
        (∀ i ∈ U.head?, clientPrev rp i = logfileNoClient)) ∧
    ((∀ n, (clientNext rp)^[n] (clientFreeList (restartArea rp)) ≠ logfileNoClient) ∨
        (∀ n, (clientNext rp)^[n] (clientInUseList (restartArea rp)) ≠ logfileNoClient) →
      ntfsLogClientArrayIsConsistent rp ≠ .ok ()) := by
  refine ⟨ntfsLogClientArrayIsConsistent_eq_ok_iff_walks rp, fun hcyc hok => ?_⟩
  obtain ⟨F, U, hF, hU, -⟩ := (ntfsLogClientArrayIsConsistent_eq_ok_iff_walks rp).mp hok
  rcases hcyc with hcyc | hcyc
  exacts [hcyc _ hF.iterate_eq, hcyc _ hU.iterate_eq]

end NtfsLogfile
