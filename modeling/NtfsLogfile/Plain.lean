import NtfsLogfile.Proof.Check

/-!
# The check as a plain function

What `ntfs_logfile_check` computes when no collaborator fails, stated without the means the code
needs to compute it. The offsets are a list: `0` and every `NTFS_BLOCK_SIZE · 2^k` below the
size, the places where a restart page header can start (`scanOffsets`). A block is read from the
file itself, with no mapped page kept between passes and no position arithmetic. The loader is a
function of the file (`loadPlain`): check the block, take the system page from the file,
deprotect it and check its clients. The pages found are a list, and the later one is kept
(`latestPage`).

`NtfsLogfile.Proof.Refinement` shows that the code computes `checkPlain`.
-/

namespace NtfsLogfile

open RestartPageHeader RestartArea

/-! ### The offsets -/

/-- The offsets below `size` from the `n`-th on, counted with at most `fuel` of them. -/
def scanCountFrom (size : Nat) : Nat → Nat → Nat
  | 0, _ => 0
  | fuel + 1, n => if scanOffset n < size then scanCountFrom size fuel (n + 1) + 1 else 0

/-- The number of offsets the scan visits below `size`. -/
def scanCount (size : Nat) : Nat := scanCountFrom size size 0

/-- The offsets below `size` where a restart page header can start, in increasing order. -/
def scanOffsets (size : Nat) : List Nat := (List.range (scanCount size)).map scanOffset

theorem le_scanOffset (n : Nat) : n ≤ scanOffset n := by
  cases n with
  | zero => exact le_rfl
  | succ k =>
    have := Nat.lt_two_pow k
    rw [scanOffset, ntfsBlockSize]
    omega

/-- With enough fuel, the count from the `n`-th offset stops at the first offset past the size. -/
theorem scanCountFrom_spec (size : Nat) :
    ∀ fuel n, size ≤ n + fuel → ∀ m, n ≤ m →
      (scanOffset m < size ↔ m < n + scanCountFrom size fuel n)
  | 0, n, hfuel, m, hm => by
    have := le_scanOffset m
    simp only [scanCountFrom, Nat.add_zero]
    omega
  | fuel + 1, n, hfuel, m, hm => by
    rw [scanCountFrom]
    split_ifs with hn
    · rcases Nat.eq_or_lt_of_le hm with rfl | hm
      · simp [hn]
      · rw [scanCountFrom_spec size fuel (n + 1) (by omega) m hm]
        omega
    · have := scanOffset_strictMono.monotone hm
      omega

theorem scanOffset_lt_iff {n size : Nat} : scanOffset n < size ↔ n < scanCount size := by
  simpa using scanCountFrom_spec size size 0 (by omega) n (Nat.zero_le n)

@[simp] theorem length_scanOffsets (size : Nat) : (scanOffsets size).length = scanCount size := by
  simp [scanOffsets]

theorem mem_scanOffsets {p size : Nat} : p ∈ scanOffsets size ↔ ∃ n, scanOffset n = p ∧ p < size := by
  simp only [scanOffsets, List.mem_map, List.mem_range]
  constructor
  · rintro ⟨n, hn, rfl⟩
    exact ⟨n, rfl, scanOffset_lt_iff.mpr hn⟩
  · rintro ⟨n, rfl, h⟩
    exact ⟨n, scanOffset_lt_iff.mp h, rfl⟩

/-- The offsets from the `n`-th on: the `n`-th when it is below the size, then the rest. -/
theorem scanOffsets_drop (size n : Nat) :
    (scanOffsets size).drop n =
      if scanOffset n < size then scanOffset n :: (scanOffsets size).drop (n + 1) else [] := by
  split_ifs with h
  · rw [List.drop_eq_getElem_cons (by simpa using scanOffset_lt_iff.mp h)]
    simp [scanOffsets]
  · exact List.drop_eq_nil_of_le (by simpa using mt scanOffset_lt_iff.mpr h)

/-! ### The loader -/

/-- The loader without I/O: the two checks of the block at `pos` of the file, then the system
page taken from the file into the bytes `junk` the allocator handed out, deprotected, with its
clients checked. `none` where the loader returns `EINVAL`. -/
def loadPlain (f : LogFile) (junk : Bytes) (pos : Nat) : Option (Bytes × Int) :=
  let rp := f.view pos
  if ntfsRestartPageHeaderIsValid rp pos = .ok () ∧ ntfsRestartAreaIsValid rp = .ok () then
    (restartPageFinish rp fun i => if i < systemPageSize rp then f.data (pos + i) else junk i).toOption
  else none

/-! ### The scan -/

/-- Where the scan goes after a block: on to the next offset or to its end, with whether every
block so far was empty and the pages accepted so far. -/
inductive PlainStep where
  | next : Bool → List (Nat × Bytes × Int) → PlainStep
  | stop : Bool → List (Nat × Bytes × Int) → PlainStep

/-- The block at `p`: an empty block is skipped while all blocks so far were empty and ends the
scan after a non-empty one; a log record page ends it; a block that is no restart page is
skipped; a restart page the loader accepts is kept, and ends the scan unless it is at `0`. -/
def blockPlain (f : LogFile) (load : Nat → Option (Bytes × Int)) (p : Nat) (empty : Bool)
    (pages : List (Nat × Bytes × Int)) : PlainStep :=
  let m := magic (f.view p)
  if ntfsIsEmptyRecord m then if empty then .next empty pages else .stop empty pages
  else if ntfsIsRcrdRecord m then .stop false pages
  else if ntfsIsRstrRecord m = false ∧ ntfsIsChkdRecord m = false then .next false pages
  else
    match load p with
    | some page =>
      if p = 0 then .next false (pages ++ [(p, page)]) else .stop false (pages ++ [(p, page)])
    | none => .next false pages

/-- The scan over the offsets still to visit: whether every block it examined was empty, and
the pages it accepted with their offsets. -/
def scanPlain (f : LogFile) (load : Nat → Option (Bytes × Int)) :
    List Nat → Bool → List (Nat × Bytes × Int) → Bool × List (Nat × Bytes × Int)
  | [], empty, pages => (empty, pages)
  | p :: ps, empty, pages =>
    match blockPlain f load p empty pages with
    | .next empty pages => scanPlain f load ps empty pages
    | .stop empty pages => (empty, pages)

theorem scanOffsets_sorted (size : Nat) : (scanOffsets size).Sorted (· < ·) :=
  (List.pairwise_lt_range _).map _ fun _ _ => fun hab => scanOffset_strictMono hab

/-- Below a positive size the offsets start at `0`, and the others are positive. -/
theorem scanOffsets_eq_cons {size : Nat} (h : 0 < size) :
    scanOffsets size = 0 :: (scanOffsets size).drop 1 ∧ ∀ p ∈ (scanOffsets size).drop 1, 0 < p := by
  have hd := scanOffsets_drop size 0
  rw [List.drop_zero, if_pos (show scanOffset 0 < size from h)] at hd
  have hs := scanOffsets_sorted size
  rw [hd] at hs
  exact ⟨hd, List.rel_of_sorted_cons hs⟩

/-- **The scan's offsets are the restart page slots.** Every offset at which the header check
accepts a restart page header, `0` or the page's own system page size, is one of the offsets the
scan visits when it lies below the size. -/
theorem restart_slots_scanned (rp : Bytes) (pos size : Nat)
    (hvalid : ntfsRestartPageHeaderIsValid rp pos = .ok ()) (hlt : pos < size) :
    pos ∈ scanOffsets size := by
  have h := (ntfsRestartPageHeaderIsValid_iff rp pos).mp hvalid
  obtain ⟨n, hn⟩ : ∃ n, scanOffset n = pos := by
    rcases h.pos_eq with rfl | rfl
    · exact ⟨0, rfl⟩
    · obtain ⟨k, hk⟩ := h.systemPageSize_pow
      have hge := h.systemPageSize_ge
      rw [hk] at hge ⊢
      simp only [ntfsBlockSize] at hge
      have h9 : 9 ≤ k := (Nat.pow_le_pow_iff_right Nat.one_lt_two).mp (by simpa using hge)
      refine ⟨k - 8, ?_⟩
      rw [show k - 8 = (k - 9) + 1 by omega, scanOffset, ntfsBlockSize, show 512 = 2 ^ 9 from rfl,
        ← Nat.pow_add, Nat.add_sub_cancel' h9]
  exact mem_scanOffsets.mpr ⟨n, hn, hlt⟩

/-- The second slot of a 4096-byte restart page, at its system page size, is visited in an
8 KiB log. -/
theorem restart_slots_scanned_second :
    ntfsRestartPageHeaderIsValid restartPage4k 4096 = .ok () ∧ 4096 < 8192 ∧
      4096 ∈ scanOffsets 8192 :=
  have hvalid : ntfsRestartPageHeaderIsValid restartPage4k 4096 = .ok () := by decide
  ⟨hvalid, by decide, restart_slots_scanned restartPage4k 4096 8192 hvalid (by decide)⟩

/-! ### What the plain scan keeps -/

/-- A block with a restart magic is neither empty nor a log record page, and the scan does not
pass over it. -/
theorem restart_magic_ne {m : Nat} (h : ntfsIsRstrRecord m = true ∨ ntfsIsChkdRecord m = true) :
    ntfsIsEmptyRecord m = false ∧ ntfsIsRcrdRecord m = false ∧
      ¬(ntfsIsRstrRecord m = false ∧ ntfsIsChkdRecord m = false) := by
  simp only [ntfsIsRstrRecord, ntfsIsChkdRecord, beq_iff_eq] at h
  rcases h with rfl | rfl <;> decide

/-- A step of the plain scan adds at most the page the loader accepted at `p`, and counts the
log as empty only while it was. -/
theorem blockPlain_cases (f : LogFile) (load : Nat → Option (Bytes × Int)) (p : Nat)
    (empty : Bool) (pages : List (Nat × Bytes × Int)) :
    ∃ empty' x, (blockPlain f load p empty pages = .next empty' (pages ++ x) ∨
        blockPlain f load p empty pages = .stop empty' (pages ++ x)) ∧
      (∀ a ∈ x, a.1 = p ∧ load p = some a.2) ∧ (empty' = true → empty = true) := by
  unfold blockPlain
  dsimp only
  split_ifs with he hl hr ho h0
  · exact ⟨empty, [], .inl (by simp), by simp, id⟩
  · exact ⟨empty, [], .inr (by simp), by simp, id⟩
  · exact ⟨false, [], .inr (by simp), by simp, nofun⟩
  · exact ⟨false, [], .inl (by simp), by simp, nofun⟩
  all_goals
    cases hload : load p with
    | none => exact ⟨false, [], .inl (by simp), by simp, nofun⟩
    | some page => exact ⟨false, [(p, page)], by simp, by simp [hload], nofun⟩

variable (f : LogFile) (load : Nat → Option (Bytes × Int))

/-- The plain scan only adds pages, each one the loader accepted at an offset it visited, and
counts the log as empty only while it was. -/
theorem scanPlain_extends : ∀ (ps : List Nat) (empty : Bool) (pages : List (Nat × Bytes × Int)),
    ∃ rest, (scanPlain f load ps empty pages).2 = pages ++ rest ∧
      (∀ a ∈ rest, a.1 ∈ ps ∧ load a.1 = some a.2) ∧
      ((scanPlain f load ps empty pages).1 = true → empty = true)
  | [], empty, pages => ⟨[], by simp [scanPlain], by simp, by simp [scanPlain]⟩
  | p :: ps, empty, pages => by
    obtain ⟨empty', x, hstep | hstep, hx, he⟩ := blockPlain_cases f load p empty pages
    · obtain ⟨rest, hrest, hmem, he'⟩ := scanPlain_extends ps empty' (pages ++ x)
      refine ⟨x ++ rest, ?_, fun a ha => ?_, fun h => he (he' ?_)⟩
      · rw [scanPlain, hstep, hrest, List.append_assoc]
      · rcases List.mem_append.mp ha with ha | ha
        · exact ⟨(hx a ha).1 ▸ List.mem_cons_self _ _, (hx a ha).1 ▸ (hx a ha).2⟩
        · exact ⟨List.mem_cons_of_mem _ (hmem a ha).1, (hmem a ha).2⟩
      · rwa [scanPlain, hstep] at h
    · refine ⟨x, by rw [scanPlain, hstep], fun a ha => ?_, fun h => he ?_⟩
      · exact ⟨(hx a ha).1 ▸ List.mem_cons_self _ _, (hx a ha).1 ▸ (hx a ha).2⟩
      · rwa [scanPlain, hstep] at h

/-- Past blocks that are none of the four record kinds, the plain scan reaches a restart page
the loader accepts at a non-zero offset, keeps it and ends. -/
theorem scanPlain_reaches {S : Nat} {page : Bytes × Int} (hS0 : S ≠ 0)
    (hm : ntfsIsRstrRecord (magic (f.view S)) = true ∨ ntfsIsChkdRecord (magic (f.view S)) = true)
    (hload : load S = some page) (post : List Nat) :
    ∀ (pre : List Nat) (pages : List (Nat × Bytes × Int)),
      (∀ p ∈ pre, ntfsIsEmptyRecord (magic (f.view p)) = false ∧
        ntfsIsRcrdRecord (magic (f.view p)) = false ∧ ntfsIsRstrRecord (magic (f.view p)) = false ∧
        ntfsIsChkdRecord (magic (f.view p)) = false) →
      scanPlain f load (pre ++ S :: post) false pages = (false, pages ++ [(S, page)])
  | [], pages, _ => by
    obtain ⟨he, hr, ho⟩ := restart_magic_ne hm
    simp [scanPlain, blockPlain, he, hr, if_neg ho, hload, hS0]
  | p :: pre, pages, hpre => by
    obtain ⟨he, hr, hrs, hck⟩ := hpre p (List.mem_cons_self _ _)
    rw [List.cons_append, scanPlain, blockPlain]
    simp only [he, hr, hrs, hck, Bool.false_eq_true, if_false, and_self, if_true]
    exact scanPlain_reaches hS0 hm hload post pre pages fun q hq => hpre q (List.mem_cons_of_mem _ hq)

/-! ### The check -/

/-- What the check returns when no collaborator fails, `(error, *rp, volume)`: nothing to do for
a log already known empty; `EINVAL` for a log too small; otherwise the scan of `scanOffsets`
finds the log empty, and the flag is set, or returns the later of the pages it accepted, or
`EINVAL` when it accepted none. -/
def checkPlain (c : Config) (f : LogFile) (junk : Bytes) (vol : Volume) :
    Nat × Option Bytes × Volume :=
  if vol.logFileEmpty then (0, none, vol)
  else
    let size := c.scanSize f.dataSize
    if c.tooSmall size then (EINVAL, none, vol)
    else
      match scanPlain f (loadPlain f junk) (scanOffsets size) true [] with
      | (true, _) => (0, none, { vol with logFileEmpty := true })
      | (false, pages) =>
        match latestPage pages with
        | none => (EINVAL, none, vol)
        | some a => (0, some a.2.1, vol)

end NtfsLogfile
