import NtfsLogfile.Proof.Scan

/-!
# The check

`ntfs_logfile_check` returns, in one of six ways (`CheckRun`, `ntfsLogfileCheck_spec`): the flag
was already set; `vnode_get` failed; the log is too small; the scan failed; the scan found an
empty log; or the scan ended on a non-empty log, and the check returns the later of the pages
it accepted, or `EINVAL` when there is none (`latestPage`).

From these the check's contract follows: what a zero return means, that `EINVAL` never stands
for a failed collaborator, and that `ntfs_logfile_is_clean` reads from the returned copy what
the checks read from the block on disk. The size the scan covers and the size test, with its
`unsigned` product and its `ffs` shift, count whole log pages (`tooSmall_counts_log_pages`).
-/

namespace NtfsLogfile

open RestartPageHeader RestartArea

variable (c : Config) (f : LogFile) (io : Io)

/-! ### The page kept -/

/-- The page the check keeps of the pages accepted in order: the first, unless the second has a
greater LSN. -/
def latestPage : List (Nat × Bytes × Int) → Option (Nat × Bytes × Int)
  | [] => none
  | [a] => some a
  | a :: b :: _ => some (if b.2.2 > a.2.2 then b else a)

/-- A page is kept once one was accepted, that is when the check's error after the scan is `0`. -/
theorem exists_latestPage {A : List (Nat × Bytes × Int)}
    (h0 : (if A.isEmpty then EINVAL else 0) = 0) : ∃ a, latestPage A = some a := by
  match A with
  | [] => exact absurd h0 (by decide)
  | [a] => exact ⟨a, rfl⟩
  | _ :: _ :: _ => exact ⟨_, rfl⟩

theorem eq_nil_of_scanErr_ne_zero {A : List (Nat × Bytes × Int)}
    (h : (if A.isEmpty then EINVAL else 0) ≠ 0) : A = [] := by
  cases A with
  | nil => rfl
  | cons => exact absurd rfl h

/-- The page kept has the greatest LSN of the pages accepted, and of two with equal LSNs it is
the one found first. -/
theorem latestPage_spec {A : List (Nat × Bytes × Int)} {a : Nat × Bytes × Int}
    (hA : (A.map Prod.fst).Sorted (· < ·)) (hlen : A.length ≤ 2) (h : latestPage A = some a) :
    a ∈ A ∧ ∀ b ∈ A, b.2.2 ≤ a.2.2 ∧ (b.2.2 = a.2.2 → a.1 ≤ b.1) := by
  match A, hA, hlen, h with
  | [x], _, _, h =>
    cases Option.some.inj h
    simp
  | [x, y], hA, _, h =>
    have hxy : x.1 < y.1 := by simpa using hA
    cases Option.some.inj h
    split_ifs with hlt <;> simp only [List.mem_cons, List.mem_singleton, List.not_mem_nil,
      forall_eq_or_imp, forall_eq, or_false, true_or, or_true, true_and, le_refl, imp_self,
      and_true]
    · exact ⟨hlt.le, fun he => absurd he hlt.ne⟩
    · exact ⟨not_lt.mp hlt, fun _ => hxy.le⟩

/-- The offsets of the accepted pages increase: they were accepted in the scan's order. -/
theorem ScanRun.accepted_sorted {size : Nat} {s : ScanState} (h : ScanRun f size s) :
    (s.accepted.map Prod.fst).Sorted (· < ·) := by
  have hv : s.visited.Sorted (· < ·) := by
    rw [h.visited_eq]
    exact (List.pairwise_lt_range _).map _ fun _ _ => fun hab => scanOffset_strictMono hab
  exact hv.sublist h.accepted_sublist

/-- After a scan that did not find the log empty, the check returns the page kept, or `EINVAL`
when no page was accepted. The panic (`!rstr1_ph` but `rstr2_ph`) is not reached: the second
slot is filled only after the first. -/
theorem scanFinish_eq {size : Nat} {s : ScanState} (h : ScanRun f size s)
    (hl : s.logfileIsEmpty = false) (vol : Volume) :
    scanFinish vol s = .ret ⟨if s.accepted.isEmpty then EINVAL else 0,
      (latestPage s.accepted).map (·.2.1), vol, s.calls⟩ := by
  have hlen := h.accepted_length
  unfold scanFinish
  rw [if_neg (by simp [hl]), h.rstr1_eq, h.rstr2_eq]
  match s.accepted, hlen with
  | [], _ => rfl
  | [_], _ => rfl
  | [⟨_, _, _⟩, ⟨_, _, _⟩], _ => simp [latestPage, apply_ite]

/-! ### The scanned size -/

/-- The log page size is a power of two: the default one, or `PAGE_SIZE`. -/
theorem Config.logPageSize_pow (c : Config) : ∃ k, c.logPageSize = 2 ^ k := by
  unfold Config.logPageSize
  split_ifs
  · obtain ⟨k, hk⟩ := c.ntfsDefaultLogPageSize_pow
    exact ⟨k, hk⟩
  · exact ⟨c.pageShift, rfl⟩

/-- `size &= ~(s64)(log_page_size - 1)` rounds the capped size down to whole log pages. -/
theorem Config.scanSize_eq (c : Config) (dataSize : Nat) :
    c.scanSize dataSize = min dataSize c.ntfsMaxLogFileSize / c.logPageSize * c.logPageSize := by
  obtain ⟨k, hk⟩ := c.logPageSize_pow
  unfold Config.scanSize
  dsimp only
  rw [hk, Nat.and_pow_two_sub_one_eq_mod, ← hk]
  have := Nat.mod_add_div' (min dataSize c.ntfsMaxLogFileSize) c.logPageSize
  omega

/-- The scanned size is a multiple of the log page size, within the file. -/
theorem Config.scanSize_spec (c : Config) (dataSize : Nat) :
    c.logPageSize ∣ c.scanSize dataSize ∧ c.scanSize dataSize ≤ dataSize := by
  rw [c.scanSize_eq]
  exact ⟨Dvd.intro_left _ rfl, (Nat.div_mul_le_self _ _).trans (min_le_left _ _)⟩

theorem ffs_go_two_pow : ∀ (k n i : Nat), k < n → ffs.go n (2 ^ k) i = i + k + 1
  | 0, n + 1, i, _ => by simp [ffs.go]
  | k + 1, n + 1, i, hk => by
    rw [ffs.go, if_neg (by rw [Nat.pow_succ]; omega), Nat.pow_succ, Nat.mul_div_cancel _ two_pos,
      ffs_go_two_pow k n (i + 1) (by omega)]
    omega

/-- `ffs` of a power of two below `2^32` is one more than its exponent. -/
theorem ffs_two_pow {k : Nat} (hk : k < 32) : ffs (2 ^ k) = k + 1 := by
  simpa using ffs_go_two_pow k 32 0 hk

/-- **The size test counts whole log pages.** The check scans `data_size`, capped at
`NtfsMaxLogFileSize`, rounded down to whole log pages; when `log_page_size * 2` does not wrap
in its `unsigned`, the test `size < log_page_size * 2 || (size - log_page_size * 2) >>
log_page_bits < NtfsMinLogRecordPages` refuses the log exactly when the capped size holds fewer
than the two restart pages and `NtfsMinLogRecordPages` log record pages. -/
theorem tooSmall_counts_log_pages (dataSize : Nat) (hlps : c.logPageSize * 2 < 2 ^ 32) :
    c.scanSize dataSize = min dataSize c.ntfsMaxLogFileSize / c.logPageSize * c.logPageSize ∧
      (c.tooSmall (c.scanSize dataSize) = true ↔
        min dataSize c.ntfsMaxLogFileSize < (2 + c.ntfsMinLogRecordPages) * c.logPageSize) := by
  obtain ⟨k, hk⟩ := c.logPageSize_pow
  have hpos : 0 < c.logPageSize := hk ▸ Nat.two_pow_pos k
  have hk32 : k < 32 := by
    by_contra h
    have : 2 ^ 32 ≤ 2 ^ k := Nat.pow_le_pow_right two_pos (by omega)
    omega
  have hbits : ffs c.logPageSize - 1 = k := by rw [hk, ffs_two_pow hk32, Nat.add_sub_cancel]
  refine ⟨c.scanSize_eq dataSize, ?_⟩
  unfold Config.tooSmall
  simp only [Nat.mod_eq_of_lt hlps, hbits, Nat.shiftRight_eq_div_pow, ← hk, c.scanSize_eq,
    decide_eq_true_eq]
  -- with `q` whole log pages, `q * L < L * 2 ∨ (q * L - L * 2) / L < m` is `q < 2 + m`
  rw [← Nat.div_lt_iff_lt_mul hpos, Nat.mul_comm c.logPageSize 2, ← Nat.sub_mul,
    Nat.mul_div_cancel _ hpos, Nat.mul_lt_mul_right hpos]
  omega

theorem tooSmall_counts_log_pages_page4k :
    Config.page4k.logPageSize * 2 < 2 ^ 32 ∧
      Config.page4k.scanSize (2 ^ 22) = min (2 ^ 22) Config.page4k.ntfsMaxLogFileSize /
        Config.page4k.logPageSize * Config.page4k.logPageSize ∧
      (Config.page4k.tooSmall (Config.page4k.scanSize (2 ^ 22)) = true ↔
        min (2 ^ 22) Config.page4k.ntfsMaxLogFileSize <
          (2 + Config.page4k.ntfsMinLogRecordPages) * Config.page4k.logPageSize) :=
  have hlps : Config.page4k.logPageSize * 2 < 2 ^ 32 := by decide
  ⟨hlps, tooSmall_counts_log_pages Config.page4k (2 ^ 22) hlps⟩

/-! ### The check -/

/-- The error of a failed `vnode_get`, with `EINVAL` turned into `EIO`, is neither `0` nor
`EINVAL`. -/
theorem vnodeError_ne {err : Nat} (h : err ≠ 0) :
    (if err = EINVAL then EIO else err) ≠ EINVAL ∧ (if err = EINVAL then EIO else err) ≠ 0 := by
  unfold EINVAL EIO
  split_ifs <;> omega

/-- The ways `ntfs_logfile_check` can return. -/
inductive CheckRun (vol : Volume) : CheckResult → Prop
  | flagged (h : vol.logFileEmpty = true) : CheckRun vol ⟨0, none, vol, 0⟩
  | vnodeFailed (h : vol.logFileEmpty = false) (hf : io.fault 0 ≠ 0) :
      CheckRun vol ⟨if io.fault 0 = EINVAL then EIO else io.fault 0, none, vol, 1⟩
  | tooSmall (h : vol.logFileEmpty = false) (hf : io.fault 0 = 0)
      (hs : c.tooSmall (c.scanSize f.dataSize) = true) : CheckRun vol ⟨EINVAL, none, vol, 1⟩
  | scanFailed (h : vol.logFileEmpty = false) (hf : io.fault 0 = 0)
      (hs : c.tooSmall (c.scanSize f.dataSize) = false) (e : Nat) (s : ScanState)
      (hscan : scanLoop c f io (c.scanSize f.dataSize) (c.scanSize f.dataSize + 1) scanStart =
        .ret (.error (e, s)))
      (hexit : ScanExit f io (c.scanSize f.dataSize) (.error (e, s))) :
      CheckRun vol ⟨e, none, vol, s.calls⟩
  | scannedEmpty (h : vol.logFileEmpty = false) (hf : io.fault 0 = 0)
      (hs : c.tooSmall (c.scanSize f.dataSize) = false) (s : ScanState)
      (hscan : scanLoop c f io (c.scanSize f.dataSize) (c.scanSize f.dataSize + 1) scanStart =
        .ret (.ok s))
      (hexit : ScanExit f io (c.scanSize f.dataSize) (.ok s)) (hl : s.logfileIsEmpty = true) :
      CheckRun vol ⟨0, none, { vol with logFileEmpty := true }, s.calls⟩
  | scannedPages (h : vol.logFileEmpty = false) (hf : io.fault 0 = 0)
      (hs : c.tooSmall (c.scanSize f.dataSize) = false) (s : ScanState)
      (hscan : scanLoop c f io (c.scanSize f.dataSize) (c.scanSize f.dataSize + 1) scanStart =
        .ret (.ok s))
      (hexit : ScanExit f io (c.scanSize f.dataSize) (.ok s)) (hl : s.logfileIsEmpty = false) :
      CheckRun vol ⟨if s.accepted.isEmpty then EINVAL else 0, (latestPage s.accepted).map (·.2.1),
        vol, s.calls⟩

/-- **The check returns**, along one of the ways of `CheckRun`. -/
theorem ntfsLogfileCheck_spec (vol : Volume) :
    ∃ r, ntfsLogfileCheck c f io vol = .ret r ∧ CheckRun c f io vol r := by
  unfold ntfsLogfileCheck
  dsimp only
  by_cases hv : vol.logFileEmpty = true
  · exact ⟨_, if_pos hv, .flagged hv⟩
  rw [if_neg hv]
  replace hv : vol.logFileEmpty = false := by simpa using hv
  by_cases hf : io.fault 0 ≠ 0
  · exact ⟨_, if_pos hf, .vnodeFailed hv hf⟩
  rw [if_neg hf]
  replace hf := not_not.mp hf
  cases hs : c.tooSmall (c.scanSize f.dataSize)
  · obtain ⟨r, hr, hexit⟩ := scanLoop_spec c f io (c.scanSize f.dataSize)
      (c.scanSize f.dataSize + 1) scanStart (scanInv_scanStart _) (by simp [scanStart])
    rw [if_neg Bool.false_ne_true, hr]
    rcases r with ⟨e, s⟩ | s
    · exact ⟨_, rfl, .scanFailed hv hf hs e s hr hexit⟩
    · cases hl : s.logfileIsEmpty
      · exact ⟨_, scanFinish_eq f hexit.1 hl vol, .scannedPages hv hf hs s hr hexit hl⟩
      · exact ⟨_, by simp [scanFinish, hl], .scannedEmpty hv hf hs s hr hexit hl⟩
  · exact ⟨_, if_pos rfl, .tooSmall hv hf hs⟩

/-! ### The contract -/

/-- **The scan ends, in order.** For every file, size and behaviour of the collaborators, the scan
returns within `size + 1` passes, never at the loader's panic. It examined the blocks at `0`,
`512`, `1024`, … in this order, all below the size, and loaded pages only there. The first slot
holds the first page the loader accepted and the second slot the second: the second is filled
only after the first, and no accepted page is overwritten. So the check returns, and never
reaches its panic. -/
theorem scan_terminates_in_order (size : Nat) :
    (∃ r, scanLoop c f io size (size + 1) scanStart = .ret r ∧
      ∀ s, (r = .ok s ∨ ∃ e, r = .error (e, s)) →
        s.visited = (List.range s.visited.length).map scanOffset ∧ (∀ p ∈ s.visited, p < size) ∧
        (s.accepted.map Prod.fst).Sublist s.visited ∧ s.accepted.length ≤ 2 ∧
        s.rstr1 = s.accepted[0]?.map Prod.snd ∧ s.rstr2 = s.accepted[1]?.map Prod.snd ∧
        (s.rstr2.isSome → s.rstr1.isSome)) ∧
      ∀ vol, ∃ r, ntfsLogfileCheck c f io vol = .ret r := by
  obtain ⟨r, hr, hexit⟩ := scanLoop_spec c f io size (size + 1) scanStart
    (scanInv_scanStart size) (by simp [scanStart])
  refine ⟨⟨r, hr, fun s hs => ?_⟩, fun vol => (ntfsLogfileCheck_spec c f io vol).imp fun _ h => h.1⟩
  have hrun := hexit.run hs
  refine ⟨hrun.visited_eq, hrun.visited_lt, hrun.accepted_sublist, hrun.accepted_length,
    hrun.rstr1_eq, hrun.rstr2_eq, ?_⟩
  rw [hrun.rstr1_eq, hrun.rstr2_eq]
  simp only [Option.isSome_map', Option.isSome_iff_ne_none, ne_eq, List.getElem?_eq_none_iff,
    not_le]
  omega

/-- **`EINVAL` never stands for a failed collaborator.** For every file, flag and behaviour of
`vnode_get`, `ntfs_page_map` and `IOMalloc`, the check returns. It returns `EINVAL` only when all
the calls it made succeeded, because the log is too small or a non-empty log has no valid
restart page: the scan examined a block of the file that is not empty, and the loader accepted
none. When a call failed, it was the last the check made, and the error is neither `0` nor
`EINVAL`. On every error `*rp` is `NULL` and the flag is unchanged. -/
theorem check_einval_without_failures (vol : Volume) :
    ∃ r, ntfsLogfileCheck c f io vol = .ret r ∧
      (r.err = EINVAL → io.AllOk 0 r.calls ∧
        (c.tooSmall (c.scanSize f.dataSize) = true ∨
          ∃ s, scanLoop c f io (c.scanSize f.dataSize) (c.scanSize f.dataSize + 1) scanStart =
            .ret (.ok s) ∧ s.logfileIsEmpty = false ∧ s.accepted = [] ∧
            ∃ p ∈ s.visited, ntfsIsEmptyRecord (magic (f.view p)) = false)) ∧
      (¬io.AllOk 0 r.calls → r.err ≠ 0 ∧ r.err ≠ EINVAL ∧ io.fault (r.calls - 1) ≠ 0 ∧
        io.AllOk 0 (r.calls - 1)) ∧
      (r.err ≠ 0 → r.rp = none ∧ r.vol = vol) := by
  obtain ⟨r, hr, hrun⟩ := ntfsLogfileCheck_spec c f io vol
  refine ⟨r, hr, ?_⟩
  have hvnode : io.fault 0 = 0 → io.AllOk 0 1 := fun hf => Io.AllOk.of_succ hf (Io.AllOk.refl io 1)
  cases hrun with
  | flagged h =>
    exact ⟨fun h => absurd h (by decide : 0 ≠ EINVAL), fun h => absurd (Io.AllOk.refl io 0) h,
      fun h => absurd rfl h⟩
  | vnodeFailed h hf =>
    have hne := vnodeError_ne hf
    exact ⟨fun h => absurd h hne.1, fun _ => ⟨hne.2, hne.1, hf, Io.AllOk.refl io 0⟩,
      fun _ => ⟨rfl, rfl⟩⟩
  | tooSmall h hf hs =>
    exact ⟨fun _ => ⟨hvnode hf, .inl hs⟩, fun h => absurd (hvnode hf) h, fun _ => ⟨rfl, rfl⟩⟩
  | scanFailed h hf hs e s hscan hexit =>
    obtain ⟨-, hcode, hfk, hall⟩ := hexit
    obtain ⟨he, he0⟩ := readError_ne hcode
    exact ⟨fun h => absurd h he, fun _ => ⟨he0, he, hfk, (hvnode hf).trans hall⟩,
      fun _ => ⟨rfl, rfl⟩⟩
  | scannedEmpty h hf hs s hscan hexit hl =>
    exact ⟨fun h => absurd h (by decide : 0 ≠ EINVAL), fun h => absurd ((hvnode hf).trans hexit.2.1) h,
      fun h => absurd rfl h⟩
  | scannedPages h hf hs s hscan hexit hl =>
    have hall := (hvnode hf).trans hexit.2.1
    refine ⟨fun he => ⟨hall, .inr ⟨s, hscan, hl, eq_nil_of_scanErr_ne_zero ?_, hexit.2.2.2 hl⟩⟩,
      fun h => absurd hall h, fun he => ?_⟩
    · exact fun h0 => absurd (he.symm.trans h0) (by decide)
    · simp [eq_nil_of_scanErr_ne_zero he, latestPage]

/-- **The scan reads few blocks.** It examines at most `max 1 (log₂ size - 7)` blocks: the one at
`0`, and one per doubling from `512` below the size. -/
theorem scan_examines_log_blocks (size : Nat) :
    ∃ r, scanLoop c f io size (size + 1) scanStart = .ret r ∧
      ∀ s, (r = .ok s ∨ ∃ e, r = .error (e, s)) →
        s.visited.length ≤ max 1 (Nat.log 2 size - 7) := by
  obtain ⟨r, hr, hexit⟩ := scanLoop_spec c f io size (size + 1) scanStart
    (scanInv_scanStart size) (by simp [scanStart])
  refine ⟨r, hr, fun s hs => ?_⟩
  have hrun := hexit.run hs
  rcases hn : s.visited.length with _ | _ | n
  · simp
  · simp
  · have hmem : scanOffset (n + 1) ∈ s.visited := by
      rw [hrun.visited_eq, hn]
      exact List.mem_map_of_mem _ (List.mem_range.mpr (by omega))
    have hpow : 2 ^ (n + 9) ≤ size := by
      have := hrun.visited_lt _ hmem
      rw [scanOffset, ntfsBlockSize] at this
      rw [pow_add]
      omega
    have := Nat.le_log_of_pow_le Nat.one_lt_two hpow
    omega

/-- **The check's errors.** Every error the check returns is `EINVAL`, for a log too small or
without a valid restart page; `EIO` or `ENOMEM`, for a failed read or allocation (any other error
of `ntfs_page_map` is reported as `EIO`); or the error of a failed `vnode_get`, its first call,
with `EINVAL` reported as `EIO`. -/
theorem check_error_codes (vol : Volume) :
    ∃ r, ntfsLogfileCheck c f io vol = .ret r ∧ (r.err ≠ 0 →
      r.err = EINVAL ∨ r.err = EIO ∨ r.err = ENOMEM ∨
        r.calls = 1 ∧ io.fault 0 ≠ 0 ∧ r.err = if io.fault 0 = EINVAL then EIO else io.fault 0) := by
  obtain ⟨r, hr, hrun⟩ := ntfsLogfileCheck_spec c f io vol
  refine ⟨r, hr, fun h0 => ?_⟩
  cases hrun with
  | flagged h => exact absurd rfl h0
  | vnodeFailed h hf => exact .inr (.inr (.inr ⟨rfl, hf, rfl⟩))
  | tooSmall h hf hs => exact .inl rfl
  | scanFailed h hf hs e s hscan hexit => exact .inr (hexit.2.1.imp_right .inl)
  | scannedEmpty h hf hs s hscan hexit hl => exact absurd rfl h0
  | scannedPages h hf hs s hscan hexit hl =>
    by_cases he : s.accepted.isEmpty
    · exact .inl (if_pos he)
    · exact absurd (if_neg he) h0

/-- **What a zero return means.** For every file with the flag clear and every behaviour of the
collaborators, when the check returns `0` either the log is empty: `*rp` is `NULL`, the flag is
now set, and the blocks at `0` and at every `512 · 2^k` below the size carry the empty magic; or
`*rp` is the copy the loader made of a page it accepted at an examined offset, `0` or the page's
own system page size, with the greatest LSN of the accepted pages and, of equal LSNs, the one
found first. -/
theorem check_zero_empty_or_latest (vol : Volume) (hvol : vol.logFileEmpty = false) :
    ∃ r, ntfsLogfileCheck c f io vol = .ret r ∧ (r.err = 0 →
      (r.rp = none ∧ r.vol.logFileEmpty = true ∧
        ∀ n, scanOffset n < c.scanSize f.dataSize →
          ntfsIsEmptyRecord (magic (f.view (scanOffset n))) = true) ∨
      (r.vol = vol ∧ ∃ s, scanLoop c f io (c.scanSize f.dataSize) (c.scanSize f.dataSize + 1)
          scanStart = .ret (.ok s) ∧
        ∃ a ∈ s.accepted, r.rp = some a.2.1 ∧ a.1 ∈ s.visited ∧
          LoadedPage f (f.view a.1) a.1 a.2.1 a.2.2 ∧
          (a.1 = 0 ∨ a.1 = systemPageSize (f.view a.1)) ∧
          ∀ b ∈ s.accepted, b.2.2 ≤ a.2.2 ∧ (b.2.2 = a.2.2 → a.1 ≤ b.1))) := by
  obtain ⟨r, hr, hrun⟩ := ntfsLogfileCheck_spec c f io vol
  refine ⟨r, hr, fun h0 => ?_⟩
  cases hrun with
  | flagged h => exact absurd (hvol.symm.trans h) Bool.false_ne_true
  | vnodeFailed h hf => exact absurd h0 (vnodeError_ne hf).2
  | tooSmall h hf hs => exact absurd h0 (by decide : EINVAL ≠ 0)
  | scanFailed h hf hs e s hscan hexit => exact absurd h0 (readError_ne hexit.2.1).2
  | scannedEmpty h hf hs s hscan hexit hl =>
    obtain ⟨hempty, hcover⟩ := hexit.2.2.1 hl
    exact .inl ⟨rfl, rfl, fun n hn => hempty _ (hcover n hn)⟩
  | scannedPages h hf hs s hscan hexit hl =>
    have hrun := hexit.1
    obtain ⟨a, ha⟩ := exists_latestPage h0
    obtain ⟨hmem, hmax⟩ := latestPage_spec hrun.accepted_sorted hrun.accepted_length ha
    have hload := (hrun.loaded a hmem).1
    refine .inr ⟨rfl, s, hscan, a, hmem, by simp [ha], ?_, hload, hload.header.pos_eq, hmax⟩
    exact hrun.accepted_sublist.subset (List.mem_map_of_mem _ hmem)

/-- The blank 4 MiB log with the flag clear, on 4 KiB pages. -/
theorem check_zero_empty_or_latest_blank :
    (⟨false⟩ : Volume).logFileEmpty = false ∧
      ∃ r, ntfsLogfileCheck Config.page4k blankLogFile Io.reliable ⟨false⟩ = .ret r ∧ (r.err = 0 →
        (r.rp = none ∧ r.vol.logFileEmpty = true ∧
          ∀ n, scanOffset n < Config.page4k.scanSize blankLogFile.dataSize →
            ntfsIsEmptyRecord (magic (blankLogFile.view (scanOffset n))) = true) ∨
        (r.vol = ⟨false⟩ ∧ ∃ s, scanLoop Config.page4k blankLogFile Io.reliable
            (Config.page4k.scanSize blankLogFile.dataSize)
            (Config.page4k.scanSize blankLogFile.dataSize + 1) scanStart = .ret (.ok s) ∧
          ∃ a ∈ s.accepted, r.rp = some a.2.1 ∧ a.1 ∈ s.visited ∧
            LoadedPage blankLogFile (blankLogFile.view a.1) a.1 a.2.1 a.2.2 ∧
            (a.1 = 0 ∨ a.1 = systemPageSize (blankLogFile.view a.1)) ∧
            ∀ b ∈ s.accepted, b.2.2 ≤ a.2.2 ∧ (b.2.2 = a.2.2 → a.1 ≤ b.1))) :=
  ⟨rfl, check_zero_empty_or_latest Config.page4k blankLogFile Io.reliable ⟨false⟩ rfl⟩

end NtfsLogfile
