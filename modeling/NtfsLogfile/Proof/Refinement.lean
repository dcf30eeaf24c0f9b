import NtfsLogfile.Plain

/-!
# The code computes the plain check

With an allocator that hands out the same uninitialised bytes `junk` every time,
`ntfs_logfile_check` returns what `checkPlain` computes, or fails at a failed collaborator call
with an error that is neither `0` nor `EINVAL` (`check_refines_plain`). The page mapping kept
between passes, the doubling of `pos` with its detour through `NTFS_BLOCK_SIZE / 2`, the two slot
pointers, the loader's allocation, copy loop and page maps, and the fuel of the model all leave
the result as the plain scan of the offsets gives it.

The simulation goes pass by pass, for every behaviour of the collaborators. At a loop head
satisfying `ScanInv`, one pass of the body agrees with one step of the plain scan at `pos` unless
one of its calls fails (`scanBody_plain`), and the offsets not yet visited are those after the
visited ones (`scanOffsets_drop`); by induction on the fuel a loop that ends normally ends with
the plain scan's flag and pages (`scanLoop_plain`).

From the plain check follow the guarantees the two restart pages are there for: a restart page
at `0` that the loader accepts is never lost (`first_restart_page_kept`), and the copy at the
system page size stands in for a first page the loader rejects (`second_restart_page_used`).
Whatever the allocator hands out, the log is found empty exactly when every block the scan
visits is (`check_finds_empty_iff`).
-/

namespace NtfsLogfile

open RestartPageHeader RestartArea

variable (c : Config) (f : LogFile) (io : Io)

/-! ### The loader -/

/-- The loader computes `loadPlain` over the bytes of its `IOMalloc`, or fails with an error
other than `EINVAL`, at a call that failed. -/
theorem ntfsRestartPageLoad_plain (pos calls : Nat) :
    ∃ r k, ntfsRestartPageLoad c f io (f.view pos) pos calls = .ret (r, k) ∧
      (r.toOption = loadPlain f (io.alloc calls) pos ∨ ∃ e, r = .error e ∧ e ≠ EINVAL) := by
  by_cases hv : ntfsRestartPageHeaderIsValid (f.view pos) pos = .ok () ∧
      ntfsRestartAreaIsValid (f.view pos) = .ok ()
  · by_cases hF : io.fault calls ≠ 0
    · exact ⟨.error ENOMEM, calls + 1, by simp [ntfsRestartPageLoad, hv, hF],
        .inr ⟨ENOMEM, rfl, by decide⟩⟩
    obtain ⟨r, k, hrun, -, hok, herr⟩ := restartPageCopy_run c f io ⟨io.alloc calls, []⟩
      (f.view pos) pos (systemPageSize (f.view pos)) (calls + 1) fun _ _ => rfl
    cases r with
    | error e =>
      refine ⟨.error e, k, by simp [ntfsRestartPageLoad, hv, hF, hrun], .inr ⟨e, rfl, ?_⟩⟩
      rw [(herr e rfl).1]
      exact (readError_ne (mapReadError_eq _)).1
    | ok t =>
      refine ⟨restartPageFinish (f.view pos) t.bytes, k,
        by simp [ntfsRestartPageLoad, hv, hF, hrun], .inl ?_⟩
      simp only [loadPlain, if_pos hv, (hok t rfl).2.1]
  · refine ⟨.error EINVAL, calls, ?_, .inl (by simp only [loadPlain, if_neg hv]; rfl)⟩
    unfold ntfsRestartPageLoad
    by_cases hH : ntfsRestartPageHeaderIsValid (f.view pos) pos = .ok ()
    · rw [if_neg (not_not.mpr hH), if_pos fun hA => hv ⟨hH, hA⟩]
    · rw [if_pos hH]

/-! ### One pass -/

/-- A pass of the loop body from the loop head `s` and a step of the plain scan at `s.pos`
agree: the same way on, with the same flag and pages, the offset recorded. A pass that ends at
`goto err` is not compared: the plain scan has no failing calls. -/
def StepAgrees (load : Nat → Option (Bytes × Int)) (s : ScanState) : ScanStep → Prop
  | .next s' => s'.visited = s.visited ++ [s.pos] ∧
      blockPlain f load s.pos s.logfileIsEmpty s.accepted = .next s'.logfileIsEmpty s'.accepted
  | .stop s' =>
      blockPlain f load s.pos s.logfileIsEmpty s.accepted = .stop s'.logfileIsEmpty s'.accepted
  | .err _ _ => True

variable {c f io}

/-- **One pass is one plain step.** From a loop head, whatever the collaborators do, the body
maps the page only to read the block at `pos`, and then does what the plain scan does there,
unless one of its calls fails. -/
theorem scanBody_plain {junk : Bytes} {size : Nat} {s : ScanState} (h : ScanInv c f io size s)
    (halloc : ∀ k, io.alloc k = junk) :
    ∃ o, scanBody c f io s = .ret o ∧ StepAgrees f (loadPlain f junk) s o := by
  unfold scanBody
  dsimp only
  cases hm : scanMap c f io { s with visited := s.visited ++ [s.pos] } with
  | error e => exact ⟨_, rfl, trivial⟩
  | ok s₁ =>
  dsimp only
  obtain ⟨ppos, paddr, k₁, rfl, -, hk, -⟩ := scanMap_ok hm h.mapped h.map_aligned
  unfold scanBlock
  dsimp only at hk ⊢
  rw [hk]
  split_ifs with he hl hr ho
  · exact ⟨_, rfl, rfl, by simp [blockPlain, he, hl, ScanState.skip]⟩
  · exact ⟨_, rfl, by simp [StepAgrees, blockPlain, he, hl]⟩
  · exact ⟨_, rfl, by simp [StepAgrees, blockPlain, he, hr]⟩
  · exact ⟨_, rfl, rfl, by simp [blockPlain, he, hr, ho, ScanState.skip]⟩
  · obtain ⟨r, k, hrun, hagree⟩ := ntfsRestartPageLoad_plain c f io s.pos k₁
    rw [halloc] at hagree
    rw [hrun]
    cases r with
    | error e =>
      by_cases hE : e = EINVAL
      · subst hE
        have hload : loadPlain f junk s.pos = none := (hagree.resolve_right (by simp)).symm
        exact ⟨_, if_neg (not_not.mpr rfl), rfl, by
          simp [blockPlain, he, hr, if_neg ho, hload, ScanState.skip]⟩
      · exact ⟨_, if_pos hE, trivial⟩
    | ok page =>
      have hload : loadPlain f junk s.pos = some page := (hagree.resolve_right (by simp)).symm
      by_cases h0 : s.pos = 0
      · exact ⟨_, if_pos h0, rfl, by
          simp [blockPlain, he, hr, if_neg ho, hload, if_pos h0, ScanState.store]⟩
      · exact ⟨_, if_neg h0, by
          simp [StepAgrees, blockPlain, he, hr, if_neg ho, hload, h0, ScanState.store]⟩

/-! ### The loop -/

variable (c f io) in
/-- **The loop computes the plain scan.** From a loop head, whatever the collaborators do, when
the loop ends at `break` or past the size it ends with the flag and the pages the plain scan
computes from the loop head's over the offsets not yet visited. -/
theorem scanLoop_plain {junk : Bytes} (size : Nat) (halloc : ∀ k, io.alloc k = junk) :
    ∀ (fuel : Nat) (s s' : ScanState), ScanInv c f io size s →
      scanLoop c f io size fuel s = .ret (.ok s') →
      scanPlain f (loadPlain f junk) ((scanOffsets size).drop s.visited.length)
        s.logfileIsEmpty s.accepted = (s'.logfileIsEmpty, s'.accepted) := by
  intro fuel
  induction fuel with
  | zero =>
    intro s s' h hrun
    rw [scanLoop] at hrun
    split_ifs at hrun with hlt
    cases hrun
    rw [scanOffsets_drop, ← h.pos_eq, if_neg hlt]
    rfl
  | succ n ih =>
    intro s s' h hrun
    rw [scanLoop] at hrun
    split_ifs at hrun with hlt
    · obtain ⟨o, ho, hpost⟩ := scanBody_spec h hlt
      obtain ⟨o', ho', hagree⟩ := scanBody_plain h halloc
      obtain rfl := Outcome.ret.inj (ho.symm.trans ho')
      rw [ho] at hrun
      rw [scanOffsets_drop, ← h.pos_eq, if_pos hlt, scanPlain]
      cases o with
      | next s₁ =>
        obtain ⟨hv, hb⟩ := hagree
        rw [hb, ← ih _ s' hpost.1 hrun]
        simp [hv]
      | stop s₁ =>
        cases hrun
        rw [hagree]
      | err e s₁ => cases hrun
    · cases hrun
      rw [scanOffsets_drop, ← h.pos_eq, if_neg hlt]
      rfl

variable (c f io) in
/-- The check of a log not known empty and not too small returns what the plain scan of
`scanOffsets` makes of it, or fails at a call that failed, with an error other than `0` and
`EINVAL`, no page and the flag unchanged. -/
theorem ntfsLogfileCheck_scanPlain (vol : Volume) (junk : Bytes)
    (halloc : ∀ k, io.alloc k = junk) (hv : vol.logFileEmpty = false)
    (hs : c.tooSmall (c.scanSize f.dataSize) = false) :
    ∃ r, ntfsLogfileCheck c f io vol = .ret r ∧ ((∃ empty pages,
      scanPlain f (loadPlain f junk) (scanOffsets (c.scanSize f.dataSize)) true [] =
        (empty, pages) ∧
      (empty = true → r.err = 0 ∧ r.rp = none ∧ r.vol = { vol with logFileEmpty := true }) ∧
      (empty = false → r.err = (if pages.isEmpty then EINVAL else 0) ∧
        r.rp = (latestPage pages).map (·.2.1) ∧ r.vol = vol)) ∨
      io.fault (r.calls - 1) ≠ 0 ∧ r.err ≠ 0 ∧ r.err ≠ EINVAL ∧ r.rp = none ∧ r.vol = vol) := by
  unfold ntfsLogfileCheck
  rw [if_neg (by simp [hv])]
  by_cases hf : io.fault 0 ≠ 0
  · have hne := vnodeError_ne hf
    exact ⟨_, if_pos hf, .inr ⟨hf, hne.2, hne.1, rfl, rfl⟩⟩
  rw [if_neg hf]
  obtain ⟨r, hr, hexit⟩ := scanLoop_spec c f io (c.scanSize f.dataSize)
    (c.scanSize f.dataSize + 1) scanStart (scanInv_scanStart _) (by simp [scanStart])
  rw [if_neg (by simp [hs]), hr]
  rcases r with ⟨e, s⟩ | s
  · obtain ⟨-, hcode, hfk, -⟩ := hexit
    obtain ⟨he, he0⟩ := readError_ne hcode
    exact ⟨_, rfl, .inr ⟨hfk, he0, he, rfl, rfl⟩⟩
  · have hplain := scanLoop_plain c f io (c.scanSize f.dataSize) halloc _ scanStart s
      (scanInv_scanStart _) hr
    simp only [scanStart, List.length_nil, List.drop_zero] at hplain
    cases hl : s.logfileIsEmpty
    · exact ⟨_, scanFinish_eq f hexit.1 hl vol, .inl ⟨false, s.accepted, hl ▸ hplain, nofun,
        fun _ => ⟨rfl, rfl, rfl⟩⟩⟩
    · exact ⟨⟨0, none, { vol with logFileEmpty := true }, s.calls⟩, by simp [scanFinish, hl],
        .inl ⟨true, s.accepted, hl ▸ hplain, fun _ => ⟨rfl, rfl, rfl⟩, nofun⟩⟩

variable (c f io) in
/-- With collaborators that never fail, the check of a log not known empty and not too small
returns what the plain scan of `scanOffsets` makes of it. -/
theorem ntfsLogfileCheck_scanPlain_of_reliable (vol : Volume) (junk : Bytes)
    (hio : ∀ k, io.fault k = 0) (halloc : ∀ k, io.alloc k = junk) (hv : vol.logFileEmpty = false)
    (hs : c.tooSmall (c.scanSize f.dataSize) = false) :
    ∃ r, ntfsLogfileCheck c f io vol = .ret r ∧ ∃ empty pages,
      scanPlain f (loadPlain f junk) (scanOffsets (c.scanSize f.dataSize)) true [] =
        (empty, pages) ∧
      (empty = true → r.err = 0 ∧ r.rp = none ∧ r.vol = { vol with logFileEmpty := true }) ∧
      (empty = false → r.err = (if pages.isEmpty then EINVAL else 0) ∧
        r.rp = (latestPage pages).map (·.2.1) ∧ r.vol = vol) := by
  obtain ⟨r, hr, hplain | ⟨hf, -⟩⟩ := ntfsLogfileCheck_scanPlain c f io vol junk halloc hv hs
  exacts [⟨r, hr, hplain⟩, absurd (hio _) hf]

/-! ### The check -/

variable (c f io) in
/-- **The check computes the plain check, or fails at a failed call.** For every file,
configuration, flag and behaviour of `vnode_get`, `ntfs_page_map` and `IOMalloc`, with an
allocator that always hands out the bytes `junk`, `ntfs_logfile_check` returns the error, the page
and the flag `checkPlain` computes: the scan of `0, 512, 1024, …` below the size, each block read
from the file, the loader taken as `loadPlain`, the later of the accepted pages kept. Or the last
call it made failed, and it returns an error that is neither `0` nor `EINVAL`, no page, and the
flag as it was: a failing collaborator never changes a verdict. -/
theorem check_refines_plain (vol : Volume) (junk : Bytes) (halloc : ∀ k, io.alloc k = junk) :
    ∃ r, ntfsLogfileCheck c f io vol = .ret r ∧ ((r.err, r.rp, r.vol) = checkPlain c f junk vol ∨
      io.fault (r.calls - 1) ≠ 0 ∧ r.err ≠ 0 ∧ r.err ≠ EINVAL ∧ r.rp = none ∧ r.vol = vol) := by
  cases hv : vol.logFileEmpty
  · cases hs : c.tooSmall (c.scanSize f.dataSize)
    · obtain ⟨r, hr, ⟨empty, pages, hscan, htrue, hfalse⟩ | hfail⟩ :=
        ntfsLogfileCheck_scanPlain c f io vol junk halloc hv hs
      · refine ⟨r, hr, .inl ?_⟩
        rw [checkPlain, if_neg (by simp [hv])]
        dsimp only
        rw [if_neg (by simp [hs]), hscan]
        cases empty
        · obtain ⟨he, hrp, hvol⟩ := hfalse rfl
          rw [he, hrp, hvol]
          rcases pages with _ | ⟨a, _ | ⟨b, l⟩⟩ <;> rfl
        · obtain ⟨he, hrp, hvol⟩ := htrue rfl
          rw [he, hrp, hvol]
      · exact ⟨r, hr, .inr hfail⟩
    · by_cases hf : io.fault 0 ≠ 0
      · have hne := vnodeError_ne hf
        exact ⟨⟨if io.fault 0 = EINVAL then EIO else io.fault 0, none, vol, 1⟩,
          by simp [ntfsLogfileCheck, hv, hf], .inr ⟨hf, hne.2, hne.1, rfl, rfl⟩⟩
      · exact ⟨⟨EINVAL, none, vol, 1⟩, by simp [ntfsLogfileCheck, hv, hf, hs],
          .inl (by simp [checkPlain, hv, hs])⟩
  · exact ⟨⟨0, none, vol, 0⟩, by simp [ntfsLogfileCheck, hv], .inl (by simp [checkPlain, hv])⟩

theorem check_refines_plain_reliable :
    (∀ k, Io.reliable.alloc k = fun _ => 0) ∧
      ∃ r, ntfsLogfileCheck Config.page4k blankLogFile Io.reliable ⟨false⟩ = .ret r ∧
        ((r.err, r.rp, r.vol) = checkPlain Config.page4k blankLogFile (fun _ => 0) ⟨false⟩ ∨
          Io.reliable.fault (r.calls - 1) ≠ 0 ∧ r.err ≠ 0 ∧ r.err ≠ EINVAL ∧ r.rp = none ∧
            r.vol = ⟨false⟩) :=
  ⟨fun _ => rfl,
    check_refines_plain Config.page4k blankLogFile Io.reliable ⟨false⟩ (fun _ => 0) fun _ => rfl⟩

/-! ### What the two restart pages are for -/

variable (c f io) in
/-- **The log is found empty exactly when it is.** With collaborators that never fail, whatever
memory `IOMalloc` hands out, the check of a log not known empty and not too small sets the flag
exactly when every block at `0, 512, 1024, …` below the scanned size carries the empty record
magic; it then returns `0` and no page. -/
theorem check_finds_empty_iff (vol : Volume) (hio : ∀ k, io.fault k = 0)
    (hv : vol.logFileEmpty = false) (hs : c.tooSmall (c.scanSize f.dataSize) = false) :
    ∃ r, ntfsLogfileCheck c f io vol = .ret r ∧
      (r.vol.logFileEmpty = true ↔ ∀ n, scanOffset n < c.scanSize f.dataSize →
        ntfsIsEmptyRecord (magic (f.view (scanOffset n))) = true) ∧
      (r.vol.logFileEmpty = true → r.err = 0 ∧ r.rp = none) := by
  obtain ⟨r, hr, hrun⟩ := ntfsLogfileCheck_spec c f io vol
  refine ⟨r, hr, ?_⟩
  cases hrun with
  | flagged h => simp [hv] at h
  | vnodeFailed h hf => exact absurd (hio 0) hf
  | tooSmall h hf hs' => simp [hs] at hs'
  | scanFailed h hf hs' e s hscan hexit => exact absurd (hio _) hexit.2.2.1
  | scannedEmpty h hf hs' s hscan hexit hl =>
    obtain ⟨hall, hvis⟩ := hexit.2.2.1 hl
    exact ⟨iff_of_true rfl fun n hn => hall _ (hvis n hn), fun _ => ⟨rfl, rfl⟩⟩
  | scannedPages h hf hs' s hscan hexit hl =>
    -- the scan met a block that is not empty, at one of the offsets
    obtain ⟨p, hp, hne⟩ := hexit.2.2.2 hl
    have hlt := hexit.1.visited_lt p hp
    rw [hexit.1.visited_eq] at hp
    obtain ⟨n, -, rfl⟩ := List.mem_map.mp hp
    have hnot : ¬∀ n, scanOffset n < c.scanSize f.dataSize →
        ntfsIsEmptyRecord (magic (f.view (scanOffset n))) = true := fun h =>
      Bool.false_ne_true (hne.symm.trans (h n hlt))
    exact ⟨iff_of_false (by simp [hv]) hnot, fun h => by simp [hv] at h⟩

theorem check_finds_empty_iff_blank :
    (∀ k, Io.reliable.fault k = 0) ∧ (⟨false⟩ : Volume).logFileEmpty = false ∧
      Config.page4k.tooSmall (Config.page4k.scanSize blankLogFile.dataSize) = false ∧
      ∃ r, ntfsLogfileCheck Config.page4k blankLogFile Io.reliable ⟨false⟩ = .ret r ∧
        (r.vol.logFileEmpty = true ↔ ∀ n, scanOffset n < Config.page4k.scanSize blankLogFile.dataSize →
          ntfsIsEmptyRecord (magic (blankLogFile.view (scanOffset n))) = true) ∧
        (r.vol.logFileEmpty = true → r.err = 0 ∧ r.rp = none) :=
  have hs : Config.page4k.tooSmall (Config.page4k.scanSize blankLogFile.dataSize) = false := by
    decide
  ⟨fun _ => rfl, rfl, hs, check_finds_empty_iff Config.page4k blankLogFile Io.reliable
    ⟨false⟩ (fun _ => rfl) rfl hs⟩

/-- A 4 MiB log with `restartPage4k` at offset `0` and zeros after it. -/
def restartLog : LogFile := ⟨restartPage4k, 2 ^ 22⟩

variable (c f io) in
/-- **A valid first restart page is never lost.** With collaborators that never fail, when the
block at `0` of a log not known empty and not too small is a restart page the loader accepts,
the check returns `0`, leaves the flag clear, and returns that page, or a page the loader
accepted at a non-zero offset with a strictly greater LSN. -/
theorem first_restart_page_kept (vol : Volume) (junk : Bytes) (hio : ∀ k, io.fault k = 0)
    (halloc : ∀ k, io.alloc k = junk) (hv : vol.logFileEmpty = false)
    (hs : c.tooSmall (c.scanSize f.dataSize) = false) (hpos : 0 < c.scanSize f.dataSize)
    (hm : ntfsIsRstrRecord (magic (f.view 0)) = true ∨ ntfsIsChkdRecord (magic (f.view 0)) = true)
    {page : Bytes × Int} (hload : loadPlain f junk 0 = some page) :
    ∃ r, ntfsLogfileCheck c f io vol = .ret r ∧ r.err = 0 ∧ r.vol = vol ∧
      (r.rp = some page.1 ∨ ∃ p page', p ≠ 0 ∧ loadPlain f junk p = some page' ∧
        page.2 < page'.2 ∧ r.rp = some page'.1) := by
  obtain ⟨r, hr, empty, pages, hscan, htrue, hfalse⟩ :=
    ntfsLogfileCheck_scanPlain_of_reliable c f io vol junk hio halloc hv hs
  obtain ⟨hcons, htail⟩ := scanOffsets_eq_cons hpos
  obtain ⟨he, hrc, ho⟩ := restart_magic_ne hm
  -- the block at `0` is kept, and the rest of the scan only adds pages
  have hfirst : blockPlain f (loadPlain f junk) 0 true [] = .next false [(0, page)] := by
    simp [blockPlain, he, hrc, if_neg ho, hload]
  rw [hcons, scanPlain, hfirst] at hscan
  dsimp only at hscan
  obtain ⟨rest, hrest, hmem, hflag⟩ :=
    scanPlain_extends f (loadPlain f junk) ((scanOffsets (c.scanSize f.dataSize)).drop 1) false
      [(0, page)]
  rw [hscan] at hrest hflag
  obtain rfl : empty = false := Bool.eq_false_iff.mpr fun h => Bool.false_ne_true (hflag h)
  obtain rfl : pages = [(0, page)] ++ rest := hrest
  obtain ⟨herr, hrp, hvol⟩ := hfalse rfl
  refine ⟨r, hr, by simpa using herr, hvol, ?_⟩
  rcases rest with _ | ⟨b, l⟩
  · exact .inl (by simpa [latestPage] using hrp)
  · by_cases hlt : b.2.2 > page.2
    · obtain ⟨hb, hbload⟩ := hmem b (List.mem_cons_self _ _)
      exact .inr ⟨b.1, b.2, (htail _ hb).ne', hbload, hlt, by simpa [latestPage, hlt] using hrp⟩
    · exact .inl (by simpa [latestPage, hlt] using hrp)

theorem first_restart_page_kept_restartLog :
    ∃ page, (∀ k, Io.reliable.fault k = 0) ∧ (∀ k, Io.reliable.alloc k = fun _ => 0) ∧
      (⟨false⟩ : Volume).logFileEmpty = false ∧
      Config.page4k.tooSmall (Config.page4k.scanSize restartLog.dataSize) = false ∧
      0 < Config.page4k.scanSize restartLog.dataSize ∧
      (ntfsIsRstrRecord (magic (restartLog.view 0)) = true ∨
        ntfsIsChkdRecord (magic (restartLog.view 0)) = true) ∧
      loadPlain restartLog (fun _ => 0) 0 = some page ∧
      ∃ r, ntfsLogfileCheck Config.page4k restartLog Io.reliable ⟨false⟩ = .ret r ∧ r.err = 0 ∧
        r.vol = ⟨false⟩ ∧ (r.rp = some page.1 ∨ ∃ p page', p ≠ 0 ∧
          loadPlain restartLog (fun _ => 0) p = some page' ∧ page.2 < page'.2 ∧ r.rp = some page'.1) :=
  have hs : Config.page4k.tooSmall (Config.page4k.scanSize restartLog.dataSize) = false := by
    decide
  have hpos : 0 < Config.page4k.scanSize restartLog.dataSize := by decide
  have hm : ntfsIsRstrRecord (magic (restartLog.view 0)) = true ∨
      ntfsIsChkdRecord (magic (restartLog.view 0)) = true := by decide
  have ⟨page, hload⟩ : ∃ page, loadPlain restartLog (fun _ => 0) 0 = some page :=
    Option.isSome_iff_exists.mp (by decide)
  ⟨page, fun _ => rfl, fun _ => rfl, rfl, hs, hpos, hm, hload,
    first_restart_page_kept Config.page4k restartLog Io.reliable ⟨false⟩ (fun _ => 0) (fun _ => rfl)
      (fun _ => rfl) rfl hs hpos hm hload⟩

/-- A 4 MiB log whose first restart page has major version `2`, which the header check rejects,
and whose second, at `4096`, is `restartPage4k`. -/
def secondPageLog : LogFile :=
  ⟨fun i => if i < 4096 then Function.update restartPage4k 28 2 i else restartPage4k (i - 4096),
    2 ^ 22⟩

variable (c f io) in
/-- **The second restart page stands in for the first.** With collaborators that never fail,
when the block at `0` of a log not known empty and not too small is neither empty nor a log
record page nor a restart page the loader accepts, and the scan meets, past blocks of none of
the four record kinds, a restart page the loader accepts at a non-zero offset `S`, the check
returns `0` and that page. -/
theorem second_restart_page_used (vol : Volume) (junk : Bytes) (hio : ∀ k, io.fault k = 0)
    (halloc : ∀ k, io.alloc k = junk) (hv : vol.logFileEmpty = false)
    (hs : c.tooSmall (c.scanSize f.dataSize) = false) {S : Nat} {page : Bytes × Int}
    (hS : S ∈ scanOffsets (c.scanSize f.dataSize)) (hS0 : S ≠ 0)
    (hm : ntfsIsRstrRecord (magic (f.view S)) = true ∨ ntfsIsChkdRecord (magic (f.view S)) = true)
    (hload : loadPlain f junk S = some page)
    (h0 : ntfsIsEmptyRecord (magic (f.view 0)) = false ∧
      ntfsIsRcrdRecord (magic (f.view 0)) = false ∧
      (ntfsIsRstrRecord (magic (f.view 0)) = true ∨ ntfsIsChkdRecord (magic (f.view 0)) = true →
        loadPlain f junk 0 = none))
    (hmid : ∀ p ∈ scanOffsets (c.scanSize f.dataSize), 0 < p → p < S →
      ntfsIsEmptyRecord (magic (f.view p)) = false ∧ ntfsIsRcrdRecord (magic (f.view p)) = false ∧
        ntfsIsRstrRecord (magic (f.view p)) = false ∧ ntfsIsChkdRecord (magic (f.view p)) = false) :
    ∃ r, ntfsLogfileCheck c f io vol = .ret r ∧ r.err = 0 ∧ r.rp = some page.1 ∧ r.vol = vol := by
  obtain ⟨r, hr, empty, pages, hscan, htrue, hfalse⟩ :=
    ntfsLogfileCheck_scanPlain_of_reliable c f io vol junk hio halloc hv hs
  obtain ⟨n, -, hSlt⟩ := mem_scanOffsets.mp hS
  obtain ⟨hcons, htail⟩ := scanOffsets_eq_cons ((Nat.pos_of_ne_zero hS0).trans hSlt)
  -- the block at `0` is passed over
  have hfirst : blockPlain f (loadPlain f junk) 0 true [] = .next false [] := by
    obtain ⟨he, hrc, hrej⟩ := h0
    by_cases hm0 : ntfsIsRstrRecord (magic (f.view 0)) = true ∨
        ntfsIsChkdRecord (magic (f.view 0)) = true
    · simp [blockPlain, he, hrc, if_neg (restart_magic_ne hm0).2.2, hrej hm0]
    · simp only [not_or, Bool.not_eq_true] at hm0
      simp [blockPlain, he, hrc, hm0]
  -- the offsets after `0` run through the blocks below `S` up to `S`
  have hStail : S ∈ (scanOffsets (c.scanSize f.dataSize)).drop 1 := by
    rw [hcons] at hS
    exact (List.mem_cons.mp hS).resolve_left hS0
  obtain ⟨pre, post, hsplit⟩ := List.append_of_mem hStail
  have hsorted : (pre ++ S :: post).Pairwise (· < ·) := by
    rw [← hsplit]
    exact (scanOffsets_sorted _).sublist (List.drop_sublist 1 _)
  rw [List.pairwise_append] at hsorted
  have hpre : ∀ p ∈ pre, ntfsIsEmptyRecord (magic (f.view p)) = false ∧
      ntfsIsRcrdRecord (magic (f.view p)) = false ∧ ntfsIsRstrRecord (magic (f.view p)) = false ∧
      ntfsIsChkdRecord (magic (f.view p)) = false := fun p hp => by
    have hpt : p ∈ (scanOffsets (c.scanSize f.dataSize)).drop 1 := hsplit ▸ List.mem_append_left _ hp
    exact hmid p ((List.drop_sublist 1 _).subset hpt) (htail p hpt)
      (hsorted.2.2 p hp S (List.mem_cons_self _ _))
  rw [hcons, scanPlain, hfirst, hsplit] at hscan
  dsimp only at hscan
  rw [scanPlain_reaches f (loadPlain f junk) hS0 hm hload post pre [] hpre] at hscan
  obtain ⟨rfl, rfl⟩ := Prod.mk.inj hscan
  obtain ⟨herr, hrp, hvol⟩ := hfalse rfl
  exact ⟨r, hr, by simpa using herr, by simpa [latestPage] using hrp, hvol⟩

theorem second_restart_page_used_secondPageLog :
    ∃ page, (∀ k, Io.reliable.fault k = 0) ∧ (∀ k, Io.reliable.alloc k = fun _ => 0) ∧
      (⟨false⟩ : Volume).logFileEmpty = false ∧
      Config.page4k.tooSmall (Config.page4k.scanSize secondPageLog.dataSize) = false ∧
      4096 ∈ scanOffsets (Config.page4k.scanSize secondPageLog.dataSize) ∧
      (ntfsIsRstrRecord (magic (secondPageLog.view 4096)) = true ∨
        ntfsIsChkdRecord (magic (secondPageLog.view 4096)) = true) ∧
      loadPlain secondPageLog (fun _ => 0) 4096 = some page ∧
      (ntfsIsEmptyRecord (magic (secondPageLog.view 0)) = false ∧
        ntfsIsRcrdRecord (magic (secondPageLog.view 0)) = false ∧
        (ntfsIsRstrRecord (magic (secondPageLog.view 0)) = true ∨
          ntfsIsChkdRecord (magic (secondPageLog.view 0)) = true →
          loadPlain secondPageLog (fun _ => 0) 0 = none)) ∧
      (∀ p ∈ scanOffsets (Config.page4k.scanSize secondPageLog.dataSize), 0 < p → p < 4096 →
        ntfsIsEmptyRecord (magic (secondPageLog.view p)) = false ∧
        ntfsIsRcrdRecord (magic (secondPageLog.view p)) = false ∧
        ntfsIsRstrRecord (magic (secondPageLog.view p)) = false ∧
        ntfsIsChkdRecord (magic (secondPageLog.view p)) = false) ∧
      ∃ r, ntfsLogfileCheck Config.page4k secondPageLog Io.reliable ⟨false⟩ = .ret r ∧
        r.err = 0 ∧ r.rp = some page.1 ∧ r.vol = ⟨false⟩ :=
  have hs : Config.page4k.tooSmall (Config.page4k.scanSize secondPageLog.dataSize) = false := by
    decide
  have hS : 4096 ∈ scanOffsets (Config.page4k.scanSize secondPageLog.dataSize) := by decide
  have hm : ntfsIsRstrRecord (magic (secondPageLog.view 4096)) = true ∨
      ntfsIsChkdRecord (magic (secondPageLog.view 4096)) = true := by decide
  have ⟨page, hload⟩ : ∃ page, loadPlain secondPageLog (fun _ => 0) 4096 = some page :=
    Option.isSome_iff_exists.mp (by decide)
  have h0 : ntfsIsEmptyRecord (magic (secondPageLog.view 0)) = false ∧
      ntfsIsRcrdRecord (magic (secondPageLog.view 0)) = false ∧
      (ntfsIsRstrRecord (magic (secondPageLog.view 0)) = true ∨
        ntfsIsChkdRecord (magic (secondPageLog.view 0)) = true →
        loadPlain secondPageLog (fun _ => 0) 0 = none) :=
    ⟨by decide, by decide, fun _ => Option.isNone_iff_eq_none.mp (by decide)⟩
  have hmid : ∀ p ∈ scanOffsets (Config.page4k.scanSize secondPageLog.dataSize), 0 < p →
      p < 4096 → ntfsIsEmptyRecord (magic (secondPageLog.view p)) = false ∧
        ntfsIsRcrdRecord (magic (secondPageLog.view p)) = false ∧
        ntfsIsRstrRecord (magic (secondPageLog.view p)) = false ∧
        ntfsIsChkdRecord (magic (secondPageLog.view p)) = false := by decide
  ⟨page, fun _ => rfl, fun _ => rfl, rfl, hs, hS, hm, hload, h0, hmid,
    second_restart_page_used Config.page4k secondPageLog Io.reliable ⟨false⟩ (fun _ => 0)
      (fun _ => rfl) (fun _ => rfl) rfl hs hS (by decide) hm hload h0 hmid⟩

end NtfsLogfile
