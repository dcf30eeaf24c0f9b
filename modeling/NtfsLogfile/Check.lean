import NtfsLogfile.Load

/-!
# Checking the journal

`ntfs_logfile_check` looks for the two restart pages. It truncates the file size to the log page
size, refuses a file too small to hold the restart pages and the minimum of log record pages,
and scans offset `0` and then `NTFS_BLOCK_SIZE, 2 * NTFS_BLOCK_SIZE, …` below that size, the
places where a restart page of some page size could start. The scan stops at an empty block after
a non-empty one, at a log record page, or at the second restart page the loader accepts. An empty
log is reported as such; otherwise the restart page with the greater LSN is returned.

`ntfs_logfile_is_clean` reads the returned page, and `ntfs_logfile_empty` fills the file with
`0xff` bytes.
-/

namespace NtfsLogfile

open RestartPageHeader RestartArea

variable (c : Config) (f : LogFile) (io : Io)

/-! ### The scan -/

/-- The locals of the scan loop: `pos`, `ppos`, whether a page is mapped (`upl != NULL`) and its
address `paddr`, `logfile_is_empty`, the two restart pages with their LSNs, and the number of
collaborator calls made. `visited` (the offsets whose block the loop body examined) and
`accepted` (the pages the loader accepted, with their offsets) are bookkeeping for the proofs. -/
structure ScanState where
  pos : Nat
  ppos : Nat
  upl : Bool
  paddr : Bytes
  logfileIsEmpty : Bool
  rstr1 : Option (Bytes × Int)
  rstr2 : Option (Bytes × Int)
  calls : Nat
  visited : List Nat
  accepted : List (Nat × Bytes × Int)

/-- The state before the first pass; the scan's first collaborator call is the second of the
check, after `vnode_get`. -/
def scanStart : ScanState := ⟨0, 0, false, fun _ => 0, true, none, none, 1, [], []⟩

/-- `if (!pos) pos = NTFS_BLOCK_SIZE / 2;` before a `continue`. -/
def ScanState.skip (s : ScanState) : ScanState :=
  { s with pos := if s.pos = 0 then ntfsBlockSize / 2 else s.pos }

/-- `!rstr1_ph ? &rstr1_ph : &rstr2_ph`: where a page the loader accepts goes. -/
def ScanState.store (s : ScanState) (page : Bytes × Int) : ScanState :=
  { s with
    rstr1 := if s.rstr1.isNone then some page else s.rstr1
    rstr2 := if s.rstr1.isNone then s.rstr2 else some page
    accepted := s.accepted ++ [(s.pos, page)] }

/-- How a pass of the loop body ends: `continue`, `break`, or `goto err` with the error. -/
inductive ScanStep where
  | next : ScanState → ScanStep
  | stop : ScanState → ScanStep
  | err : Nat → ScanState → ScanStep

/-- The top of the loop body: map the page of the file holding `pos` unless it is the one
mapped. `pos & ~PAGE_MASK_64` is `pos` rounded down to the page. -/
def scanMap (s : ScanState) : Except Nat ScanState :=
  if s.upl = false ∨ s.pos - s.pos % c.pageSize ≠ s.ppos then
    if io.fault s.calls ≠ 0 then .error (mapReadError (io.fault s.calls))
    else
      .ok { s with
        ppos := s.pos, upl := true, paddr := f.view (s.pos - s.pos % c.pageSize),
        calls := s.calls + 1 }
  else .ok s

/-- The rest of the loop body, on the block at `kaddr = paddr + (pos & PAGE_MASK_64)`. -/
def scanBlock (s : ScanState) : Outcome ScanStep :=
  let kaddr := s.paddr.drop (s.pos % c.pageSize)
  if ntfsIsEmptyRecord (magic kaddr) then
    if s.logfileIsEmpty then .ret (.next s.skip) else .ret (.stop s)
  else
    let s := { s with logfileIsEmpty := false }
    if ntfsIsRcrdRecord (magic kaddr) then .ret (.stop s)
    else if ntfsIsRstrRecord (magic kaddr) = false ∧ ntfsIsChkdRecord (magic kaddr) = false then
      .ret (.next s.skip)
    else
      match ntfsRestartPageLoad c f io kaddr s.pos s.calls with
      | .ret (.ok page, k) =>
        let s := { s.store page with calls := k }
        if s.pos = 0 then .ret (.next { s with pos := ntfsBlockSize / 2 }) else .ret (.stop s)
      | .ret (.error e, k) =>
        if e ≠ EINVAL then .ret (.err e { s with calls := k })
        else .ret (.next { s with calls := k }.skip)
      | .panic => .panic
      | .hang => .hang

/-- One pass of the loop body at `pos`. -/
def scanBody (s : ScanState) : Outcome ScanStep :=
  let s := { s with visited := s.visited ++ [s.pos] }
  match scanMap c f io s with
  | .error e => .ret (.err e { s with calls := s.calls + 1 })
  | .ok s => scanBlock c f io s

/-- `for (pos = ppos = 0; pos < size; pos <<= 1)`, run with `fuel` passes at most: the state at
`break` or at the end, or the error and the state at `goto err`. `pos` is an `s64` below
`NtfsMaxLogFileSize ≤ 2^62`, so doubling it does not overflow. -/
def scanLoop (size : Nat) : Nat → ScanState → Outcome (Except (Nat × ScanState) ScanState)
  | fuel, s =>
    if s.pos < size then
      match fuel with
      | 0 => .hang
      | fuel + 1 =>
        match scanBody c f io s with
        | .ret (.next s) => scanLoop size fuel { s with pos := s.pos * 2 }
        | .ret (.stop s) => .ret (.ok s)
        | .ret (.err e s) => .ret (.error (e, s))
        | .panic => .panic
        | .hang => .hang
    else .ret (.ok s)

/-! ### The check -/

/-- `ffs(x)` of a 32-bit `x`: one more than the index of its lowest set bit, `0` for `0`. -/
def ffs (x : Nat) : Nat := go 32 x 0
where
  go : Nat → Nat → Nat → Nat
    | 0, _, _ => 0
    | n + 1, x, i => if x % 2 = 1 then i + 1 else go n (x / 2) (i + 1)

/-- `log_page_size`: the default log page size when `PAGE_SIZE` lies between it and twice it,
`PAGE_SIZE` otherwise. -/
def Config.logPageSize (c : Config) : Nat :=
  if c.pageSize ≥ c.ntfsDefaultLogPageSize ∧ c.pageSize ≤ c.ntfsDefaultLogPageSize * 2 then
    c.ntfsDefaultLogPageSize
  else c.pageSize

/-- The size the scan covers: `data_size` capped at `NtfsMaxLogFileSize` and rounded down to
the log page size (`size &= ~(s64)(log_page_size - 1)`). -/
def Config.scanSize (c : Config) (dataSize : Nat) : Nat :=
  let size := min dataSize c.ntfsMaxLogFileSize
  size - (size &&& (c.logPageSize - 1))

/-- `$LogFile is too small.`: no room for the two restart pages and the minimum of log record
pages. `log_page_size * 2` is `unsigned`. -/
def Config.tooSmall (c : Config) (size : Nat) : Bool :=
  let lps := c.logPageSize
  size < lps * 2 % 2 ^ 32 ∨ (size - lps * 2 % 2 ^ 32) >>> (ffs lps - 1) < c.ntfsMinLogRecordPages

/-- What `ntfs_logfile_check(ni, &rp)` leaves: the error it returns, `*rp`, the volume flag, and
the number of collaborator calls it made. -/
structure CheckResult where
  err : Nat
  rp : Option Bytes
  vol : Volume
  calls : Nat

/-- The code after the loop: an empty log sets the flag; otherwise the first restart page, or
the second when its LSN is greater. -/
def scanFinish (vol : Volume) (s : ScanState) : Outcome CheckResult :=
  if s.logfileIsEmpty then .ret ⟨0, none, { vol with logFileEmpty := true }, s.calls⟩
  else
    match s.rstr1, s.rstr2 with
    | none, some _ => .panic
    | none, none => .ret ⟨EINVAL, none, vol, s.calls⟩
    | some (rp1, _), none => .ret ⟨0, some rp1, vol, s.calls⟩
    | some (rp1, lsn1), some (rp2, lsn2) =>
      .ret ⟨0, some (if lsn2 > lsn1 then rp2 else rp1), vol, s.calls⟩

/-- `ntfs_logfile_check(ni, &rp)`. Its first collaborator call is `vnode_get`. -/
def ntfsLogfileCheck (vol : Volume) : Outcome CheckResult :=
  if vol.logFileEmpty then .ret ⟨0, none, vol, 0⟩
  else if io.fault 0 ≠ 0 then .ret ⟨if io.fault 0 = EINVAL then EIO else io.fault 0, none, vol, 1⟩
  else
    let size := c.scanSize f.dataSize
    if c.tooSmall size then .ret ⟨EINVAL, none, vol, 1⟩
    else
      match scanLoop c f io size (size + 1) scanStart with
      | .ret (.ok s) => scanFinish vol s
      | .ret (.error (e, s)) => .ret ⟨e, none, vol, s.calls⟩
      | .panic => .panic
      | .hang => .hang

/-! ### After the check -/

/-- `ntfs_logfile_is_clean(ni, rp)`: `TRUE` or `FALSE`, or `FALSE` with the error it logs when
the buffer is not a restart page. -/
def ntfsLogfileIsClean (vol : Volume) (rp : Option Bytes) : Outcome (Except String Bool) :=
  if vol.logFileEmpty then .ret (.ok true)
  else
    match rp with
    | none => .panic
    | some rp =>
      if ntfsIsRstrRecord (magic rp) = false ∧ ntfsIsChkdRecord (magic rp) = false then
        .ret (.error ("Restart page buffer is invalid.  This is probably a bug in that the " ++
          "$LogFile should have been consistency checked before calling this function."))
      else
        let ra := restartArea rp
        if clientInUseList ra ≠ logfileNoClient ∧ flags ra &&& restartVolumeIsClean = 0 then
          .ret (.ok false)
        else .ret (.ok true)

/-- `ntfs_logfile_empty(ni)`: the error, the file and the volume after it. Its collaborator
calls are `vnode_get` and `ntfs_attr_set`, which fills `[0, data_size)` with `0xff`; what a
failed `ntfs_attr_set` leaves in the file is not modelled. -/
def ntfsLogfileEmpty (vol : Volume) : Nat × LogFile × Volume :=
  if vol.logFileEmpty then (0, f, vol)
  else if io.fault 0 ≠ 0 then (io.fault 0, f, vol)
  else if io.fault 1 ≠ 0 then (io.fault 1, f, vol)
  else
    (0, { f with data := fun i => if i < f.dataSize then 0xff else f.data i },
      { vol with logFileEmpty := true })

end NtfsLogfile
