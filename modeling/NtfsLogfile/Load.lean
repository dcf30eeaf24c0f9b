import NtfsLogfile.Mst
import NtfsLogfile.Validate

/-!
# Loading a restart page

`ntfs_restart_page_load` checks the header and the restart area in the block it is handed,
allocates a buffer of the system page size, copies the whole page into it, deprotects the copy,
checks the client array of the copy, and returns the copy with the page's LSN.

The copy takes the page from the block `rp` when the page lies inside the page `rp` was mapped
from, and otherwise copies `rp`'s part and maps the following pages of the file one by one: the
`do … while` loop is `copyPages`, recursive on the bytes left to read.
-/

namespace NtfsLogfile

open RestartPageHeader RestartArea

variable (c : Config) (f : LogFile) (io : Io)

/-- The `do … while (to_read > 0)` loop: map the page of the file at `pos + size`, copy at most
a page of it to `trp + have_read`. The `calls`-th collaborator call is the next. -/
def copyPages (trp : Buf) (pos size haveRead toRead calls : Nat) :
    Outcome (Except Nat Buf × Nat) :=
  let pos := pos + size
  if pos % 2 ^ 32 % c.pageSize ≠ 0 then .panic
  else if io.fault calls ≠ 0 then .ret (.error (mapReadError (io.fault calls)), calls + 1)
  else
    let size := min c.pageSize toRead
    let trp := trp.memcpy haveRead (f.view pos) size
    if h : 0 < toRead - size then copyPages trp pos size (haveRead + size) (toRead - size) (calls + 1)
    else .ret (.ok trp, calls + 1)
termination_by toRead
decreasing_by have := c.pageSize_pos; omega

/-- The copy into the fresh buffer `trp`: `size` is what is left of the page `rp` lies in. -/
def restartPageCopy (trp : Buf) (rp : Bytes) (pos sps calls : Nat) :
    Outcome (Except Nat Buf × Nat) :=
  let size := c.pageSize - pos % 2 ^ 32 % c.pageSize
  if size ≥ sps then .ret (.ok (trp.memcpy 0 rp sps), calls)
  else copyPages c f io (trp.memcpy 0 rp size) pos size size (sps - size) calls

/-- The deprotection of the copy `trp`, skipped when chkdsk left the page without an update
sequence array: the deprotected copy and the error of `ntfs_mst_fixup_post_read`. -/
def restartPageFixup (rp trp : Bytes) : Bytes × Nat :=
  if ntfsIsChkdRecord (magic trp) = false ∨ usaCount trp ≠ 0 then
    ntfsMstFixupPostRead trp (systemPageSize rp)
  else (trp, 0)

/-- The loader after the copy: tolerate a deprotection error when the restart area lies in the
first sector, check the client array of a restart page with clients in use, and read the LSN. -/
def restartPageFinish (rp trp : Bytes) : Except Nat (Bytes × Int) :=
  let ra := restartArea rp
  let fixup := restartPageFixup rp trp
  if fixup.2 ≠ 0 ∧ restartAreaOffset rp + restartAreaLength ra > ntfsBlockSize - 2 then
    .error EINVAL
  else if ntfsIsRstrRecord (magic rp) = true ∧ clientInUseList ra ≠ logfileNoClient ∧
      ntfsLogClientArrayIsConsistent fixup.1 ≠ .ok () then
    .error EINVAL
  else .ok (fixup.1, if ntfsIsRstrRecord (magic rp) then currentLsn ra else chkdskLsn rp)

/-- `ntfs_restart_page_load(ni, rp, pos, &trp, &lsn)`: the error, or the deprotected copy and
its LSN, with the number of collaborator calls made so far. The first call it can make is the
`calls`-th, `IOMalloc`. -/
def ntfsRestartPageLoad (rp : Bytes) (pos calls : Nat) :
    Outcome (Except Nat (Bytes × Int) × Nat) :=
  if ntfsRestartPageHeaderIsValid rp pos ≠ .ok () then .ret (.error EINVAL, calls)
  else if ntfsRestartAreaIsValid rp ≠ .ok () then .ret (.error EINVAL, calls)
  else if io.fault calls ≠ 0 then .ret (.error ENOMEM, calls + 1)
  else
    match restartPageCopy c f io ⟨io.alloc calls, []⟩ rp pos (systemPageSize rp) (calls + 1) with
    | .ret (.ok trp, k) => .ret (restartPageFinish rp trp.bytes, k)
    | .ret (.error e, k) => .ret (.error e, k)
    | .panic => .panic
    | .hang => .hang

end NtfsLogfile
