import NtfsLogfile.Layout

/-!
# What the code runs against

The constants the kernel headers and `ntfs_logfile.h` provide, the $LogFile inode, the volume
flag, the collaborators that can fail, and kernel buffers. A call of kernel code returns, panics,
or (for a loop run with fuel) has not finished: `Outcome`.

Collaborator calls that can fail are numbered in the order a run makes them, and `Io.fault`
says what each returns. Every pattern of failures is an `Io`, so a statement over all `Io`
covers every way the I/O layer and the allocator can behave.
-/

namespace NtfsLogfile

/-- The constants the source uses but does not define: `PAGE_SHIFT` of the kernel
(`PAGE_SIZE = 1 << PAGE_SHIFT`) and the three limits of `ntfs_logfile.h`. -/
structure Config where
  pageShift : Nat
  ntfsMaxLogFileSize : Nat
  ntfsDefaultLogPageSize : Nat
  ntfsMinLogRecordPages : Nat
  /-- `PAGE_SIZE` and the loader's `unsigned` page arithmetic fit in 32 bits. -/
  pageShift_le : pageShift ≤ 31
  ntfsDefaultLogPageSize_pow : ntfsDefaultLogPageSize.isPowerOfTwo
  /-- The scan doubles offsets below the maximum size in an `s64`. -/
  ntfsMaxLogFileSize_le : ntfsMaxLogFileSize ≤ 2 ^ 62

/-- `PAGE_SIZE`. -/
def Config.pageSize (c : Config) : Nat := 2 ^ c.pageShift

theorem Config.pageSize_pos (c : Config) : 0 < c.pageSize := Nat.two_pow_pos _

/-- `(unsigned)pos & PAGE_MASK` is the offset of `pos` in its page. -/
theorem Config.mod_pageSize (c : Config) (x : Nat) : x % 2 ^ 32 % c.pageSize = x % c.pageSize :=
  Nat.mod_mod_of_dvd x (Nat.pow_dvd_pow 2 (by have := c.pageShift_le; omega))

/-- A configuration with 4 KiB kernel pages, a 4 GiB maximum log size, 4096-byte default log
pages and a minimum of 48 log record pages. -/
def Config.page4k : Config where
  pageShift := 12
  ntfsMaxLogFileSize := 2 ^ 32
  ntfsDefaultLogPageSize := 4096
  ntfsMinLogRecordPages := 48
  pageShift_le := by decide
  ntfsDefaultLogPageSize_pow := ⟨12, rfl⟩
  ntfsMaxLogFileSize_le := by decide

/-- The $LogFile inode as the code reads it: its data, through the page cache, and
`ni->data_size`. -/
structure LogFile where
  data : Bytes
  dataSize : Nat

/-- The file from offset `pos` on, as a mapped page shows it. -/
def LogFile.view (f : LogFile) (pos : Nat) : Bytes := f.data.drop pos

@[simp] theorem LogFile.view_apply (f : LogFile) (pos i : Nat) : f.view pos i = f.data (pos + i) :=
  rfl

/-- The collaborators of one run. `fault k` is what the `k`-th call that can fail returns
(`0` for success; for `IOMalloc` any other value stands for a NULL return), and `alloc k` is
the uninitialised memory the `k`-th hands out when it is `IOMalloc`. -/
structure Io where
  fault : Nat → Nat
  alloc : Nat → Bytes

/-- The calls `k₀ ≤ k < k₁` of a run all succeeded. -/
def Io.AllOk (io : Io) (k₀ k₁ : Nat) : Prop := ∀ k, k₀ ≤ k → k < k₁ → io.fault k = 0

theorem Io.AllOk.refl (io : Io) (k : Nat) : io.AllOk k k := fun _ h1 h2 => absurd h2 (by omega)

theorem Io.AllOk.trans {io : Io} {k₀ k₁ k₂ : Nat} (h₁ : io.AllOk k₀ k₁) (h₂ : io.AllOk k₁ k₂) :
    io.AllOk k₀ k₂ :=
  fun k h1 h2 => if hk : k < k₁ then h₁ k h1 hk else h₂ k (by omega) h2

theorem Io.AllOk.of_succ {io : Io} {k k' : Nat} (h0 : io.fault k = 0) (h : io.AllOk (k + 1) k') :
    io.AllOk k k' :=
  fun j h1 h2 => if hj : j = k then hj ▸ h0 else h j (by omega) h2

/-- No collaborator call fails. -/
def Io.reliable : Io := ⟨fun _ => 0, fun _ _ => 0⟩

/-- The per-volume state this code reads and writes: `NVolLogFileEmpty`. -/
structure Volume where
  logFileEmpty : Bool

/-- How a call of kernel code ends. `hang` is a loop that has not finished within its fuel. -/
inductive Outcome (α : Type) where
  | ret : α → Outcome α
  | panic : Outcome α
  | hang : Outcome α

/-! ### Error numbers -/

def EIO : Nat := 5

def ENOMEM : Nat := 12

def EINVAL : Nat := 22

/-- `if (err != EIO && err != ENOMEM) err = EIO;` after a failed `ntfs_page_map`, in the scan
and in the loader alike. -/
def mapReadError (err : Nat) : Nat := if err ≠ EIO ∧ err ≠ ENOMEM then EIO else err

/-- A failed `ntfs_page_map` is reported as `EIO` or `ENOMEM`. -/
theorem mapReadError_eq (err : Nat) : mapReadError err = EIO ∨ mapReadError err = ENOMEM := by
  unfold mapReadError
  split_ifs with h
  · exact .inl rfl
  · by_cases h' : err = EIO
    · exact .inl h'
    · exact .inr (not_not.mp fun hne => h ⟨h', hne⟩)

theorem readError_ne {e : Nat} (h : e = EIO ∨ e = ENOMEM) : e ≠ EINVAL ∧ e ≠ 0 := by
  rcases h with rfl | rfl <;> decide

/-! ### Kernel buffers -/

/-- A buffer: its bytes, and the offsets `memcpy` has written, in order. The list is
bookkeeping for the proofs, not state of the C code. -/
structure Buf where
  bytes : Bytes
  written : List Nat

/-- `memcpy(b + dst, src, n)`. -/
def Buf.memcpy (b : Buf) (dst : Nat) (src : Bytes) (n : Nat) : Buf :=
  ⟨fun i => if dst ≤ i ∧ i < dst + n then src (i - dst) else b.bytes i,
    b.written ++ List.range' dst n⟩

@[simp] theorem Buf.memcpy_written (b : Buf) (dst : Nat) (src : Bytes) (n : Nat) :
    (b.memcpy dst src n).written = b.written ++ List.range' dst n := rfl

theorem Buf.memcpy_bytes_of_mem {b : Buf} {dst n i : Nat} (src : Bytes) (h1 : dst ≤ i)
    (h2 : i < dst + n) : (b.memcpy dst src n).bytes i = src (i - dst) := by
  simp [Buf.memcpy, h1, h2]

theorem Buf.memcpy_bytes_of_lt {b : Buf} {dst n i : Nat} (src : Bytes) (h : i < dst) :
    (b.memcpy dst src n).bytes i = b.bytes i := by
  simp [Buf.memcpy, Nat.not_le.mpr h]

theorem Buf.memcpy_bytes_of_le {b : Buf} {dst n i : Nat} (src : Bytes) (h : dst + n ≤ i) :
    (b.memcpy dst src n).bytes i = b.bytes i := by
  simp [Buf.memcpy, Nat.not_lt.mpr h]

end NtfsLogfile
