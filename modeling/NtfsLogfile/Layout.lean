import Mathlib

/-!
# The $LogFile restart page as the kernel reads it

`ntfs_logfile.c` reads the restart page header, the restart area and the log client records
through typed pointers into a byte buffer. A buffer here is a function from offsets to bytes,
a typed pointer is a buffer shifted to its offset (`Bytes.drop`), and every field is read
little-endian at its offset in the NTFS $LogFile layout.

Every field read sees only its own bytes (`le16_congr` and its siblings). The proofs that a
validator's verdict depends on the first sector only, and that the deprotected copy keeps the
fields the validators read, go through these lemmas.
-/

namespace NtfsLogfile

/-- Memory from a base pointer on: the byte at every offset. -/
abbrev Bytes := Nat → UInt8

namespace Bytes

/-- The buffer at `b + n`. -/
def drop (b : Bytes) (n : Nat) : Bytes := fun i => b (n + i)

/-- `le16_to_cpu` of the word at offset `o`. -/
def le16 (b : Bytes) (o : Nat) : Nat := (b o).toNat + 256 * (b (o + 1)).toNat

def le32 (b : Bytes) (o : Nat) : Nat := b.le16 o + 65536 * b.le16 (o + 2)

def le64 (b : Bytes) (o : Nat) : Nat := b.le32 o + 4294967296 * b.le32 (o + 4)

/-- `sle64_to_cpu`: the same eight bytes as a two's complement integer. -/
def sle64 (b : Bytes) (o : Nat) : Int :=
  if b.le64 o < 2 ^ 63 then b.le64 o else (b.le64 o : Int) - 2 ^ 64

@[simp] theorem drop_apply (b : Bytes) (n i : Nat) : b.drop n i = b (n + i) := rfl

@[simp] theorem drop_drop (b : Bytes) (m n : Nat) : (b.drop m).drop n = b.drop (m + n) := by
  funext i
  simp [Nat.add_assoc]

@[simp] theorem drop_zero (b : Bytes) : b.drop 0 = b := by
  funext i
  simp

@[simp] theorem le16_drop (b : Bytes) (n o : Nat) : (b.drop n).le16 o = b.le16 (n + o) := by
  simp [le16, Nat.add_assoc]

@[simp] theorem le32_drop (b : Bytes) (n o : Nat) : (b.drop n).le32 o = b.le32 (n + o) := by
  simp [le32, Nat.add_assoc]

@[simp] theorem le64_drop (b : Bytes) (n o : Nat) : (b.drop n).le64 o = b.le64 (n + o) := by
  simp [le64, Nat.add_assoc]

@[simp] theorem sle64_drop (b : Bytes) (n o : Nat) : (b.drop n).sle64 o = b.sle64 (n + o) := by
  simp [sle64]

theorem le16_lt (b : Bytes) (o : Nat) : b.le16 o < 2 ^ 16 := by
  have h0 := (b o).toNat_lt_size
  have h1 := (b (o + 1)).toNat_lt_size
  simp only [UInt8.size] at h0 h1
  simp only [le16]
  omega

theorem le32_lt (b : Bytes) (o : Nat) : b.le32 o < 2 ^ 32 := by
  have h0 := b.le16_lt o
  have h1 := b.le16_lt (o + 2)
  simp only [le32]
  omega

theorem le64_lt (b : Bytes) (o : Nat) : b.le64 o < 2 ^ 64 := by
  have h0 := b.le32_lt o
  have h1 := b.le32_lt (o + 4)
  simp only [le64]
  omega

/-- A buffer holding the listed bytes and zeros elsewhere. -/
def ofList (l : List (Nat × UInt8)) : Bytes := fun i => (l.lookup i).getD 0

/-! ### A field read sees its own bytes only -/

theorem le16_congr {b b' : Bytes} {o : Nat} (h : ∀ i, o ≤ i → i < o + 2 → b i = b' i) :
    b.le16 o = b'.le16 o := by
  simp only [le16, h o (le_refl o) (by omega), h (o + 1) (by omega) (by omega)]

theorem le32_congr {b b' : Bytes} {o : Nat} (h : ∀ i, o ≤ i → i < o + 4 → b i = b' i) :
    b.le32 o = b'.le32 o := by
  have hlow : b.le16 o = b'.le16 o := le16_congr fun i h1 h2 => h i h1 (by omega)
  have hhigh : b.le16 (o + 2) = b'.le16 (o + 2) :=
    le16_congr fun i h1 h2 => h i (by omega) (by omega)
  simp only [le32, hlow, hhigh]

theorem le64_congr {b b' : Bytes} {o : Nat} (h : ∀ i, o ≤ i → i < o + 8 → b i = b' i) :
    b.le64 o = b'.le64 o := by
  have hlow : b.le32 o = b'.le32 o := le32_congr fun i h1 h2 => h i h1 (by omega)
  have hhigh : b.le32 (o + 4) = b'.le32 (o + 4) :=
    le32_congr fun i h1 h2 => h i (by omega) (by omega)
  simp only [le64, hlow, hhigh]

theorem sle64_congr {b b' : Bytes} {o : Nat} (h : ∀ i, o ≤ i → i < o + 8 → b i = b' i) :
    b.sle64 o = b'.sle64 o := by
  simp only [sle64, le64_congr h]

end Bytes

/-! ### Constants of the format -/

/-- `NTFS_BLOCK_SIZE`, the sector size that update sequence arrays protect. -/
def ntfsBlockSize : Nat := 512

def ntfsBlockSizeShift : Nat := 9

/-- `LOGFILE_NO_CLIENT`, the end of a client list. -/
def logfileNoClient : Nat := 0xffff

/-- `RESTART_VOLUME_IS_CLEAN` in the restart area flags. -/
def restartVolumeIsClean : Nat := 0x0002

/-- Modelled from the spec: the record magics of `ntfs_layout.h` (not part of the source), the
four ASCII letters read little-endian. -/
def magicRSTR : Nat := 0x52545352

def magicCHKD : Nat := 0x444b4843

def magicRCRD : Nat := 0x44524352

/-- The magic of a never written record: all bits set. -/
def magicEmpty : Nat := 0xffffffff

def ntfsIsRstrRecord (magic : Nat) : Bool := magic == magicRSTR

def ntfsIsChkdRecord (magic : Nat) : Bool := magic == magicCHKD

def ntfsIsRcrdRecord (magic : Nat) : Bool := magic == magicRCRD

def ntfsIsEmptyRecord (magic : Nat) : Bool := magic == magicEmpty

/-- `sizeof(RESTART_PAGE_HEADER)`. -/
def sizeofRestartPageHeader : Nat := 30

/-- `sizeof(LOG_CLIENT_RECORD)`. -/
def sizeofLogClientRecord : Nat := 160

/-- `offsetof(RESTART_AREA, file_size)`. -/
def offsetofFileSize : Nat := 24

/-! ### The three structures -/

namespace RestartPageHeader

/-- Modelled from the spec: `RESTART_PAGE_HEADER` of `ntfs_layout.h` (not part of the source),
at the offsets of the $LogFile format. -/
def magic (rp : Bytes) : Nat := rp.le32 0

def usaOfs (rp : Bytes) : Nat := rp.le16 4

def usaCount (rp : Bytes) : Nat := rp.le16 6

def chkdskLsn (rp : Bytes) : Int := rp.sle64 8

def systemPageSize (rp : Bytes) : Nat := rp.le32 16

def logPageSize (rp : Bytes) : Nat := rp.le32 20

def restartAreaOffset (rp : Bytes) : Nat := rp.le16 24

/-- `sle16`; the code only compares it with `1`, which the unsigned reading decides alike. -/
def minorVer (rp : Bytes) : Nat := rp.le16 26

def majorVer (rp : Bytes) : Nat := rp.le16 28

end RestartPageHeader

namespace RestartArea

/-- Modelled from the spec: `RESTART_AREA` of `ntfs_layout.h` (not part of the source), at the
offsets of the $LogFile format, read through `ra`, the restart page shifted to the area. -/
def currentLsn (ra : Bytes) : Int := ra.sle64 0

def logClients (ra : Bytes) : Nat := ra.le16 8

def clientFreeList (ra : Bytes) : Nat := ra.le16 10

def clientInUseList (ra : Bytes) : Nat := ra.le16 12

def flags (ra : Bytes) : Nat := ra.le16 14

def seqNumberBits (ra : Bytes) : Nat := ra.le32 16

def restartAreaLength (ra : Bytes) : Nat := ra.le16 20

def clientArrayOffset (ra : Bytes) : Nat := ra.le16 22

/-- `(u64)sle64_to_cpu(ra->file_size)`: the raw 64 bits as an unsigned value. -/
def fileSize (ra : Bytes) : Nat := ra.le64 24

def logRecordHeaderLength (ra : Bytes) : Nat := ra.le16 36

def logPageDataOffset (ra : Bytes) : Nat := ra.le16 38

end RestartArea

namespace LogClientRecord

/-- Modelled from the spec: `LOG_CLIENT_RECORD` of `ntfs_layout.h` (not part of the source). -/
def prevClient (cr : Bytes) : Nat := cr.le16 16

def nextClient (cr : Bytes) : Nat := cr.le16 18

end LogClientRecord

/-- The restart area of a restart page: `(RESTART_AREA*)((u8*)rp + ra_ofs)`. -/
def restartArea (rp : Bytes) : Bytes := rp.drop (RestartPageHeader.restartAreaOffset rp)

end NtfsLogfile
