import NtfsLogfile.Layout

/-!
# The three consistency checks

`ntfs_restart_page_header_is_valid`, `ntfs_restart_area_is_valid` and
`ntfs_log_client_array_is_consistent`. Each is a sequence of tests that returns `FALSE` at the
first one that fails, after logging that test's message. A verdict is `Except String Unit`:
`.ok ()` is `TRUE`, and `.error msg` is `FALSE` with `msg` logged through `ntfs_error`.

The code keeps `usa_count`, `usa_end` and `ra_len` in `u16` locals, so those values are taken
`% 2 ^ 16` where the C assigns them; everything else is computed in `int` or wider and does not
wrap on 16-bit and 32-bit fields.
-/

namespace NtfsLogfile

open RestartPageHeader RestartArea LogClientRecord

/-- Verdicts have decidable equality, so the verdict on a given block can be computed. -/
instance instDecidableEqVerdict : DecidableEq (Except String Unit)
  | .ok (), .ok () => isTrue rfl
  | .error a, .error b =>
    if h : a = b then isTrue (h ▸ rfl) else isFalse fun e => by cases e; exact h rfl
  | .ok (), .error _ => isFalse fun e => by cases e
  | .error _, .ok () => isFalse fun e => by cases e

/-- A verdict is `TRUE` when the test in front of it does not fire and the rest passes. -/
@[simp] theorem ite_error_eq_ok {P : Prop} [Decidable P] {msg : String}
    {rest : Except String Unit} :
    (if P then .error msg else rest) = .ok () ↔ ¬P ∧ rest = .ok () := by
  split <;> simp_all

/-! ### The restart page header -/

/-- The code from the `skip_usa_checks` label on: the restart area offset, then the chkdsk
LSN. -/
def skipUsaChecks (rp : Bytes) (haveUsa : Bool) (usaEnd : Nat) : Except String Unit :=
  let raOfs := restartAreaOffset rp
  if raOfs &&& 7 ≠ 0 ∨ (if haveUsa then raOfs < usaEnd else raOfs < sizeofRestartPageHeader) ∨
      raOfs > systemPageSize rp then
    .error "$LogFile restart page specifies inconsistent restart area offset."
  else if ntfsIsChkdRecord (magic rp) = false ∧ chkdskLsn rp ≠ 0 then
    .error "$LogFile restart page is not modified by chkdsk but a chkdsk LSN is specified."
  else .ok ()

def ntfsRestartPageHeaderIsValid (rp : Bytes) (pos : Nat) : Except String Unit :=
  let sps := systemPageSize rp
  let lps := logPageSize rp
  if sps < ntfsBlockSize ∨ lps < ntfsBlockSize ∨ sps &&& (sps - 1) ≠ 0 ∨
      lps &&& (lps - 1) ≠ 0 then
    .error "$LogFile uses unsupported page size."
  else if pos ≠ 0 ∧ pos ≠ sps then
    .error "Found restart area in incorrect position in $LogFile."
  else if majorVer rp ≠ 1 ∨ minorVer rp ≠ 1 then
    .error "$LogFile version %d.%d is not supported.  (This driver supports version 1.1 only.)"
  else if ntfsIsChkdRecord (magic rp) = true ∧ usaCount rp = 0 then
    skipUsaChecks rp false 0
  else
    let usaCount' := (1 + sps >>> ntfsBlockSizeShift) % 2 ^ 16
    if usaCount' ≠ usaCount rp then
      .error "$LogFile restart page specifies inconsistent update sequence array count."
    else
      let usaEnd := (usaOfs rp + usaCount' * 2) % 2 ^ 16
      if usaOfs rp < sizeofRestartPageHeader ∨ usaEnd > ntfsBlockSize - 2 then
        .error "$LogFile restart page specifies inconsistent update sequence array offset."
      else skipUsaChecks rp true usaEnd

/-! ### The restart area -/

/-- `while (file_size) { file_size >>= 1; fs_bits++; }`, run for at most `rounds` rounds; a
`u64` is zero after 64 of them. -/
def fsBitsLoop : (rounds fileSize fsBits : Nat) → Nat
  | 0, _, fsBits => fsBits
  | n + 1, fileSize, fsBits =>
    if fileSize = 0 then fsBits else fsBitsLoop n (fileSize >>> 1) (fsBits + 1)

/-- `fs_bits` after the loop over the `u64` file size. -/
def fileSizeBits (fileSize : Nat) : Nat := fsBitsLoop 64 fileSize 0

/-- The test `le32_to_cpu(ra->seq_number_bits) != (unsigned)(67 - fs_bits)`, negated. -/
def seqNumberBitsMatch (seqNumberBits fileSize : Nat) : Bool :=
  seqNumberBits == 67 - fileSizeBits fileSize

/-- `((x + 7) & ~7) != x` is `x` not being a multiple of 8. -/
def notAligned8 (x : Nat) : Bool := (x + 7) / 8 * 8 != x

def ntfsRestartAreaIsValid (rp : Bytes) : Except String Unit :=
  let raOfs := restartAreaOffset rp
  let ra := restartArea rp
  let sps := systemPageSize rp
  if raOfs + offsetofFileSize > ntfsBlockSize - 2 then
    .error "$LogFile restart area specifies inconsistent file offset."
  else
    let caOfs := clientArrayOffset ra
    if notAligned8 caOfs ∨ raOfs + caOfs > ntfsBlockSize - 2 then
      .error "$LogFile restart area specifies inconsistent client array offset."
    else
      let raLen := (caOfs + logClients ra * sizeofLogClientRecord) % 2 ^ 16
      if raOfs + raLen > sps ∨ raOfs + restartAreaLength ra > sps ∨
          raLen > restartAreaLength ra then
        .error ("$LogFile restart area is out of bounds of the system page size specified by " ++
          "the restart page header and/or the specified restart area length is inconsistent.")
      else if (clientFreeList ra ≠ logfileNoClient ∧ clientFreeList ra ≥ logClients ra) ∨
          (clientInUseList ra ≠ logfileNoClient ∧ clientInUseList ra ≥ logClients ra) then
        .error "$LogFile restart area specifies overflowing client free and/or in use lists."
      else if seqNumberBitsMatch (seqNumberBits ra) (fileSize ra) = false then
        .error "$LogFile restart area specifies inconsistent sequence number bits."
      else if notAligned8 (logRecordHeaderLength ra) then
        .error "$LogFile restart area specifies inconsistent log record header length."
      else if notAligned8 (logPageDataOffset ra) then
        .error "$LogFile restart area specifies inconsistent log page data offset."
      else .ok ()

/-! ### The log client array -/

/-- The `for` loop at `check_list`: walk one list from `idx`, with `nrClients` records left to
visit. `none` is `goto err`; `some` is the count left when the list ends. -/
def checkList (prev next : Nat → Nat) (logClients : Nat) :
    (nrClients idx : Nat) → (idxIsFirst : Bool) → Option Nat
  | nrClients, idx, idxIsFirst =>
    if idx = logfileNoClient then some nrClients
    else match nrClients with
      | 0 => none
      | nr + 1 =>
        if idx ≥ logClients then none
        else if idxIsFirst = true ∧ prev idx ≠ logfileNoClient then none
        else checkList prev next logClients nr (next idx) false

/-- The record at index `idx` of the client array of `rp`: `ca + idx`. -/
def clientRecord (rp : Bytes) (idx : Nat) : Bytes :=
  (restartArea rp).drop (clientArrayOffset (restartArea rp) + idx * sizeofLogClientRecord)

/-- `cr->prev_client` of the record at `idx`. -/
def clientPrev (rp : Bytes) (idx : Nat) : Nat := prevClient (clientRecord rp idx)

/-- `cr->next_client` of the record at `idx`. -/
def clientNext (rp : Bytes) (idx : Nat) : Nat := nextClient (clientRecord rp idx)

/-- The free list, then (after `goto check_list`) the in-use list, on one shared count. -/
def ntfsLogClientArrayIsConsistent (rp : Bytes) : Except String Unit :=
  let ra := restartArea rp
  match checkList (clientPrev rp) (clientNext rp) (logClients ra) (logClients ra)
      (clientFreeList ra) true with
  | none => .error "$LogFile log client array is corrupt."
  | some nrClients =>
    match checkList (clientPrev rp) (clientNext rp) (logClients ra) nrClients
        (clientInUseList ra) true with
    | none => .error "$LogFile log client array is corrupt."
    | some _ => .ok ()

end NtfsLogfile
