import NtfsLogfile.Proof.Header

/-!
# What the restart area check establishes

`ValidRestartArea rp` is what `ntfs_restart_area_is_valid` knows once it has accepted the
restart area of `rp`, and `ntfsRestartAreaIsValid_iff` shows it is exactly what the check tests.
The minimum length `ra_len` is a `u16` in the code, so the bounds on it hold `% 2 ^ 16` only: a
client count of 410 makes `410 * 160` wrap, and an array that reaches about 64 KiB past a 4 KiB
page is accepted (`restart_area_accepts_wrapped_client_array`).

The sequence number check compares with `67` less the bit length of the file size, which the
shift loop computes for every `u64` (`fileSizeBits_eq_bitLength`).
-/

namespace NtfsLogfile

open RestartPageHeader RestartArea

/-! ### The file size bit count -/

/-- The bit length of `v`: the position of its highest set bit plus one, and `0` for `0`. -/
def bitLength (v : Nat) : Nat := if v = 0 then 0 else Nat.log 2 v + 1

theorem fsBitsLoop_eq : ∀ (n v acc : Nat), v < 2 ^ n → fsBitsLoop n v acc = acc + bitLength v
  | 0, v, acc, hv => by
    have hv0 : v = 0 := by simpa using hv
    simp [fsBitsLoop, bitLength, hv0]
  | n + 1, v, acc, hv => by
    unfold fsBitsLoop
    split_ifs with h0
    · simp [bitLength, h0]
    · have hhalf : v >>> 1 = v / 2 := Nat.shiftRight_eq_div_pow v 1
      rw [hhalf, fsBitsLoop_eq n (v / 2) (acc + 1) (by rw [Nat.pow_succ] at hv; omega)]
      by_cases h1 : v / 2 = 0
      · have hv1 : v = 1 := by omega
        simp [bitLength, h1, hv1]
      · have hlog : Nat.log 2 (v / 2) = Nat.log 2 v - 1 := Nat.log_div_base 2 v
        have hpos : 0 < Nat.log 2 v := Nat.log_pos Nat.one_lt_two (by omega)
        simp only [bitLength, h1, h0, if_false]
        omega

theorem bitLength_le_64 {v : Nat} (hv : v < 2 ^ 64) : bitLength v ≤ 64 := by
  unfold bitLength
  split_ifs with h0
  · omega
  · have := Nat.log_lt_of_lt_pow h0 hv
    omega

/-- The shift loop counts the bits of every 64-bit value. -/
theorem fileSizeBits_of_lt {v : Nat} (hv : v < 2 ^ 64) : fileSizeBits v = bitLength v := by
  simpa using fsBitsLoop_eq 64 v 0 hv

/-- The sequence number check accepts exactly `67` less the bit length of the file size. -/
theorem seqNumberBitsMatch_iff (ra : Bytes) (s : Nat) :
    seqNumberBitsMatch s (fileSize ra) = true ↔ s = 67 - bitLength (fileSize ra) := by
  simp [seqNumberBitsMatch, fileSizeBits_of_lt (show fileSize ra < 2 ^ 64 from ra.le64_lt 24)]

/-- **The shift loop counts bits.** For every value of the 64-bit `file_size` field the loop
ends with its bit length, which is 64 for every negative `file_size`; the sequence number check
then accepts exactly `67 - bitLength`, and neither of its neighbours. -/
theorem fileSizeBits_eq_bitLength (ra : Bytes) :
    fileSizeBits (fileSize ra) = bitLength (fileSize ra) ∧
      (ra.sle64 24 < 0 → fileSizeBits (fileSize ra) = 64) ∧
      (∀ s, seqNumberBitsMatch s (fileSize ra) = true ↔ s = 67 - bitLength (fileSize ra)) ∧
      seqNumberBitsMatch (67 - bitLength (fileSize ra) + 1) (fileSize ra) = false ∧
      seqNumberBitsMatch (67 - bitLength (fileSize ra) - 1) (fileSize ra) = false := by
  have hlt : fileSize ra < 2 ^ 64 := ra.le64_lt 24
  have hbits : fileSizeBits (fileSize ra) = bitLength (fileSize ra) := by
    simpa using fsBitsLoop_eq 64 (fileSize ra) 0 hlt
  have hle := bitLength_le_64 hlt
  refine ⟨hbits, fun hneg => ?_, fun s => by simp [seqNumberBitsMatch, hbits], ?_, ?_⟩
  · have hhigh : 2 ^ 63 ≤ fileSize ra := by
      unfold Bytes.sle64 at hneg
      unfold fileSize
      split_ifs at hneg <;> omega
    have hlog : Nat.log 2 (fileSize ra) = 63 :=
      (Nat.log_eq_iff (Or.inl (by decide))).mpr ⟨hhigh, hlt⟩
    simp [hbits, bitLength, hlog, show fileSize ra ≠ 0 by omega]
  all_goals
    simp only [seqNumberBitsMatch, hbits, beq_eq_false_iff_ne]
    omega

/-! ### The restart area check, exactly -/

theorem notAligned8_eq_false_iff (x : Nat) : notAligned8 x = false ↔ x % 8 = 0 := by
  simp only [notAligned8, bne_eq_false_iff_eq]
  omega

/-- The minimum length of the restart area as the code holds it, in a `u16`. -/
def raLen (ra : Bytes) : Nat := (clientArrayOffset ra + logClients ra * sizeofLogClientRecord) % 2 ^ 16

/-- What an accepted restart area carries; `ra` is `restartArea rp` throughout. -/
structure ValidRestartArea (rp : Bytes) : Prop where
  fileSize_end : restartAreaOffset rp + offsetofFileSize ≤ ntfsBlockSize - 2
  clientArrayOffset_aligned : clientArrayOffset (restartArea rp) % 8 = 0
  clientArrayOffset_le : restartAreaOffset rp + clientArrayOffset (restartArea rp) ≤ ntfsBlockSize - 2
  raLen_le_page : restartAreaOffset rp + raLen (restartArea rp) ≤ systemPageSize rp
  length_le_page : restartAreaOffset rp + restartAreaLength (restartArea rp) ≤ systemPageSize rp
  raLen_le_length : raLen (restartArea rp) ≤ restartAreaLength (restartArea rp)
  freeList_lt : clientFreeList (restartArea rp) = logfileNoClient ∨
    clientFreeList (restartArea rp) < logClients (restartArea rp)
  inUseList_lt : clientInUseList (restartArea rp) = logfileNoClient ∨
    clientInUseList (restartArea rp) < logClients (restartArea rp)
  seqNumberBits_eq : seqNumberBits (restartArea rp) = 67 - bitLength (fileSize (restartArea rp))
  logRecordHeaderLength_aligned : logRecordHeaderLength (restartArea rp) % 8 = 0
  logPageDataOffset_aligned : logPageDataOffset (restartArea rp) % 8 = 0

/-- **The restart area check, exactly.** -/
theorem ntfsRestartAreaIsValid_iff (rp : Bytes) :
    ntfsRestartAreaIsValid rp = .ok () ↔ ValidRestartArea rp := by
  have hseq := seqNumberBitsMatch_iff (restartArea rp) (seqNumberBits (restartArea rp))
  have hca := notAligned8_eq_false_iff (clientArrayOffset (restartArea rp))
  have hlr := notAligned8_eq_false_iff (logRecordHeaderLength (restartArea rp))
  have hlp := notAligned8_eq_false_iff (logPageDataOffset (restartArea rp))
  unfold ntfsRestartAreaIsValid
  simp only [ite_error_eq_ok, not_or, not_and, not_lt, Bool.not_eq_false, Bool.not_eq_true,
    and_true, hseq, hca, hlr, hlp]
  constructor
  · rintro ⟨h1, ⟨h2, h3⟩, ⟨h4, h5, h6⟩, ⟨h7, h8⟩, h9, h10, h11⟩
    exact ⟨h1, h2, h3, h4, h5, h6, by omega, by omega, h9, h10, h11⟩
  · intro h
    exact ⟨h.fileSize_end, ⟨h.clientArrayOffset_aligned, h.clientArrayOffset_le⟩,
      ⟨h.raLen_le_page, h.length_le_page, h.raLen_le_length⟩,
      ⟨by have := h.freeList_lt; omega, by have := h.inUseList_lt; omega⟩, h.seqNumberBits_eq,
      h.logRecordHeaderLength_aligned, h.logPageDataOffset_aligned⟩

/-- Without a wrap of the `u16` `ra_len`, an accepted restart area holds its client array. -/
theorem ValidRestartArea.clients_le_length {rp : Bytes} (h : ValidRestartArea rp)
    (hwrap : clientArrayOffset (restartArea rp) +
      logClients (restartArea rp) * sizeofLogClientRecord < 2 ^ 16) :
    clientArrayOffset (restartArea rp) + logClients (restartArea rp) * sizeofLogClientRecord ≤
      restartAreaLength (restartArea rp) := by
  have hlen := h.raLen_le_length
  rwa [raLen, Nat.mod_eq_of_lt hwrap] at hlen

/-- A restart page whose restart area at 48 declares 410 clients behind a client array at 48 and
a length of 112: `48 + 410 * 160 = 65648` wraps to 112 in the `u16` `ra_len`. -/
def wrappedClientsPage : Bytes :=
  Bytes.ofList [(0, 0x52), (1, 0x53), (2, 0x54), (3, 0x52), (4, 30), (6, 9), (17, 0x10),
    (21, 0x10), (24, 48), (26, 1), (28, 1), (56, 0x9A), (57, 0x01), (58, 0xFF), (59, 0xFF),
    (60, 0xFF), (61, 0xFF), (64, 67), (68, 112), (70, 48)]

/-- Both checks accept `wrappedClientsPage`, yet over the integers its client array ends past the
declared length, past the 4096-byte system page, and past the first sector although the declared
extent lies inside it. -/
theorem restart_area_accepts_wrapped_client_array :
    ntfsRestartPageHeaderIsValid wrappedClientsPage 0 = .ok () ∧
      ntfsRestartAreaIsValid wrappedClientsPage = .ok () ∧
      restartAreaLength (restartArea wrappedClientsPage) <
        clientArrayOffset (restartArea wrappedClientsPage) +
          logClients (restartArea wrappedClientsPage) * sizeofLogClientRecord ∧
      systemPageSize wrappedClientsPage < restartAreaOffset wrappedClientsPage +
        clientArrayOffset (restartArea wrappedClientsPage) +
          logClients (restartArea wrappedClientsPage) * sizeofLogClientRecord ∧
      restartAreaOffset wrappedClientsPage + restartAreaLength (restartArea wrappedClientsPage) ≤
        ntfsBlockSize - 2 := by
  decide

/-! ### What the verdict reads

The two checks read the header's first 30 bytes and the restart area's first 40, nothing else.
The area may start as late as byte 480, and nothing keeps `client_array_offset` from lying below
the end of the area's fields, so the fields past `file_size` can fall on the first protected
word and beyond the first sector. -/

theorem verdicts_congr {b b' : Bytes} {pos : Nat}
    (hhdr : ∀ i, i < sizeofRestartPageHeader → b i = b' i)
    (harea : ∀ i, restartAreaOffset b ≤ i → i < restartAreaOffset b + 40 → b i = b' i) :
    ntfsRestartPageHeaderIsValid b pos = ntfsRestartPageHeaderIsValid b' pos ∧
      ntfsRestartAreaIsValid b = ntfsRestartAreaIsValid b' := by
  have h16 : ∀ o, o + 2 ≤ sizeofRestartPageHeader → b.le16 o = b'.le16 o := fun o ho =>
    Bytes.le16_congr fun i _ hi => hhdr i (by omega)
  have h32 : ∀ o, o + 4 ≤ sizeofRestartPageHeader → b.le32 o = b'.le32 o := fun o ho =>
    Bytes.le32_congr fun i _ hi => hhdr i (by omega)
  have hraofs : restartAreaOffset b = restartAreaOffset b' := h16 24 (by decide)
  have hsps : systemPageSize b = systemPageSize b' := h32 16 (by decide)
  have hlsn : chkdskLsn b = chkdskLsn b' :=
    Bytes.sle64_congr fun i _ hi => hhdr i (by unfold sizeofRestartPageHeader; omega)
  have ha16 : ∀ o, o + 2 ≤ 40 → (restartArea b).le16 o = (restartArea b').le16 o := fun o ho => by
    simp only [restartArea, Bytes.le16_drop, ← hraofs]
    exact Bytes.le16_congr fun i h1 h2 => harea i (by omega) (by omega)
  have ha32 : (restartArea b).le32 16 = (restartArea b').le32 16 := by
    simp only [restartArea, Bytes.le32_drop, ← hraofs]
    exact Bytes.le32_congr fun i h1 h2 => harea i (by omega) (by omega)
  have ha64 : (restartArea b).le64 24 = (restartArea b').le64 24 := by
    simp only [restartArea, Bytes.le64_drop, ← hraofs]
    exact Bytes.le64_congr fun i h1 h2 => harea i (by omega) (by omega)
  constructor
  · simp only [ntfsRestartPageHeaderIsValid, skipUsaChecks, magic, usaOfs, usaCount, logPageSize,
      minorVer, majorVer, h16 4 (by decide), h16 6 (by decide), h16 26 (by decide),
      h16 28 (by decide), h32 0 (by decide), h32 20 (by decide), hraofs, hsps, hlsn]
  · simp only [ntfsRestartAreaIsValid, clientArrayOffset, logClients, restartAreaLength,
      clientFreeList, clientInUseList, seqNumberBits, fileSize, logRecordHeaderLength,
      logPageDataOffset, ha16 8 (by decide), ha16 10 (by decide), ha16 12 (by decide),
      ha16 20 (by decide), ha16 22 (by decide), ha16 36 (by decide), ha16 38 (by decide), ha32,
      ha64, hraofs, hsps]

/-- Changing a byte outside the header and the restart area's fields, here the second protected
word, changes neither verdict. -/
theorem verdicts_congr_restartPage4k :
    (∀ i, i < sizeofRestartPageHeader →
        restartPage4k i = Function.update restartPage4k 1022 7 i) ∧
      (∀ i, restartAreaOffset restartPage4k ≤ i → i < restartAreaOffset restartPage4k + 40 →
        restartPage4k i = Function.update restartPage4k 1022 7 i) ∧
      ntfsRestartPageHeaderIsValid restartPage4k 0 =
        ntfsRestartPageHeaderIsValid (Function.update restartPage4k 1022 7) 0 ∧
      ntfsRestartAreaIsValid restartPage4k =
        ntfsRestartAreaIsValid (Function.update restartPage4k 1022 7) :=
  have hofs : restartAreaOffset restartPage4k = 48 := by decide
  have hhdr : ∀ i, i < sizeofRestartPageHeader →
      restartPage4k i = Function.update restartPage4k 1022 7 i := fun i hi =>
    (Function.update_noteq (by unfold sizeofRestartPageHeader at hi; omega) _ _).symm
  have harea : ∀ i, restartAreaOffset restartPage4k ≤ i →
      i < restartAreaOffset restartPage4k + 40 →
      restartPage4k i = Function.update restartPage4k 1022 7 i := fun i _ hi =>
    (Function.update_noteq (by omega) _ _).symm
  ⟨hhdr, harea, @verdicts_congr _ _ 0 hhdr harea⟩

/-- A restart page whose restart area sits at 480 with its client array at offset 0, so its
`file_size` occupies bytes 504 to 511, the last two of them the first protected word. -/
def protectedWordPage : Bytes :=
  Bytes.ofList [(0, 0x52), (1, 0x53), (2, 0x54), (3, 0x52), (4, 30), (6, 9), (17, 0x10),
    (21, 0x10), (24, 0xE0), (25, 1), (26, 1), (28, 1), (488, 1), (490, 0xFF), (491, 0xFF),
    (492, 0xFF), (493, 0xFF), (496, 50), (500, 160), (506, 1)]

/-- Two first blocks that agree before the first protected word get different verdicts:
changing byte 511, inside the update sequence number's slot, changes the file size the
sequence number check reads. -/
theorem verdict_reads_protected_word :
    (∀ i, i < ntfsBlockSize - 2 → Function.update protectedWordPage 511 1 i = protectedWordPage i) ∧
      ntfsRestartPageHeaderIsValid protectedWordPage 0 = .ok () ∧
      ntfsRestartAreaIsValid protectedWordPage = .ok () ∧
      ntfsRestartPageHeaderIsValid (Function.update protectedWordPage 511 1) 0 = .ok () ∧
      ntfsRestartAreaIsValid (Function.update protectedWordPage 511 1) ≠ .ok () := by
  refine ⟨fun i hi => Function.update_noteq (by unfold ntfsBlockSize at hi; omega) _ _,
    by decide, by decide, by decide, by decide⟩

end NtfsLogfile
