import NtfsLogfile.Validate

/-!
# What the header check establishes

`ValidHeader rp pos` collects what `ntfs_restart_page_header_is_valid` knows about a header it
has accepted, in the code's own arithmetic: the update sequence array count and end are `u16`
values, so they appear `% 2 ^ 16`. `ntfsRestartPageHeaderIsValid_iff` shows that this is
exactly what the check tests.

The wrap is not harmless. An array offset near `65535` makes the computed end of the array wrap
below the restart area offset, and a system page size of `2 ^ 25` makes the expected count wrap
to `1`. Such headers are accepted (`header_accepts_wrapped_usa_end`), and their restart area
overlaps the header and the update sequence array.
-/

namespace NtfsLogfile

open RestartPageHeader

/-- The power-of-two test of the code: `x & (x - 1)` is zero exactly for powers of two. -/
theorem and_sub_one_eq_zero_iff {x : Nat} (hx : 0 < x) :
    x &&& (x - 1) = 0 ↔ x.isPowerOfTwo := by
  constructor
  · intro h
    refine ⟨Nat.log 2 x, ?_⟩
    have hlo : 2 ^ Nat.log 2 x ≤ x := Nat.pow_log_le_self 2 hx.ne'
    have hhi : x < 2 ^ (Nat.log 2 x + 1) := Nat.lt_pow_succ_log_self Nat.one_lt_two x
    have hbit : ∀ y, 2 ^ Nat.log 2 x ≤ y → y < 2 ^ (Nat.log 2 x + 1) →
        y.testBit (Nat.log 2 x) = true := by
      intro y hy1 hy2
      have hdiv : y / 2 ^ Nat.log 2 x = 1 :=
        Nat.div_eq_of_lt_le (by omega) (by rw [Nat.pow_succ] at hy2; omega)
      simp [Nat.testBit_to_div_mod, hdiv]
    by_contra hne
    have hsub : 2 ^ Nat.log 2 x ≤ x - 1 := by omega
    have hand := congrArg (fun y => y.testBit (Nat.log 2 x)) h
    simp [Nat.testBit_and, hbit x hlo hhi, hbit (x - 1) hsub (by omega)] at hand
  · rintro ⟨k, rfl⟩
    rw [Nat.and_pow_two_sub_one_eq_mod, Nat.mod_self]

theorem pageSize_ok_iff (x : Nat) :
    ¬x < ntfsBlockSize ∧ x &&& (x - 1) = 0 ↔ ntfsBlockSize ≤ x ∧ x.isPowerOfTwo := by
  have hpos : ntfsBlockSize ≤ x → 0 < x := fun h => by unfold ntfsBlockSize at h; omega
  constructor
  · rintro ⟨h1, h2⟩
    exact ⟨Nat.not_lt.mp h1, (and_sub_one_eq_zero_iff (hpos (Nat.not_lt.mp h1))).mp h2⟩
  · rintro ⟨h1, h2⟩
    exact ⟨Nat.not_lt.mpr h1, (and_sub_one_eq_zero_iff (hpos h1)).mpr h2⟩

/-- What an accepted header carries. -/
structure ValidHeader (rp : Bytes) (pos : Nat) : Prop where
  systemPageSize_ge : ntfsBlockSize ≤ systemPageSize rp
  systemPageSize_pow : (systemPageSize rp).isPowerOfTwo
  logPageSize_ge : ntfsBlockSize ≤ logPageSize rp
  logPageSize_pow : (logPageSize rp).isPowerOfTwo
  pos_eq : pos = 0 ∨ pos = systemPageSize rp
  majorVer_eq : majorVer rp = 1
  minorVer_eq : minorVer rp = 1
  /-- With an update sequence array, its count is the one the code computes and its end lies
  in the first sector, before the restart area, both as `u16` values; without one (chkdsk and a
  zero count) the restart area only has to follow the header. -/
  usa : if ntfsIsChkdRecord (magic rp) = true ∧ usaCount rp = 0 then
      sizeofRestartPageHeader ≤ restartAreaOffset rp
    else usaCount rp = (1 + systemPageSize rp / ntfsBlockSize) % 2 ^ 16 ∧
      sizeofRestartPageHeader ≤ usaOfs rp ∧
      (usaOfs rp + 2 * usaCount rp) % 2 ^ 16 ≤ ntfsBlockSize - 2 ∧
      (usaOfs rp + 2 * usaCount rp) % 2 ^ 16 ≤ restartAreaOffset rp
  restartAreaOffset_aligned : restartAreaOffset rp % 8 = 0
  restartAreaOffset_le : restartAreaOffset rp ≤ systemPageSize rp
  chkdskLsn_eq : ntfsIsChkdRecord (magic rp) = false → chkdskLsn rp = 0

theorem skipUsaChecks_eq_ok_iff (rp : Bytes) (haveUsa : Bool) (usaEnd : Nat) :
    skipUsaChecks rp haveUsa usaEnd = .ok () ↔
      restartAreaOffset rp % 8 = 0 ∧
      (if haveUsa then usaEnd ≤ restartAreaOffset rp
        else sizeofRestartPageHeader ≤ restartAreaOffset rp) ∧
      restartAreaOffset rp ≤ systemPageSize rp ∧
      (ntfsIsChkdRecord (magic rp) = false → chkdskLsn rp = 0) := by
  have hmask : restartAreaOffset rp &&& 7 = restartAreaOffset rp % 8 :=
    Nat.and_pow_two_sub_one_eq_mod _ 3
  cases haveUsa <;> simp [skipUsaChecks, hmask, and_assoc]

/-- **The header check, exactly.** -/
theorem ntfsRestartPageHeaderIsValid_iff (rp : Bytes) (pos : Nat) :
    ntfsRestartPageHeaderIsValid rp pos = .ok () ↔ ValidHeader rp pos := by
  have hshift : systemPageSize rp >>> ntfsBlockSizeShift = systemPageSize rp / ntfsBlockSize :=
    Nat.shiftRight_eq_div_pow _ 9
  have hsps := pageSize_ok_iff (systemPageSize rp)
  have hlps := pageSize_ok_iff (logPageSize rp)
  unfold ntfsRestartPageHeaderIsValid
  simp only [hshift, ite_error_eq_ok, not_or, not_and, ne_eq, Decidable.not_not]
  constructor
  · rintro ⟨⟨hs1, hl1, hs2, hl2⟩, hpos, ⟨hmaj, hmin⟩, husa⟩
    obtain ⟨hsg, hsp⟩ := hsps.mp ⟨hs1, hs2⟩
    obtain ⟨hlg, hlp⟩ := hlps.mp ⟨hl1, hl2⟩
    split_ifs at husa with hD
    · obtain ⟨h8, h30, hle, hlsn⟩ := (skipUsaChecks_eq_ok_iff _ _ _).mp husa
      exact ⟨hsg, hsp, hlg, hlp, by omega, hmaj, hmin, by simpa [hD] using h30, h8, hle, hlsn⟩
    · obtain ⟨h8, hra, hle, hlsn⟩ := (skipUsaChecks_eq_ok_iff _ _ _).mp husa
      refine ⟨hsg, hsp, hlg, hlp, by omega, hmaj, hmin, ?_, h8, hle, hlsn⟩
      simp only [hD, if_false, if_true] at hra ⊢
      omega
  · intro h
    obtain ⟨hs1, hs2⟩ := hsps.mpr ⟨h.systemPageSize_ge, h.systemPageSize_pow⟩
    obtain ⟨hl1, hl2⟩ := hlps.mpr ⟨h.logPageSize_ge, h.logPageSize_pow⟩
    refine ⟨⟨hs1, hl1, hs2, hl2⟩, by have := h.pos_eq; omega, ⟨h.majorVer_eq, h.minorVer_eq⟩, ?_⟩
    have husa := h.usa
    split_ifs at husa with hD
    · rw [if_pos hD]
      exact (skipUsaChecks_eq_ok_iff _ _ _).mpr
        ⟨h.restartAreaOffset_aligned, by simpa using husa, h.restartAreaOffset_le, h.chkdskLsn_eq⟩
    · obtain ⟨hcount, hofs, hend, hra⟩ := husa
      rw [if_neg hD]
      simp only [ite_error_eq_ok, skipUsaChecks_eq_ok_iff, if_true]
      refine ⟨by omega, by omega, h.restartAreaOffset_aligned, ?_, h.restartAreaOffset_le,
        h.chkdskLsn_eq⟩
      rw [← hcount]
      omega

/-- Without a wrap of the `u16` `usa_end`, the update sequence array of an accepted header, unless
chkdsk left none, ends before the first protected word. -/
theorem ValidHeader.usa_end_le {rp : Bytes} {pos : Nat} (h : ValidHeader rp pos)
    (hwrap : usaOfs rp + 2 * usaCount rp < 2 ^ 16)
    (hD : ¬(ntfsIsChkdRecord (magic rp) = true ∧ usaCount rp = 0)) :
    usaOfs rp + 2 * usaCount rp ≤ ntfsBlockSize - 2 := by
  have husa := h.usa
  rw [if_neg hD, Nat.mod_eq_of_lt hwrap] at husa
  exact husa.2.2.1

/-- A restart page of 4096 bytes for offset `0`: version 1.1, update sequence array at `30` with
the `9` entries of eight sectors, restart area at `48` with one client record at `64`, no
clients in use, a 64 KiB file and the matching `50` sequence number bits, marked clean. -/
def restartPage4k : Bytes :=
  Bytes.ofList [(0, 0x52), (1, 0x53), (2, 0x54), (3, 0x52), (4, 30), (6, 9), (17, 0x10),
    (21, 0x10), (24, 48), (26, 1), (28, 1), (56, 1), (58, 0xFF), (59, 0xFF), (60, 0xFF),
    (61, 0xFF), (62, 2), (64, 50), (68, 224), (70, 64), (74, 1)]

/-- An RSTR header whose update sequence array starts at `65530`: with the count `9` of a
4096-byte page the array ends at `65548`, which the `u16` `usa_end` holds as `12`. -/
def wrappedUsaHeader : Bytes :=
  Bytes.ofList [(0, 0x52), (1, 0x53), (2, 0x54), (3, 0x52), (4, 0xFA), (5, 0xFF), (6, 9),
    (17, 0x10), (21, 0x10), (24, 16), (26, 1), (28, 1)]

/-- The header check accepts `wrappedUsaHeader` as the first restart page, although over the
integers its update sequence array ends far past the first sector and after the restart area,
which starts inside the header. -/
theorem header_accepts_wrapped_usa_end :
    ntfsRestartPageHeaderIsValid wrappedUsaHeader 0 = .ok () ∧
      ntfsBlockSize - 2 < usaOfs wrappedUsaHeader + 2 * usaCount wrappedUsaHeader ∧
      restartAreaOffset wrappedUsaHeader < usaOfs wrappedUsaHeader + 2 * usaCount wrappedUsaHeader ∧
      restartAreaOffset wrappedUsaHeader < sizeofRestartPageHeader := by
  decide

end NtfsLogfile
