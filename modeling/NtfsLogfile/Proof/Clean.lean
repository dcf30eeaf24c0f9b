import NtfsLogfile.Proof.Check

/-!
# After the check

`ntfs_logfile_is_clean` trusts the check: it panics without a page and calls the page invalid
unless it carries a restart magic. After a check that returned `0` neither happens, and its
verdict is the one the page on disk gives, since the copy the loader made keeps the fields it
reads (`isClean_after_check`).

`ntfs_logfile_empty` fills the file with `0xff` bytes, the empty record magic, and sets the flag
so the next check of the mounted volume returns at once. A check of the filled file with the flag
clear, as after a remount, finds the log empty too (`check_after_empty`).
-/

namespace NtfsLogfile

open RestartPageHeader RestartArea

variable (c : Config) (f : LogFile) (io : Io)

/-- On a restart page with the flag clear, `ntfs_logfile_is_clean` reports a clean shutdown
unless clients are in use and the area is not marked clean. -/
theorem ntfsLogfileIsClean_restart {vol : Volume} {rp : Bytes} (hv : vol.logFileEmpty = false)
    (hm : ntfsIsRstrRecord (magic rp) = true ∨ ntfsIsChkdRecord (magic rp) = true) :
    ntfsLogfileIsClean vol (some rp) = .ret (.ok !(decide
      (clientInUseList (restartArea rp) ≠ logfileNoClient ∧
        flags (restartArea rp) &&& restartVolumeIsClean = 0))) := by
  unfold ntfsLogfileIsClean
  rw [if_neg (by simp [hv])]
  dsimp only
  rw [if_neg (by rcases hm with h | h <;> simp [h])]
  split_ifs with hd <;> simp [hd]

/-- **`ntfs_logfile_is_clean` reads what the checks read.** For every file, flag and behaviour
of the collaborators, when the check returns `0`, the copy it returns has the magic, the restart
area offset, the in-use list head and the flags of the page on disk it was made from, also when
the loader tolerated a deprotection error. The following `ntfs_logfile_is_clean` neither panics
nor finds the buffer invalid, and returns `FALSE` exactly when the flag is clear and that page's
restart area has clients in use and is not marked clean. -/
theorem isClean_after_check (vol : Volume) :
    ∃ r, ntfsLogfileCheck c f io vol = .ret r ∧ (r.err = 0 →
      (∀ trp, r.rp = some trp → ∃ p lsn, LoadedPage f (f.view p) p trp lsn ∧
        magic trp = magic (f.view p) ∧ restartAreaOffset trp = restartAreaOffset (f.view p) ∧
        clientInUseList (restartArea trp) = clientInUseList (restartArea (f.view p)) ∧
        flags (restartArea trp) = flags (restartArea (f.view p))) ∧
      ∃ b, ntfsLogfileIsClean r.vol r.rp = .ret (.ok b) ∧
        (b = false ↔ r.vol.logFileEmpty = false ∧ ∃ p trp lsn, r.rp = some trp ∧
          LoadedPage f (f.view p) p trp lsn ∧
          clientInUseList (restartArea (f.view p)) ≠ logfileNoClient ∧
          flags (restartArea (f.view p)) &&& restartVolumeIsClean = 0)) := by
  obtain ⟨r, hr, hrun⟩ := ntfsLogfileCheck_spec c f io vol
  refine ⟨r, hr, fun h0 => ?_⟩
  cases hrun with
  | flagged h =>
    exact ⟨nofun, true, by simp [ntfsLogfileIsClean, h], by simp [h]⟩
  | vnodeFailed h hf => exact absurd h0 (vnodeError_ne hf).2
  | tooSmall h hf hs => exact absurd h0 (by decide : EINVAL ≠ 0)
  | scanFailed h hf hs e s hscan hexit => exact absurd h0 (readError_ne hexit.2.1).2
  | scannedEmpty h hf hs s hscan hexit hl =>
    exact ⟨nofun, true, by simp [ntfsLogfileIsClean], by simp⟩
  | scannedPages h hf hs s hscan hexit hl =>
    have hrun := hexit.1
    obtain ⟨a, ha⟩ := exists_latestPage h0
    obtain ⟨hload, hmagic⟩ := hrun.loaded a (latestPage_spec hrun.accepted_sorted
      hrun.accepted_length ha).1
    obtain ⟨hm, hofs, hin, hfl⟩ := hload.fields_eq
    simp only [ha, Option.map_some']
    refine ⟨fun trp htrp => ⟨a.1, a.2.2, (Option.some.inj htrp) ▸ hload,
      (Option.some.inj htrp) ▸ ⟨hm, hofs, hin, hfl⟩⟩, _, ntfsLogfileIsClean_restart h (hm ▸ hmagic),
      ?_⟩
    simp only [Bool.not_eq_false', decide_eq_true_eq, Option.some.injEq, exists_and_left,
      exists_eq_left', h, true_and, hin, hfl]
    constructor
    · exact fun hd => ⟨a.1, a.2.2, hload, hd⟩
    · rintro ⟨p, lsn, hp, hd⟩
      obtain ⟨-, -, hin', hfl'⟩ := hp.fields_eq
      rw [← hin, ← hfl, hin', hfl']
      exact hd

/-! ### An emptied log -/

/-- Log pages of at least a sector are whole 32-bit words. -/
theorem Config.four_dvd_logPageSize (c : Config) (hlps : ntfsBlockSize ≤ c.logPageSize) :
    4 ∣ c.logPageSize := by
  obtain ⟨k, hk⟩ := c.logPageSize_pow
  rw [hk] at hlps
  rw [hk, show 4 = 2 ^ 2 from rfl]
  refine Nat.pow_dvd_pow 2 (by_contra fun hk2 => ?_)
  have : 2 ^ k ≤ 2 ^ 1 := Nat.pow_le_pow_right Nat.two_pos (by omega)
  exact absurd hlps (by unfold ntfsBlockSize; omega)

theorem four_dvd_scanOffset (n : Nat) : 4 ∣ scanOffset n := by
  cases n with
  | zero => exact dvd_zero 4
  | succ n => exact Dvd.intro (128 * 2 ^ n) (by rw [scanOffset, ntfsBlockSize]; ring)

/-- A block whose first four bytes are `0xff` carries the empty record magic. -/
theorem ntfsIsEmptyRecord_of_ff {b : Bytes} (h : ∀ i < 4, b i = 0xff) :
    ntfsIsEmptyRecord (magic b) = true := by
  simp only [ntfsIsEmptyRecord, magic, Bytes.le32, Bytes.le16, h 0 (by decide), h 1 (by decide),
    h 2 (by decide), h 3 (by decide)]
  rfl

/-- **An emptied log reads as empty.** After `ntfs_logfile_empty` fills the file, a check of it
with the flag clear, as after a remount, never returns a restart page: it finds the log empty and
sets the flag, or fails because the log is too small or because a collaborator failed, never for
want of a restart page. Log pages are taken to be at least a sector. -/
theorem check_after_empty (vol : Volume) (io' : Io) (hlps : ntfsBlockSize ≤ c.logPageSize)
    (hvol : vol.logFileEmpty = false) (hok : (ntfsLogfileEmpty f io vol).1 = 0) :
    ∃ r, ntfsLogfileCheck c (ntfsLogfileEmpty f io vol).2.1 io' ⟨false⟩ = .ret r ∧ r.rp = none ∧
      (r.err = 0 → r.vol.logFileEmpty = true) ∧
      (r.err = EINVAL → c.tooSmall (c.scanSize f.dataSize) = true) := by
  have hfill : (ntfsLogfileEmpty f io vol).2.1 =
      { f with data := fun i => if i < f.dataSize then 0xff else f.data i } := by
    unfold ntfsLogfileEmpty at hok ⊢
    simp only [hvol, Bool.false_eq_true, if_false] at hok ⊢
    split_ifs at hok ⊢ with h0 h1
    · exact absurd hok h0
    · exact absurd hok h1
    · rfl
  rw [hfill]
  obtain ⟨r, hr, hrun⟩ := ntfsLogfileCheck_spec c
    { f with data := fun i => if i < f.dataSize then 0xff else f.data i } io' ⟨false⟩
  refine ⟨r, hr, ?_⟩
  cases hrun with
  | flagged h => exact absurd h Bool.false_ne_true
  | vnodeFailed h hf =>
    exact ⟨rfl, fun h0 => absurd h0 (vnodeError_ne hf).2, fun he => absurd he (vnodeError_ne hf).1⟩
  | tooSmall h hf hs => exact ⟨rfl, fun h0 => absurd h0 (by decide : EINVAL ≠ 0), fun _ => hs⟩
  | scanFailed h hf hs e s hscan hexit =>
    obtain ⟨he, he0⟩ := readError_ne hexit.2.1
    exact ⟨rfl, fun h0 => absurd h0 he0, fun h => absurd h he⟩
  | scannedEmpty h hf hs s hscan hexit hl =>
    exact ⟨rfl, fun _ => rfl, fun h => absurd h (by decide : 0 ≠ EINVAL)⟩
  | scannedPages h hf hs s hscan hexit hl =>
    exfalso
    obtain ⟨p, hp, hne⟩ := hexit.2.2.2 hl
    have hlt := hexit.1.visited_lt p hp
    dsimp only at hlt
    rw [hexit.1.visited_eq] at hp
    obtain ⟨n, -, rfl⟩ := List.mem_map.mp hp
    -- the block's magic lies below the scanned size, in the filled part of the file
    obtain ⟨hdvd, hle⟩ := c.scanSize_spec f.dataSize
    have h4s := (c.four_dvd_logPageSize hlps).trans hdvd
    have h4p := four_dvd_scanOffset n
    rw [ntfsIsEmptyRecord_of_ff fun i hi => by
      simp only [LogFile.view_apply]
      exact if_pos (by omega)] at hne
    exact Bool.noConfusion hne

/-- Emptying a log of distinct bytes, then checking it. -/
theorem check_after_empty_sawtooth :
    Config.page4k.logPageSize = 4096 ∧ ntfsBlockSize ≤ Config.page4k.logPageSize ∧
      (⟨false⟩ : Volume).logFileEmpty = false ∧
      (ntfsLogfileEmpty sawtoothLogFile Io.reliable ⟨false⟩).1 = 0 ∧
      ∃ r, ntfsLogfileCheck Config.page4k
          (ntfsLogfileEmpty sawtoothLogFile Io.reliable ⟨false⟩).2.1 Io.reliable ⟨false⟩ = .ret r ∧
        r.rp = none ∧ (r.err = 0 → r.vol.logFileEmpty = true) ∧
        (r.err = EINVAL →
          Config.page4k.tooSmall (Config.page4k.scanSize sawtoothLogFile.dataSize) = true) :=
  have hlps : Config.page4k.logPageSize = 4096 := by decide
  ⟨hlps, hlps ▸ by decide, rfl, by decide,
    check_after_empty Config.page4k sawtoothLogFile Io.reliable ⟨false⟩ Io.reliable
      (hlps ▸ by decide) rfl (by decide)⟩

end NtfsLogfile
