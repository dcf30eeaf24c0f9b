import NtfsLogfile.Load
import NtfsLogfile.Proof.RestartArea
import NtfsLogfile.Proof.ClientArray

/-!
# The loader

The copy into the loader's buffer is exact: whichever path it takes, it ends, never reaches the
alignment panic, writes each of the `system_page_size` bytes once and in order, and leaves the
page of the file at `pos` in the buffer (`restartPageCopy_spec`). The `do … while` loop keeps
`have_read + to_read = system_page_size` and the next page to map aligned (`copyPages_spec`).

For the scan, three facts about `ntfs_restart_page_load` matter: it returns (it never panics);
a page it accepts passed both checks, is the file's page outside the protected words and, for a
restart page with clients in use, passed the client array check; and its collaborator calls all
succeeded unless it fails with an error other than `EINVAL`, which its last call caused.
-/

namespace NtfsLogfile

open RestartPageHeader RestartArea

variable (c : Config) (f : LogFile) (io : Io)

/-- The loop keeps the bytes copied so far equal to the file from `pos₀`, and copies the rest;
it fails only when its last `ntfs_page_map` does. -/
theorem copyPages_spec (pos₀ sps : Nat) : ∀ (toRead : Nat) (trp : Buf) (pos size haveRead calls : Nat),
    (pos + size) % c.pageSize = 0 → pos + size = pos₀ + haveRead → haveRead + toRead = sps →
    0 < toRead → (∀ i < haveRead, trp.bytes i = f.data (pos₀ + i)) →
    ∃ r k, copyPages c f io trp pos size haveRead toRead calls = .ret (r, k) ∧ calls < k ∧
      (∀ t, r = .ok t → t.written = trp.written ++ List.range' haveRead toRead ∧
        (∀ i < sps, t.bytes i = f.data (pos₀ + i)) ∧ io.AllOk calls k) ∧
      (∀ e, r = .error e → e = mapReadError (io.fault (k - 1)) ∧ io.fault (k - 1) ≠ 0 ∧
        io.AllOk calls (k - 1)) := by
  intro toRead
  induction toRead using Nat.strong_induction_on with
  | _ toRead ih =>
  intro trp pos size haveRead calls halign hpos hsum hpos0 hbytes
  rw [copyPages]
  simp only [Config.mod_pageSize, halign, ne_eq, not_true_eq_false, if_false]
  by_cases hfault : io.fault calls = 0
  · simp only [hfault, not_true_eq_false, if_false]
    have hstep : ∀ i < haveRead + min c.pageSize toRead,
        (trp.memcpy haveRead (f.view (pos + size)) (min c.pageSize toRead)).bytes i =
          f.data (pos₀ + i) := by
      intro i hi
      by_cases hlt : i < haveRead
      · rw [Buf.memcpy_bytes_of_lt _ hlt, hbytes i hlt]
      · rw [Buf.memcpy_bytes_of_mem _ (by omega) (by omega), LogFile.view_apply]
        congr 1
        omega
    split_ifs with hmore
    · have hP := c.pageSize_pos
      have hmin : min c.pageSize toRead = c.pageSize := by omega
      obtain ⟨r, k, hrun, hk, hok, herr⟩ := ih (toRead - min c.pageSize toRead) (by omega) _
        (pos + size) (min c.pageSize toRead) (haveRead + min c.pageSize toRead) (calls + 1)
        (by rw [hmin, Nat.add_mod_right]; exact halign) (by omega) (by omega) hmore hstep
      refine ⟨r, k, hrun, by omega, fun t ht => ?_, fun e he => ?_⟩
      · obtain ⟨hw, hb, hall⟩ := hok t ht
        refine ⟨?_, hb, hall.of_succ hfault⟩
        rw [hw, Buf.memcpy_written, List.append_assoc, List.range'_append_1]
        congr 2
        omega
      · obtain ⟨he', hfk, hall⟩ := herr e he
        exact ⟨he', hfk, hall.of_succ hfault⟩
    · refine ⟨_, _, rfl, by omega, fun t ht => ?_, by simp⟩
      simp only [Except.ok.injEq] at ht
      subst ht
      refine ⟨by simp; omega, fun i hi => hstep i (by omega), ?_⟩
      exact Io.AllOk.of_succ hfault fun j h1 h2 => by omega
  · refine ⟨.error (mapReadError (io.fault calls)), calls + 1, by simp [hfault], by omega,
      by simp, fun e he => ?_⟩
    simp only [Except.error.injEq] at he
    subst he
    exact ⟨by simp, by simpa using hfault, fun j h1 h2 => by omega⟩

/-- The loop writes only the bytes it copies. -/
theorem copyPages_frame : ∀ (toRead : Nat) (trp : Buf) (pos size haveRead calls : Nat) (t : Buf)
    (k : Nat), copyPages c f io trp pos size haveRead toRead calls = .ret (.ok t, k) →
    ∀ i, i < haveRead ∨ haveRead + toRead ≤ i → t.bytes i = trp.bytes i := by
  intro toRead
  induction toRead using Nat.strong_induction_on with
  | _ toRead ih =>
  intro trp pos size haveRead calls t k h i hi
  have hP := c.pageSize_pos
  have hcopy : ∀ src n, n ≤ toRead → (trp.memcpy haveRead src n).bytes i = trp.bytes i :=
    fun src n hn => by
      rcases hi with hi | hi
      exacts [Buf.memcpy_bytes_of_lt _ hi, Buf.memcpy_bytes_of_le _ (by omega)]
  rw [copyPages] at h
  dsimp only at h
  split_ifs at h with hal hf hmore
  · cases h
  · rw [ih _ (by omega) _ _ _ _ _ _ _ h i (by omega), hcopy _ _ (min_le_right _ _)]
  · cases h
    exact hcopy _ _ (min_le_right _ _)

/-- The copy's buffer, exactly: bytes `0` to `sps - 1` written once each and in order, holding
the file from `pos`, and the bytes of the fresh buffer after them; it fails only when its last
`ntfs_page_map` does. -/
theorem restartPageCopy_run (trp : Buf) (rp : Bytes) (pos sps calls : Nat)
    (hrp : ∀ j, j < c.pageSize - pos % c.pageSize → rp j = f.data (pos + j)) :
    ∃ r k, restartPageCopy c f io trp rp pos sps calls = .ret (r, k) ∧ calls ≤ k ∧
      (∀ t, r = .ok t → t.written = trp.written ++ List.range sps ∧
        t.bytes = (fun i => if i < sps then f.data (pos + i) else trp.bytes i) ∧
        io.AllOk calls k) ∧
      (∀ e, r = .error e → e = mapReadError (io.fault (k - 1)) ∧ io.fault (k - 1) ≠ 0 ∧
        io.AllOk calls (k - 1) ∧ calls < k) := by
  have hP := c.pageSize_pos
  have hlt : pos % c.pageSize < c.pageSize := Nat.mod_lt _ hP
  unfold restartPageCopy
  simp only [Config.mod_pageSize]
  split_ifs with hfast
  · refine ⟨_, _, rfl, le_rfl, fun t ht => ?_, by simp⟩
    cases ht
    refine ⟨by simp [List.range_eq_range'], funext fun i => ?_, fun j h1 h2 => by omega⟩
    split_ifs with hi
    · rw [Buf.memcpy_bytes_of_mem _ (Nat.zero_le _) (by omega), Nat.sub_zero, hrp i (by omega)]
    · exact Buf.memcpy_bytes_of_le _ (by omega)
  · set s := c.pageSize - pos % c.pageSize
    have hdiv := Nat.mod_add_div pos c.pageSize
    have halign : (pos + s) % c.pageSize = 0 := by
      rw [show pos + s = c.pageSize * (pos / c.pageSize + 1) by rw [Nat.mul_succ]; omega]
      exact Nat.mul_mod_right _ _
    have hhead : ∀ i < s, (trp.memcpy 0 rp s).bytes i = f.data (pos + i) := fun i hi => by
      rw [Buf.memcpy_bytes_of_mem _ (Nat.zero_le _) (by omega), Nat.sub_zero, hrp i hi]
    obtain ⟨r, k, hrun, hk, hok, herr⟩ := copyPages_spec c f io pos sps (sps - s)
      (trp.memcpy 0 rp s) pos s s calls halign rfl (by omega) (by omega) hhead
    refine ⟨r, k, hrun, by omega, fun t ht => ?_, fun e he => ?_⟩
    · obtain ⟨hw, hb, hall⟩ := hok t ht
      have hr := List.range'_append_1 0 s (sps - s)
      rw [Nat.zero_add, Nat.sub_add_cancel (by omega)] at hr
      refine ⟨by rw [hw, Buf.memcpy_written, List.append_assoc, hr, List.range_eq_range'],
        funext fun i => ?_, hall⟩
      subst ht
      split_ifs with hi
      · exact hb i hi
      · rw [copyPages_frame c f io _ _ _ _ _ _ _ _ hrun i (.inr (by omega)),
          Buf.memcpy_bytes_of_le _ (by omega)]
    · obtain ⟨he', hfk, hall⟩ := herr e he
      exact ⟨he', hfk, hall, hk⟩

/-- **The copy is exact.** For every offset, every page size `sps` and every file, with `rp`
pointing at the file's byte `pos` for the rest of its page, the copy returns without reaching the
alignment panic. When it completes, it has written bytes `0` to `sps - 1` of the buffer once each
and in order, and they hold the file from `pos` on; it stops short only because its last
`ntfs_page_map` failed. -/
theorem restartPageCopy_spec (trp : Buf) (rp : Bytes) (pos sps calls : Nat)
    (hrp : ∀ j, j < c.pageSize - pos % c.pageSize → rp j = f.data (pos + j)) :
    ∃ r k, restartPageCopy c f io trp rp pos sps calls = .ret (r, k) ∧ calls ≤ k ∧
      (∀ t, r = .ok t → t.written = trp.written ++ List.range sps ∧
        (∀ i < sps, t.bytes i = f.data (pos + i)) ∧ io.AllOk calls k) ∧
      (∀ e, r = .error e → e = mapReadError (io.fault (k - 1)) ∧ io.fault (k - 1) ≠ 0 ∧
        io.AllOk calls (k - 1) ∧ calls < k) := by
  obtain ⟨r, k, hrun, hk, hok, herr⟩ := restartPageCopy_run c f io trp rp pos sps calls hrp
  refine ⟨r, k, hrun, hk, fun t ht => ?_, herr⟩
  obtain ⟨hw, hbytes, hall⟩ := hok t ht
  exact ⟨hw, fun i hi => by rw [hbytes]; exact if_pos hi, hall⟩

/-- A 4 MiB log file of `0xff` bytes, as `ntfs_logfile_empty` leaves one. -/
def blankLogFile : LogFile := ⟨fun _ => 0xff, 2 ^ 22⟩

/-- A 4 MiB log whose byte at `i` is `i % 251`: a copy from an offset that is wrong by anything
but a multiple of 251 bytes, in particular by whole sectors or pages, reads other bytes. -/
def sawtoothLogFile : LogFile := ⟨fun i => (i % 251).toUInt8, 2 ^ 22⟩

/-- A copy of two pages from byte `512` of the file, which starts inside the first page and
takes the page loop. -/
theorem restartPageCopy_spec_sawtooth :
    (∀ j, j < Config.page4k.pageSize - 512 % Config.page4k.pageSize →
        sawtoothLogFile.view 512 j = sawtoothLogFile.data (512 + j)) ∧
      ∃ r k, restartPageCopy Config.page4k sawtoothLogFile Io.reliable ⟨fun _ => 0, []⟩
          (sawtoothLogFile.view 512) 512 8192 0 = .ret (r, k) ∧ 0 ≤ k ∧
        (∀ t, r = .ok t → t.written = [] ++ List.range 8192 ∧
          (∀ i < 8192, t.bytes i = sawtoothLogFile.data (512 + i)) ∧ Io.reliable.AllOk 0 k) ∧
        (∀ e, r = .error e → e = mapReadError (Io.reliable.fault (k - 1)) ∧
          Io.reliable.fault (k - 1) ≠ 0 ∧ Io.reliable.AllOk 0 (k - 1) ∧ 0 < k) :=
  ⟨fun _ _ => rfl, restartPageCopy_spec Config.page4k sawtoothLogFile Io.reliable
    ⟨fun _ => 0, []⟩ (sawtoothLogFile.view 512) 512 8192 0 fun _ _ => rfl⟩

/-! ### The loader -/

/-- The loader's last step fails only with `EINVAL`. -/
theorem restartPageFinish_error {rp trp : Bytes} {e : Nat} (h : restartPageFinish rp trp = .error e) :
    e = EINVAL := by
  unfold restartPageFinish at h
  dsimp only at h
  split at h
  · exact (Except.error.inj h).symm
  · split at h
    · exact (Except.error.inj h).symm
    · cases h

/-- Deprotecting the copy, or leaving it, keeps every byte before the last word of its sector. -/
theorem restartPageFixup_of_unprotected (rp trp : Bytes) {i : Nat}
    (h : i % ntfsBlockSize < ntfsBlockSize - 2) : (restartPageFixup rp trp).1 i = trp i := by
  unfold restartPageFixup
  split_ifs
  · exact ntfsMstFixupPostRead_of_unprotected _ _ h
  · rfl

/-- What the loader's last step keeps: the copy outside the protected words, the client array
check of a restart page with clients in use, and the page's LSN. -/
theorem restartPageFinish_ok {rp trp trp' : Bytes} {lsn : Int}
    (h : restartPageFinish rp trp = .ok (trp', lsn)) :
    (∀ i, i % ntfsBlockSize < ntfsBlockSize - 2 → trp' i = trp i) ∧
      (ntfsIsRstrRecord (magic rp) = true → clientInUseList (restartArea rp) ≠ logfileNoClient →
        ntfsLogClientArrayIsConsistent trp' = .ok ()) ∧
      lsn = if ntfsIsRstrRecord (magic rp) then currentLsn (restartArea rp) else chkdskLsn rp := by
  unfold restartPageFinish at h
  dsimp only at h
  split at h
  · cases h
  rename_i h1
  split at h
  · cases h
  rename_i h2
  obtain ⟨rfl, rfl⟩ := Prod.mk.inj (Except.ok.inj h)
  exact ⟨fun i hi => restartPageFixup_of_unprotected rp trp hi,
    fun hr hc => not_not.mp fun hne => h2 ⟨hr, hc, hne⟩, rfl⟩

/-- What a page the loader accepts at `pos` from the block `rp` carries. -/
structure LoadedPage (rp : Bytes) (pos : Nat) (trp : Bytes) (lsn : Int) : Prop where
  header : ValidHeader rp pos
  area : ValidRestartArea rp
  /-- The copy is the file's page at `pos`, but for the last word of each sector. -/
  copy : ∀ i < systemPageSize rp, i % ntfsBlockSize < ntfsBlockSize - 2 → trp i = f.data (pos + i)
  clients : ntfsIsRstrRecord (magic rp) = true → clientInUseList (restartArea rp) ≠ logfileNoClient →
    ntfsLogClientArrayIsConsistent trp = .ok ()
  lsn_eq : lsn = if ntfsIsRstrRecord (magic rp) then currentLsn (restartArea rp) else chkdskLsn rp

/-- Two blocks that agree before the first protected word, where the restart area's fields lie,
have the same restart area offset and the same fields. -/
theorem area_fields_eq_of_agree {b b' : Bytes} (hb : ∀ i < ntfsBlockSize - 2, b i = b' i)
    (hend : restartAreaOffset b' + offsetofFileSize ≤ ntfsBlockSize - 2) :
    restartAreaOffset b = restartAreaOffset b' ∧
      ∀ o, o + 2 ≤ offsetofFileSize → (restartArea b).le16 o = (restartArea b').le16 o := by
  simp only [ntfsBlockSize, offsetofFileSize] at hb hend
  have hofs : restartAreaOffset b = restartAreaOffset b' :=
    Bytes.le16_congr fun i _ hi => hb i (by omega)
  refine ⟨hofs, fun o ho => ?_⟩
  simp only [restartArea, Bytes.le16_drop, hofs]
  exact Bytes.le16_congr fun i _ hi => hb i (by unfold offsetofFileSize at ho; omega)

variable {f} in
/-- The copy carries the block's magic, restart area offset, in-use list head and flags: they
all lie before the first protected word. -/
theorem LoadedPage.fields_eq {pos : Nat} {trp : Bytes} {lsn : Int}
    (h : LoadedPage f (f.view pos) pos trp lsn) :
    magic trp = magic (f.view pos) ∧ restartAreaOffset trp = restartAreaOffset (f.view pos) ∧
      clientInUseList (restartArea trp) = clientInUseList (restartArea (f.view pos)) ∧
      flags (restartArea trp) = flags (restartArea (f.view pos)) := by
  have hsps := h.header.systemPageSize_ge
  simp only [ntfsBlockSize] at hsps
  have hb : ∀ i < ntfsBlockSize - 2, trp i = f.view pos i := fun i hi => by
    simp only [ntfsBlockSize] at hi
    exact h.copy i (by omega) (by rw [Nat.mod_eq_of_lt (by unfold ntfsBlockSize; omega)]; exact hi)
  obtain ⟨hofs, harea⟩ := area_fields_eq_of_agree hb h.area.fileSize_end
  exact ⟨Bytes.le32_congr fun i _ hi => hb i (by unfold ntfsBlockSize; omega), hofs,
    harea 12 (by decide), harea 14 (by decide)⟩

/-- **The loader returns.** Handed the file from `pos` on, it never panics. A page it accepts is
a `LoadedPage` and all its collaborator calls succeeded; it fails with `EINVAL` after successful
calls only, and otherwise with `EIO` or `ENOMEM`, when its last call failed. -/
theorem ntfsRestartPageLoad_spec (pos calls : Nat) :
    ∃ r k, ntfsRestartPageLoad c f io (f.view pos) pos calls = .ret (r, k) ∧ calls ≤ k ∧
      (∀ trp lsn, r = .ok (trp, lsn) → LoadedPage f (f.view pos) pos trp lsn ∧ io.AllOk calls k) ∧
      (∀ e, r = .error e → e = EINVAL ∧ io.AllOk calls k ∨
        (e = EIO ∨ e = ENOMEM) ∧ io.fault (k - 1) ≠ 0 ∧ io.AllOk calls (k - 1) ∧ calls < k) := by
  have hnone := Io.AllOk.refl io calls
  unfold ntfsRestartPageLoad
  split_ifs with hH hA hF
  · exact ⟨_, _, rfl, le_rfl, fun _ _ h => (nomatch h), fun e h => .inl ⟨by cases h; rfl, hnone⟩⟩
  · exact ⟨_, _, rfl, le_rfl, fun _ _ h => (nomatch h), fun e h => .inl ⟨by cases h; rfl, hnone⟩⟩
  · refine ⟨_, _, rfl, by omega, fun _ _ h => (nomatch h), fun e h => .inr ?_⟩
    cases h
    exact ⟨.inr rfl, hF, hnone, by omega⟩
  · obtain ⟨r, k, hrun, hk, hok, herr⟩ := restartPageCopy_run c f io ⟨io.alloc calls, []⟩
      (f.view pos) pos (systemPageSize (f.view pos)) (calls + 1) fun _ _ => rfl
    rw [hrun]
    rcases r with e | t
    · obtain ⟨he, hfk, hall, hlt⟩ := herr e rfl
      refine ⟨_, _, rfl, by omega, fun _ _ h => (nomatch h), fun e' h => .inr ?_⟩
      cases h
      exact ⟨he ▸ mapReadError_eq _, hfk, hall.of_succ (not_not.mp hF), by omega⟩
    · obtain ⟨-, hbytes, hall⟩ := hok t rfl
      have hall' : io.AllOk calls k := hall.of_succ (not_not.mp hF)
      refine ⟨_, _, rfl, by omega, fun trp lsn h => ?_,
        fun e h => .inl ⟨restartPageFinish_error h, hall'⟩⟩
      obtain ⟨hcopy, hcl, hlsn⟩ := restartPageFinish_ok h
      exact ⟨⟨(ntfsRestartPageHeaderIsValid_iff _ _).mp (not_not.mp hH),
        (ntfsRestartAreaIsValid_iff _).mp (not_not.mp hA),
        fun i hi hu => by rw [hcopy i hu, hbytes]; exact if_pos hi, hcl, hlsn⟩, hall'⟩

end NtfsLogfile
