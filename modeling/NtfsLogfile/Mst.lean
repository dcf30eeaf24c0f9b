import NtfsLogfile.Kernel

/-!
# Multi sector transfer deprotection

The loader deprotects its copy of a restart page with `ntfs_mst_fixup_post_read`, which lives in
`ntfs_mst.c` and is not part of the source. Its model follows the spec's description of the
collaborator. The rest of the development uses its frame: it touches the last two bytes of each
sector and nothing else (`ntfsMstFixupPostRead_of_unprotected`); and what it reads: the record's
first eight bytes, the last word of each sector and the update sequence array
(`ntfsMstFixupPostRead_congr`).
-/

namespace NtfsLogfile

open RestartPageHeader

/-- Modelled from the spec: `ntfs_mst_fixup_post_read` is not part of the source. Sector-fixup
deprotection "validates and strips per-block update-sequence markers in place; reports
corruption without altering already-consistent bytes it did not need to touch". Each of the
`size / NTFS_BLOCK_SIZE` sectors of the record ends in a word that must equal the update
sequence number, the first entry of the array at `usa_ofs` (the record header shares the
restart page header's first eight bytes). When the array has one entry more than there are
sectors and every sector's word matches, each is replaced by the array's entry for its sector;
otherwise the buffer is left as it was and an error is returned. -/
def ntfsMstFixupPostRead (b : Bytes) (size : Nat) : Bytes × Nat :=
  let usn := b.le16 (usaOfs b)
  let blocks := size / ntfsBlockSize
  if usaCount b = blocks + 1 ∧
      (List.range blocks).all fun k => b.le16 (k * ntfsBlockSize + (ntfsBlockSize - 2)) == usn then
    (fun i => if i < blocks * ntfsBlockSize ∧ ntfsBlockSize - 2 ≤ i % ntfsBlockSize then
        b (usaOfs b + 2 * (i / ntfsBlockSize + 1) + (i % ntfsBlockSize - (ntfsBlockSize - 2)))
      else b i, 0)
  else (b, EIO)

/-- Deprotection leaves every byte before the last word of its sector as it was. -/
theorem ntfsMstFixupPostRead_of_unprotected (b : Bytes) (size : Nat) {i : Nat}
    (h : i % ntfsBlockSize < ntfsBlockSize - 2) : (ntfsMstFixupPostRead b size).1 i = b i := by
  unfold ntfsMstFixupPostRead
  dsimp only
  split_ifs <;> simp only [Nat.not_le.mpr h, and_false, if_false]

/-- Deprotection reads nothing past the record when the update sequence array lies in it: two
buffers that agree on the record's `size` bytes are deprotected alike. -/
theorem ntfsMstFixupPostRead_congr {b b' : Bytes} {size : Nat} (hb : ∀ i < size, b i = b' i)
    (h8 : 8 ≤ size)
    (husa : usaCount b = size / ntfsBlockSize + 1 → usaOfs b + 2 * usaCount b ≤ size) :
    (ntfsMstFixupPostRead b size).2 = (ntfsMstFixupPostRead b' size).2 ∧
      ∀ i < size, (ntfsMstFixupPostRead b size).1 i = (ntfsMstFixupPostRead b' size).1 i := by
  have h16 : ∀ o, o + 2 ≤ size → b.le16 o = b'.le16 o := fun o ho =>
    Bytes.le16_congr fun i _ hi => hb i (by omega)
  have hofs : usaOfs b = usaOfs b' := h16 4 (by omega)
  have hcnt : usaCount b = usaCount b' := h16 6 (by omega)
  unfold ntfsMstFixupPostRead
  simp only [← hofs, ← hcnt]
  by_cases hc : usaCount b = size / ntfsBlockSize + 1
  · have hu := husa hc
    have husn : b.le16 (usaOfs b) = b'.le16 (usaOfs b) :=
      h16 _ (by unfold ntfsBlockSize at hc; omega)
    -- the sector ends lie in the record
    have hall : ((List.range (size / ntfsBlockSize)).all fun k =>
          b.le16 (k * ntfsBlockSize + (ntfsBlockSize - 2)) == b.le16 (usaOfs b)) =
        (List.range (size / ntfsBlockSize)).all fun k =>
          b'.le16 (k * ntfsBlockSize + (ntfsBlockSize - 2)) == b'.le16 (usaOfs b) := by
      rw [Bool.eq_iff_iff, List.all_eq_true, List.all_eq_true, ← husn]
      refine forall₂_congr fun k hk => ?_
      rw [List.mem_range] at hk
      rw [h16 _ (by unfold ntfsBlockSize at hk ⊢; omega)]
    rw [hall]
    split_ifs with h
    · refine ⟨rfl, fun i hi => ?_⟩
      dsimp only
      -- the array's entries lie in the record
      split_ifs with hs
      · exact hb _ (by unfold ntfsBlockSize at hs hc ⊢; omega)
      · exact hb i hi
    · exact ⟨rfl, hb⟩
  · rw [if_neg fun h => hc h.1, if_neg fun h => hc h.1]
    exact ⟨rfl, hb⟩

end NtfsLogfile
