import NtfsLogfile.Proof.Refinement

/-!
# What the loader reads of its allocation

`ntfs_restart_page_load` copies the system page at `pos` into a buffer of `system_page_size`
bytes from `IOMalloc`, then deprotects and checks the copy. The copy overwrites every byte of the
allocation, so a byte of what `IOMalloc` handed out that the loader still reads lies past the
allocation. In the model the allocation is `Io.alloc k`, the bytes the `k`-th call hands out,
and the buffer extends past `system_page_size` into them, as memory does past a kernel
allocation.

The loader reads none of them when neither `u16` sum of the two checks wraps: the update
sequence array and the client array then lie inside the page, and two loads that differ only in
what `IOMalloc` hands out agree (`loader_reads_only_allocation`). When a sum wraps, the
deprotection reads the array at `usa_ofs` and the client check the links of `ca + idx` past the
allocation, and the verdict on the block depends on what lies there
(`loader_reads_past_allocation_clients`, `loader_reads_past_allocation_usa`).
-/

namespace NtfsLogfile

open RestartPageHeader RestartArea

/-- Two outcomes of the loader that agree on the first `n` bytes: both reject the block, or both
accept it with the same LSN and copies that agree on their first `n` bytes. -/
inductive PageAgree (n : Nat) : Option (Bytes × Int) → Option (Bytes × Int) → Prop
  | none : PageAgree n none none
  | some {p p' : Bytes × Int} (lsn : p.2 = p'.2) (copy : ∀ i < n, p.1 i = p'.1 i) :
      PageAgree n (some p) (some p')

/-! ### The client array check -/

/-- The walk of a list reads the links of the records below `log_clients` only. -/
theorem checkList_congr {prev next prev' next' : Nat → Nat} {logClients : Nat}
    (hprev : ∀ i < logClients, prev i = prev' i) (hnext : ∀ i < logClients, next i = next' i) :
    ∀ nrClients idx idxIsFirst, checkList prev next logClients nrClients idx idxIsFirst =
      checkList prev' next' logClients nrClients idx idxIsFirst
  | 0, _, _ => rfl
  | nr + 1, idx, idxIsFirst => by
    rw [checkList, checkList]
    by_cases hi : idx < logClients
    · simp only [Nat.not_le.mpr hi, hprev idx hi, hnext idx hi, checkList_congr hprev hnext nr]
    · simp only [Nat.not_lt.mp hi, if_true]

/-- The client array check reads the restart area offset, the area's count and list heads, and
the links of the records below `log_clients`: nothing past the first `n` bytes when they lie
there. -/
theorem ntfsLogClientArrayIsConsistent_congr {b b' : Bytes} {n : Nat} (hb : ∀ i < n, b i = b' i)
    (hofs : sizeofRestartPageHeader ≤ n) (harea : restartAreaOffset b + offsetofFileSize ≤ n)
    (hrec : restartAreaOffset b + clientArrayOffset (restartArea b) +
      logClients (restartArea b) * sizeofLogClientRecord ≤ n) :
    ntfsLogClientArrayIsConsistent b = ntfsLogClientArrayIsConsistent b' := by
  unfold sizeofRestartPageHeader offsetofFileSize sizeofLogClientRecord at *
  have hofs' : restartAreaOffset b = restartAreaOffset b' :=
    Bytes.le16_congr fun i _ hi => hb i (by omega)
  have h16 : ∀ o, restartAreaOffset b + o + 2 ≤ n →
      (restartArea b).le16 o = (restartArea b').le16 o := fun o ho => by
    simp only [restartArea, Bytes.le16_drop, ← hofs']
    exact Bytes.le16_congr fun i _ hi => hb i (by omega)
  have hlc : logClients (restartArea b) = logClients (restartArea b') := h16 8 (by omega)
  have hca : clientArrayOffset (restartArea b) = clientArrayOffset (restartArea b') :=
    h16 22 (by omega)
  -- the links `prev_client` and `next_client` of a record below `log_clients`
  have hlink : ∀ o, o + 2 ≤ 160 → ∀ idx < logClients (restartArea b),
      (clientRecord b idx).le16 o = (clientRecord b' idx).le16 o := fun o ho idx hidx => by
    simp only [clientRecord, Bytes.le16_drop, ← hca]
    exact h16 _ (by unfold sizeofLogClientRecord; omega)
  have hwalk : checkList (clientPrev b) (clientNext b) (logClients (restartArea b)) =
      checkList (clientPrev b') (clientNext b') (logClients (restartArea b')) := by
    rw [← hlc]
    funext nr idx first
    exact checkList_congr (hlink 16 (by decide)) (hlink 18 (by decide)) nr idx first
  have hfree : clientFreeList (restartArea b) = clientFreeList (restartArea b') := h16 10 (by omega)
  have hinuse : clientInUseList (restartArea b) = clientInUseList (restartArea b') :=
    h16 12 (by omega)
  unfold ntfsLogClientArrayIsConsistent
  dsimp only
  rw [hwalk, hlc, hfree, hinuse]

/-! ### The loader after the copy -/

/-- Deprotecting the copy reads nothing past the page when the update sequence array, if any,
lies in it. -/
theorem restartPageFixup_congr {rp trp trp' : Bytes}
    (hb : ∀ i < systemPageSize rp, trp i = trp' i) (h8 : 8 ≤ systemPageSize rp)
    (husa : ¬(ntfsIsChkdRecord (magic trp) = true ∧ usaCount trp = 0) →
      usaOfs trp + 2 * usaCount trp ≤ systemPageSize rp) :
    (restartPageFixup rp trp).2 = (restartPageFixup rp trp').2 ∧
      ∀ i < systemPageSize rp, (restartPageFixup rp trp).1 i = (restartPageFixup rp trp').1 i := by
  have hm : magic trp = magic trp' := Bytes.le32_congr fun i _ hi => hb i (by omega)
  have hcnt : usaCount trp = usaCount trp' := Bytes.le16_congr fun i _ hi => hb i (by omega)
  unfold restartPageFixup
  rw [← hm, ← hcnt]
  split_ifs with hc
  · exact ntfsMstFixupPostRead_congr hb h8 fun _ => husa fun ⟨h1, h2⟩ =>
      hc.elim (fun h => Bool.false_ne_true (h.symm.trans h1)) (· h2)
  · exact ⟨rfl, hb⟩

/-- Past an accepted header and restart area whose `u16` sums do not wrap, the rest of the
loader reads nothing of its copy past the page. -/
theorem restartPageFinish_congr {rp trp trp' : Bytes} {pos : Nat} (hH : ValidHeader rp pos)
    (hA : ValidRestartArea rp) (husa : usaOfs rp + 2 * usaCount rp < 2 ^ 16)
    (hca : clientArrayOffset (restartArea rp) +
      logClients (restartArea rp) * sizeofLogClientRecord < 2 ^ 16)
    (hcopy : ∀ i < systemPageSize rp, trp i = rp i)
    (hcopy' : ∀ i < systemPageSize rp, trp' i = rp i) :
    PageAgree (systemPageSize rp) (restartPageFinish rp trp).toOption
      (restartPageFinish rp trp').toOption := by
  have hsps := hH.systemPageSize_ge
  unfold ntfsBlockSize at hsps
  have hb : ∀ i < systemPageSize rp, trp i = trp' i := fun i hi =>
    (hcopy i hi).trans (hcopy' i hi).symm
  have hm : magic trp = magic rp := Bytes.le32_congr fun i _ hi => hcopy i (by omega)
  have hofs : usaOfs trp = usaOfs rp := Bytes.le16_congr fun i _ hi => hcopy i (by omega)
  have hcnt : usaCount trp = usaCount rp := Bytes.le16_congr fun i _ hi => hcopy i (by omega)
  obtain ⟨h2, h1⟩ := restartPageFixup_congr hb (by omega) fun hD => by
    rw [hm, hcnt] at hD
    have := hH.usa_end_le husa hD
    unfold ntfsBlockSize at this
    omega
  -- the deprotected copy carries the block's restart area fields
  have hfix : ∀ i < ntfsBlockSize - 2, (restartPageFixup rp trp).1 i = rp i := fun i hi => by
    unfold ntfsBlockSize at hi
    have hu : i % ntfsBlockSize < ntfsBlockSize - 2 := by unfold ntfsBlockSize; omega
    rw [restartPageFixup_of_unprotected rp trp hu, hcopy i (by omega)]
  obtain ⟨hra, harea⟩ := area_fields_eq_of_agree hfix hA.fileSize_end
  have hend := hA.fileSize_end
  have hlen := hA.clients_le_length hca
  have hpage := hA.length_le_page
  unfold ntfsBlockSize offsetofFileSize at hend
  have hclients : ntfsLogClientArrayIsConsistent (restartPageFixup rp trp).1 =
      ntfsLogClientArrayIsConsistent (restartPageFixup rp trp').1 := by
    refine ntfsLogClientArrayIsConsistent_congr h1 (by unfold sizeofRestartPageHeader; omega)
      (by rw [hra]; unfold offsetofFileSize; omega) ?_
    have hlc : logClients (restartArea (restartPageFixup rp trp).1) =
        logClients (restartArea rp) := harea 8 (by decide)
    have hco : clientArrayOffset (restartArea (restartPageFixup rp trp).1) =
        clientArrayOffset (restartArea rp) := harea 22 (by decide)
    rw [hra, hlc, hco]
    omega
  unfold restartPageFinish
  dsimp only
  rw [h2, hclients]
  split_ifs
  · exact .none
  · exact .none
  all_goals exact .some rfl h1

/-- The plain loader reads nothing past the page of the allocation's bytes `junk` when neither
`u16` sum wraps. -/
theorem loadPlain_congr (f : LogFile) (pos : Nat) (junk junk' : Bytes)
    (husa : usaOfs (f.view pos) + 2 * usaCount (f.view pos) < 2 ^ 16)
    (hca : clientArrayOffset (restartArea (f.view pos)) +
      logClients (restartArea (f.view pos)) * sizeofLogClientRecord < 2 ^ 16) :
    PageAgree (systemPageSize (f.view pos)) (loadPlain f junk pos) (loadPlain f junk' pos) := by
  unfold loadPlain
  dsimp only
  split_ifs with hv
  · exact restartPageFinish_congr ((ntfsRestartPageHeaderIsValid_iff _ _).mp hv.1)
      ((ntfsRestartAreaIsValid_iff _).mp hv.2) husa hca (fun _ hi => if_pos hi)
      (fun _ hi => if_pos hi)
  · exact .none

/-! ### The loader -/

variable (c : Config) (f : LogFile)

/-- **The loader reads nothing past its allocation.** For every file and position, and every two
behaviours of the collaborators, however different the memory their `IOMalloc` hands out: when
neither the update sequence array's end nor the client array's length wraps in its `u16`, the
two loads of the block at `pos` both reject it, or both accept it with the same LSN and the
same copy of the system page, unless one of them fails at a collaborator. -/
theorem loader_reads_only_allocation (io₁ io₂ : Io) (pos calls₁ calls₂ : Nat)
    (husa : usaOfs (f.view pos) + 2 * usaCount (f.view pos) < 2 ^ 16)
    (hca : clientArrayOffset (restartArea (f.view pos)) +
      logClients (restartArea (f.view pos)) * sizeofLogClientRecord < 2 ^ 16) :
    ∃ r₁ k₁ r₂ k₂, ntfsRestartPageLoad c f io₁ (f.view pos) pos calls₁ = .ret (r₁, k₁) ∧
      ntfsRestartPageLoad c f io₂ (f.view pos) pos calls₂ = .ret (r₂, k₂) ∧
      ((∃ e, r₁ = .error e ∧ e ≠ EINVAL) ∨ (∃ e, r₂ = .error e ∧ e ≠ EINVAL) ∨
        PageAgree (systemPageSize (f.view pos)) r₁.toOption r₂.toOption) := by
  obtain ⟨r₁, k₁, hrun₁, h₁⟩ := ntfsRestartPageLoad_plain c f io₁ pos calls₁
  obtain ⟨r₂, k₂, hrun₂, h₂⟩ := ntfsRestartPageLoad_plain c f io₂ pos calls₂
  refine ⟨r₁, k₁, r₂, k₂, hrun₁, hrun₂, ?_⟩
  rcases h₁ with h₁ | h₁
  · rcases h₂ with h₂ | h₂
    · rw [h₁, h₂]
      exact .inr (.inr (loadPlain_congr f pos _ _ husa hca))
    · exact .inr (.inl h₂)
  · exact .inl h₁

/-- Collaborators that never fail, with an `IOMalloc` that hands out `0xff` bytes. -/
def Io.reliableFF : Io := ⟨fun _ => 0, fun _ _ => 0xff⟩

/-- `restartPage4k` with its one client in use: the in-use list starts at record `0`, at byte
`112`, which has no neighbours. -/
def inUsePage : Bytes :=
  Bytes.ofList [(0, 0x52), (1, 0x53), (2, 0x54), (3, 0x52), (4, 30), (6, 9), (17, 0x10),
    (21, 0x10), (24, 48), (26, 1), (28, 1), (56, 1), (58, 0xFF), (59, 0xFF), (62, 2), (64, 50),
    (68, 224), (70, 64), (74, 1), (128, 0xFF), (129, 0xFF), (130, 0xFF), (131, 0xFF)]

/-- A 4 MiB log with `inUsePage` at offset `0`. -/
def inUseLog : LogFile := ⟨inUsePage, 2 ^ 22⟩

/-- Loading a restart page with a client in use, over zeroed and over `0xff` memory. -/
theorem loader_reads_only_allocation_inUse :
    usaOfs (inUseLog.view 0) + 2 * usaCount (inUseLog.view 0) < 2 ^ 16 ∧
      clientArrayOffset (restartArea (inUseLog.view 0)) +
        logClients (restartArea (inUseLog.view 0)) * sizeofLogClientRecord < 2 ^ 16 ∧
      ∃ r₁ k₁ r₂ k₂,
        ntfsRestartPageLoad Config.page4k inUseLog Io.reliable (inUseLog.view 0) 0 0 = .ret (r₁, k₁) ∧
        ntfsRestartPageLoad Config.page4k inUseLog Io.reliableFF (inUseLog.view 0) 0 0 =
          .ret (r₂, k₂) ∧
        ((∃ e, r₁ = .error e ∧ e ≠ EINVAL) ∨ (∃ e, r₂ = .error e ∧ e ≠ EINVAL) ∨
          PageAgree (systemPageSize (inUseLog.view 0)) r₁.toOption r₂.toOption) :=
  have husa : usaOfs (inUseLog.view 0) + 2 * usaCount (inUseLog.view 0) < 2 ^ 16 := by decide
  have hca : clientArrayOffset (restartArea (inUseLog.view 0)) +
      logClients (restartArea (inUseLog.view 0)) * sizeofLogClientRecord < 2 ^ 16 := by decide
  ⟨husa, hca, loader_reads_only_allocation Config.page4k inUseLog Io.reliable Io.reliableFF 0 0 0
    husa hca⟩

variable (io : Io) in
/-- With collaborators that never fail, the loader accepts the page the plain loader over its
allocation accepts, and rejects with `EINVAL` where it rejects. -/
theorem ntfsRestartPageLoad_of_reliable (hio : ∀ k, io.fault k = 0) (pos calls : Nat) :
    ∃ r k, ntfsRestartPageLoad c f io (f.view pos) pos calls = .ret (r, k) ∧
      r = (loadPlain f (io.alloc calls) pos).elim (.error EINVAL) .ok := by
  obtain ⟨r, k, hrun, h⟩ := ntfsRestartPageLoad_plain c f io pos calls
  obtain ⟨r', k', hrun', -, -, herr⟩ := ntfsRestartPageLoad_spec c f io pos calls
  obtain ⟨rfl, rfl⟩ := Prod.mk.inj (Outcome.ret.inj (hrun.symm.trans hrun'))
  have hE : ∀ e, r = .error e → e = EINVAL := fun e he => by
    rcases herr e he with ⟨h, -⟩ | ⟨-, hf, -⟩
    exacts [h, absurd (hio _) hf]
  refine ⟨r, k, hrun, ?_⟩
  rcases h with h | ⟨e, he, hne⟩
  · cases r with
    | error e => rw [← h, hE e rfl]; rfl
    | ok p => rw [← h]; rfl
  · exact absurd (hE e he) hne

/-- `wrappedClientsPage` with the client at index `30` in use: over the integers its record
lies at byte `96 + 30 * 160 = 4896`, past the 4096-byte page. -/
def wrappedInUsePage : Bytes :=
  Bytes.ofList [(0, 0x52), (1, 0x53), (2, 0x54), (3, 0x52), (4, 30), (6, 9), (17, 0x10),
    (21, 0x10), (24, 48), (26, 1), (28, 1), (56, 0x9A), (57, 0x01), (58, 0xFF), (59, 0xFF),
    (60, 30), (64, 67), (68, 112), (70, 48)]

/-- A 4 MiB log with `wrappedInUsePage` at offset `0`. -/
def wrappedInUseLog : LogFile := ⟨wrappedInUsePage, 2 ^ 22⟩

/-- **With the client array's length wrapped, the loader reads past its allocation.** Both
checks accept `wrappedInUsePage`, whose 410 clients wrap `ra_len`; the client check then reads
the links of record `30` past the 4096 bytes the copy fills. The loader rejects the block when
that memory is zeroed, and accepts it when it holds `0xff` bytes. -/
theorem loader_reads_past_allocation_clients :
    2 ^ 16 ≤ clientArrayOffset (restartArea (wrappedInUseLog.view 0)) +
        logClients (restartArea (wrappedInUseLog.view 0)) * sizeofLogClientRecord ∧
      (∃ k, ntfsRestartPageLoad Config.page4k wrappedInUseLog Io.reliable
        (wrappedInUseLog.view 0) 0 0 = .ret (.error EINVAL, k)) ∧
      ∃ page k, ntfsRestartPageLoad Config.page4k wrappedInUseLog Io.reliableFF
        (wrappedInUseLog.view 0) 0 0 = .ret (.ok page, k) := by
  obtain ⟨r₁, k₁, hrun₁, hr₁⟩ :=
    ntfsRestartPageLoad_of_reliable Config.page4k wrappedInUseLog Io.reliable (fun _ => rfl) 0 0
  obtain ⟨r₂, k₂, hrun₂, hr₂⟩ :=
    ntfsRestartPageLoad_of_reliable Config.page4k wrappedInUseLog Io.reliableFF (fun _ => rfl) 0 0
  have hnone : loadPlain wrappedInUseLog (Io.reliable.alloc 0) 0 = none :=
    Option.isNone_iff_eq_none.mp (by decide)
  obtain ⟨page, hsome⟩ : ∃ page, loadPlain wrappedInUseLog (Io.reliableFF.alloc 0) 0 = some page :=
    Option.isSome_iff_exists.mp (by decide)
  exact ⟨by decide, ⟨k₁, by rw [hrun₁, hr₁, hnone]; rfl⟩, page, k₂, by rw [hrun₂, hr₂, hsome]; rfl⟩

/-- An RSTR page whose update sequence array starts at `65530`, as in `wrappedUsaHeader`, with a
restart area at `16` that both checks accept: 16 clients behind a client array at `64`, both
lists at record `1`, which has no neighbours, and a restart area longer than the first sector. -/
def wrappedUsaPage : Bytes :=
  Bytes.ofList [(0, 0x52), (1, 0x53), (2, 0x54), (3, 0x52), (4, 0xFA), (5, 0xFF), (6, 9),
    (17, 0x10), (21, 0x10), (24, 16), (26, 1), (28, 1), (32, 67), (36, 0x40), (37, 0x0A),
    (38, 64), (256, 0xFF), (257, 0xFF), (258, 0xFF), (259, 0xFF)]

/-- A 4 MiB log with `wrappedUsaPage` at offset `0`. -/
def wrappedUsaLog : LogFile := ⟨wrappedUsaPage, 2 ^ 22⟩

/-- **With the update sequence array's end wrapped, the loader reads past its allocation.** The
deprotection takes the update sequence number and the array's entries from byte `65530` on, past
the 4096 bytes the copy fills. Over zeroed memory they match the zero sector ends and the loader
accepts the block; over `0xff` bytes deprotection fails, which the loader does not tolerate for a
restart area that leaves the first sector, and it rejects the block. -/
theorem loader_reads_past_allocation_usa :
    2 ^ 16 ≤ usaOfs (wrappedUsaLog.view 0) + 2 * usaCount (wrappedUsaLog.view 0) ∧
      (∃ page k, ntfsRestartPageLoad Config.page4k wrappedUsaLog Io.reliable
        (wrappedUsaLog.view 0) 0 0 = .ret (.ok page, k)) ∧
      ∃ k, ntfsRestartPageLoad Config.page4k wrappedUsaLog Io.reliableFF
        (wrappedUsaLog.view 0) 0 0 = .ret (.error EINVAL, k) := by
  obtain ⟨r₁, k₁, hrun₁, hr₁⟩ :=
    ntfsRestartPageLoad_of_reliable Config.page4k wrappedUsaLog Io.reliable (fun _ => rfl) 0 0
  obtain ⟨r₂, k₂, hrun₂, hr₂⟩ :=
    ntfsRestartPageLoad_of_reliable Config.page4k wrappedUsaLog Io.reliableFF (fun _ => rfl) 0 0
  obtain ⟨page, hsome⟩ : ∃ page, loadPlain wrappedUsaLog (Io.reliable.alloc 0) 0 = some page :=
    Option.isSome_iff_exists.mp (by decide)
  have hnone : loadPlain wrappedUsaLog (Io.reliableFF.alloc 0) 0 = none :=
    Option.isNone_iff_eq_none.mp (by decide)
  exact ⟨by decide, ⟨page, k₁, by rw [hrun₁, hr₁, hsome]; rfl⟩, k₂, by rw [hrun₂, hr₂, hnone]; rfl⟩

end NtfsLogfile
