import NtfsLogfile.Check
import NtfsLogfile.Proof.Load

/-!
# The scan

The scan loop of `ntfs_logfile_check` examines the blocks at `0, 512, 1024, …` below the size in
that order, and stops. Every `continue` taken at offset `0` moves `pos` off `0`, so the offset
grows at every pass and `size + 1` passes are enough (`scanLoop_spec`).

What a pass can do is said once (`BlockStep`, `scanBlock_spec`); every invariant is derived from
that. The invariant at the loop head (`ScanInv`) says which offsets were examined, that the
mapped page is the file's, that the restart page slots hold the loader's accepted pages in the
order they were found (the second slot only after the first, neither written twice), and that
every collaborator call so far succeeded.
-/

namespace NtfsLogfile

open RestartPageHeader RestartArea

variable (c : Config) (f : LogFile) (io : Io)

/-! ### Offsets -/

/-- The offset of the `n`-th block the scan examines: `0`, then `NTFS_BLOCK_SIZE * 2^(n - 1)`. -/
def scanOffset : Nat → Nat
  | 0 => 0
  | n + 1 => ntfsBlockSize * 2 ^ n

theorem scanOffset_eq_zero_iff {n : Nat} : scanOffset n = 0 ↔ n = 0 := by
  cases n <;> simp [scanOffset, ntfsBlockSize]

/-- The offset after a `continue` at the `n`-th block, doubled by `pos <<= 1`. -/
theorem scanOffset_succ (n : Nat) :
    (if scanOffset n = 0 then ntfsBlockSize / 2 else scanOffset n) * 2 = scanOffset (n + 1) := by
  cases n <;> simp [scanOffset, ntfsBlockSize, Nat.pow_succ, Nat.mul_assoc]

theorem scanOffset_strictMono : StrictMono scanOffset := by
  refine strictMono_nat_of_lt_succ fun n => ?_
  rw [← scanOffset_succ]
  split_ifs with h
  · simp [h, ntfsBlockSize]
  · omega

theorem range_map_scanOffset_succ (n : Nat) :
    (List.range (n + 1)).map scanOffset = (List.range n).map scanOffset ++ [scanOffset n] := by
  rw [List.range_succ, List.map_append, List.map_singleton]

/-! ### Invariants -/

/-- What the scan's state records of the run so far, at the loop head and at its end: the
offsets examined, and the pages accepted at some of them, held by the slots in that order. -/
structure ScanRun (size : Nat) (s : ScanState) : Prop where
  visited_eq : s.visited = (List.range s.visited.length).map scanOffset
  visited_lt : ∀ p ∈ s.visited, p < size
  accepted_sublist : (s.accepted.map Prod.fst).Sublist s.visited
  accepted_length : s.accepted.length ≤ 2
  rstr1_eq : s.rstr1 = s.accepted[0]?.map Prod.snd
  rstr2_eq : s.rstr2 = s.accepted[1]?.map Prod.snd
  loaded : ∀ a ∈ s.accepted, LoadedPage f (f.view a.1) a.1 a.2.1 a.2.2 ∧
    (ntfsIsRstrRecord (magic (f.view a.1)) = true ∨ ntfsIsChkdRecord (magic (f.view a.1)) = true)

/-- What holds at the loop head besides: `pos` is the next offset; the mapped page is the file's,
at a page boundary; the log counts as empty exactly while every examined block was empty; at
most one page has been accepted; and every collaborator call so far succeeded. -/
structure ScanInv (size : Nat) (s : ScanState) extends ScanRun f size s : Prop where
  pos_eq : s.pos = scanOffset s.visited.length
  mapped : s.upl = true → s.ppos % c.pageSize = 0 ∧ s.ppos ≤ s.pos ∧ s.paddr = f.view s.ppos
  upl : s.visited ≠ [] → s.upl = true
  empty : s.logfileIsEmpty = true → ∀ p ∈ s.visited, ntfsIsEmptyRecord (magic (f.view p)) = true
  cleared : s.logfileIsEmpty = false →
    ∃ p ∈ s.visited, ntfsIsEmptyRecord (magic (f.view p)) = false
  accepted_le_one : s.accepted.length ≤ 1
  calls : io.AllOk 1 s.calls

variable {c f io}

theorem scanInv_scanStart (size : Nat) : ScanInv c f io size scanStart :=
  { visited_eq := rfl
    visited_lt := by simp [scanStart]
    accepted_sublist := by simp [scanStart]
    accepted_length := by simp [scanStart]
    rstr1_eq := rfl
    rstr2_eq := rfl
    loaded := by simp [scanStart]
    pos_eq := rfl
    mapped := nofun
    upl := by simp [scanStart]
    empty := by simp [scanStart]
    cleared := nofun
    accepted_le_one := by simp [scanStart]
    calls := Io.AllOk.refl io 1 }

/-- A run record only reads the offsets, the accepted pages and the slots. -/
theorem ScanRun.congr {size : Nat} {s s' : ScanState} (h : ScanRun f size s)
    (hv : s'.visited = s.visited) (ha : s'.accepted = s.accepted) (h1 : s'.rstr1 = s.rstr1)
    (h2 : s'.rstr2 = s.rstr2) : ScanRun f size s' := by
  obtain ⟨⟩ := s
  obtain ⟨⟩ := s'
  subst hv ha h1 h2
  exact ⟨h.1, h.2, h.3, h.4, h.5, h.6, h.7⟩

/-- Examining the block at the loop head's `pos` extends the run record. -/
theorem ScanInv.visit {size : Nat} {s : ScanState} (h : ScanInv c f io size s) (hlt : s.pos < size) :
    ScanRun f size { s with visited := s.visited ++ [s.pos] } where
  visited_eq := by simp only [List.length_append, List.length_singleton,
    range_map_scanOffset_succ, ← h.visited_eq, ← h.pos_eq]
  visited_lt p hp := by
    rcases List.mem_append.mp hp with hp | hp
    · exact h.visited_lt p hp
    · exact (List.mem_singleton.mp hp) ▸ hlt
  accepted_sublist := h.accepted_sublist.trans (List.sublist_append_left _ _)
  accepted_length := h.accepted_length
  rstr1_eq := h.rstr1_eq
  rstr2_eq := h.rstr2_eq
  loaded := h.loaded

/-- Storing a page accepted at the loop head's `pos` fills the next free slot. -/
theorem ScanInv.visit_store {size : Nat} {s : ScanState} (h : ScanInv c f io size s)
    (hlt : s.pos < size) {page : Bytes × Int}
    (hpage : LoadedPage f (f.view s.pos) s.pos page.1 page.2 ∧
      (ntfsIsRstrRecord (magic (f.view s.pos)) = true ∨
        ntfsIsChkdRecord (magic (f.view s.pos)) = true)) :
    ScanRun f size ({ s with visited := s.visited ++ [s.pos] }.store page) := by
  obtain ⟨hv1, hv2, -, -, -, -, hl⟩ := h.visit hlt
  have hlen := h.accepted_le_one
  have hr1 := h.rstr1_eq
  have hr2 := h.rstr2_eq
  refine ⟨hv1, hv2, ?_, ?_, ?_, ?_, fun a ha => ?_⟩
  · simpa [ScanState.store] using h.accepted_sublist.append (List.Sublist.refl [s.pos])
  · simp only [ScanState.store, List.length_append, List.length_singleton]
    omega
  · rcases hacc : s.accepted with _ | ⟨a, _ | ⟨b, l⟩⟩ <;>
      simp [hacc, ScanState.store, hr1] at hlen ⊢
  · rcases hacc : s.accepted with _ | ⟨a, _ | ⟨b, l⟩⟩ <;>
      simp [hacc, ScanState.store, hr1, hr2] at hlen ⊢
  · rcases List.mem_append.mp ha with ha | ha
    · exact hl a ha
    · exact (List.mem_singleton.mp ha) ▸ hpage

/-- At offset `0` nothing has been examined, so nothing has been accepted. -/
theorem ScanInv.accepted_eq_nil {size : Nat} {s : ScanState} (h : ScanInv c f io size s)
    (h0 : s.pos = 0) : s.accepted = [] := by
  have hv : s.visited = [] := by
    rw [h.pos_eq, scanOffset_eq_zero_iff] at h0
    exact List.length_eq_zero.mp h0
  have := h.accepted_sublist
  rw [hv, List.sublist_nil, List.map_eq_nil_iff] at this
  exact this

theorem two_pow_mod_eq_zero_or_lt (a b : Nat) : 2 ^ a % 2 ^ b = 0 ∨ 2 ^ a < 2 ^ b := by
  rcases le_or_lt b a with h | h
  · exact .inl (Nat.mod_eq_zero_of_dvd (Nat.pow_dvd_pow 2 h))
  · exact .inr (Nat.pow_lt_pow_right Nat.one_lt_two h)

/-- **The scan maps pages at page boundaries only.** Whenever the loop body calls
`ntfs_page_map`, `pos` is a multiple of `PAGE_SIZE`: offsets below a page are served from the
page mapped at `0`. -/
theorem ScanInv.map_aligned {size : Nat} {s : ScanState} (h : ScanInv c f io size s)
    (hmap : s.upl = false ∨ s.pos - s.pos % c.pageSize ≠ s.ppos) : s.pos % c.pageSize = 0 := by
  rcases hv : s.visited.length with _ | n
  · rw [h.pos_eq, hv]
    rfl
  · have hupl := h.upl (List.ne_nil_of_length_eq_add_one hv)
    obtain ⟨hal, hle, -⟩ := h.mapped hupl
    have hpos : s.pos = 2 ^ (n + 9) := by
      rw [h.pos_eq, hv, scanOffset, ntfsBlockSize, pow_add]
      ring
    rcases two_pow_mod_eq_zero_or_lt (n + 9) c.pageShift with h0 | hlt
    · rw [hpos]
      exact h0
    · have hlt' : s.pos < c.pageSize := hpos ▸ hlt
      have hppos : s.ppos = 0 := by
        rw [Nat.mod_eq_of_lt (lt_of_le_of_lt hle hlt')] at hal
        exact hal
      simp [hupl, hppos, Nat.mod_eq_of_lt hlt'] at hmap

/-! ### One pass -/

theorem view_drop_mod (p P : Nat) : (f.view (p - p % P)).drop (p % P) = f.view p := by
  funext i
  simp [LogFile.view, ← Nat.add_assoc, Nat.sub_add_cancel (Nat.mod_le p P)]

/-- The mapping at the top of the body fails only when `ntfs_page_map` does. -/
theorem scanMap_error {s : ScanState} {e : Nat} (h : scanMap c f io s = .error e) :
    e = mapReadError (io.fault s.calls) ∧ io.fault s.calls ≠ 0 := by
  unfold scanMap at h
  split_ifs at h with hmap hf
  exact ⟨(Except.error.inj h).symm, hf⟩

/-- After the mapping, the file's page at a page boundary `ppos ≤ pos` is mapped and `kaddr`
shows the file from `pos` on; nothing else has changed but the calls made, all successful. -/
theorem scanMap_ok {s s' : ScanState} (h : scanMap c f io s = .ok s')
    (hm : s.upl = true → s.ppos % c.pageSize = 0 ∧ s.ppos ≤ s.pos ∧ s.paddr = f.view s.ppos)
    (hal : s.upl = false ∨ s.pos - s.pos % c.pageSize ≠ s.ppos → s.pos % c.pageSize = 0) :
    ∃ ppos paddr calls, s' = { s with ppos := ppos, upl := true, paddr := paddr, calls := calls } ∧
      (ppos % c.pageSize = 0 ∧ ppos ≤ s.pos ∧ paddr = f.view ppos) ∧
      paddr.drop (s.pos % c.pageSize) = f.view s.pos ∧ io.AllOk s.calls calls := by
  unfold scanMap at h
  split_ifs at h with hmap hf
  · cases h
    have h0 := hal hmap
    refine ⟨_, _, _, rfl, ⟨h0, le_rfl, by rw [h0, Nat.sub_zero]⟩, view_drop_mod _ _,
      fun k h1 h2 => ?_⟩
    obtain rfl : k = s.calls := by omega
    exact not_not.mp hf
  · cases h
    obtain ⟨hupl, hppos⟩ : s.upl = true ∧ s.pos - s.pos % c.pageSize = s.ppos := by simpa using hmap
    refine ⟨s.ppos, s.paddr, s.calls, by cases s; cases hupl; rfl, hm hupl, ?_,
      Io.AllOk.refl io _⟩
    rw [(hm hupl).2.2, ← hppos, view_drop_mod]

variable (f io) in
/-- How the body can end once the page is mapped and `kaddr` shows the file from `pos` on: every
branch of the code, with what the loader guarantees in place of the loader. -/
inductive BlockStep (s : ScanState) : ScanStep → Prop
  | emptyNext (he : ntfsIsEmptyRecord (magic (f.view s.pos)) = true)
      (hl : s.logfileIsEmpty = true) : BlockStep s (.next s.skip)
  | emptyStop (hl : s.logfileIsEmpty = false) : BlockStep s (.stop s)
  | rcrd (hne : ntfsIsEmptyRecord (magic (f.view s.pos)) = false) :
      BlockStep s (.stop { s with logfileIsEmpty := false })
  | other (hne : ntfsIsEmptyRecord (magic (f.view s.pos)) = false) :
      BlockStep s (.next { s with logfileIsEmpty := false }.skip)
  | loadedNext (hne : ntfsIsEmptyRecord (magic (f.view s.pos)) = false) (page : Bytes × Int)
      (k : Nat) (hpage : LoadedPage f (f.view s.pos) s.pos page.1 page.2)
      (hmagic : ntfsIsRstrRecord (magic (f.view s.pos)) = true ∨
        ntfsIsChkdRecord (magic (f.view s.pos)) = true)
      (hcalls : io.AllOk s.calls k) (h0 : s.pos = 0) :
      BlockStep s (.next { { s with logfileIsEmpty := false }.store page with
        calls := k, pos := ntfsBlockSize / 2 })
  | loadedStop (hne : ntfsIsEmptyRecord (magic (f.view s.pos)) = false) (page : Bytes × Int)
      (k : Nat) (hpage : LoadedPage f (f.view s.pos) s.pos page.1 page.2)
      (hmagic : ntfsIsRstrRecord (magic (f.view s.pos)) = true ∨
        ntfsIsChkdRecord (magic (f.view s.pos)) = true)
      (hcalls : io.AllOk s.calls k) (h0 : s.pos ≠ 0) :
      BlockStep s (.stop { { s with logfileIsEmpty := false }.store page with calls := k })
  | invalid (hne : ntfsIsEmptyRecord (magic (f.view s.pos)) = false) (k : Nat)
      (hcalls : io.AllOk s.calls k) :
      BlockStep s (.next { s with logfileIsEmpty := false, calls := k }.skip)
  | failed (e k : Nat) (he : e = EIO ∨ e = ENOMEM) (hf : io.fault (k - 1) ≠ 0)
      (hcalls : io.AllOk s.calls (k - 1)) (hk : s.calls < k) :
      BlockStep s (.err e { s with logfileIsEmpty := false, calls := k })

/-- **What a pass can do.** With `kaddr` showing the file from `pos` on, the rest of the body
returns (the loader does not panic), along one of the branches of `BlockStep`. -/
theorem scanBlock_spec (s : ScanState) (hk : s.paddr.drop (s.pos % c.pageSize) = f.view s.pos) :
    ∃ o, scanBlock c f io s = .ret o ∧ BlockStep f io s o := by
  unfold scanBlock
  dsimp only
  rw [hk]
  split_ifs with he hl hr ho
  · exact ⟨_, rfl, .emptyNext he hl⟩
  · exact ⟨_, rfl, .emptyStop (by simpa using hl)⟩
  all_goals replace he : ntfsIsEmptyRecord (magic (f.view s.pos)) = false := by simpa using he
  · exact ⟨_, rfl, .rcrd he⟩
  · exact ⟨_, rfl, .other he⟩
  · obtain ⟨r, k, hrun, -, hok, herr⟩ := ntfsRestartPageLoad_spec c f io s.pos s.calls
    rw [hrun]
    rcases r with e | ⟨trp, lsn⟩
    · rcases herr e rfl with ⟨rfl, hall⟩ | ⟨hcode, hf, hall, hlt⟩
      · exact ⟨_, if_neg (not_not.mpr rfl), .invalid he k hall⟩
      · exact ⟨_, if_pos (readError_ne hcode).1, .failed e k hcode hf hall hlt⟩
    · obtain ⟨hpage, hall⟩ := hok trp lsn rfl
      have hmagic : ntfsIsRstrRecord (magic (f.view s.pos)) = true ∨
          ntfsIsChkdRecord (magic (f.view s.pos)) = true := by
        rw [← Bool.not_eq_false]
        exact not_and_or.mp ho |>.imp (fun h => by simpa using h) fun h => by simpa using h
      dsimp only
      split
      · exact ⟨_, rfl, .loadedNext he (trp, lsn) k hpage hmagic hall ‹_›⟩
      · exact ⟨_, rfl, .loadedStop he (trp, lsn) k hpage hmagic hall ‹_›⟩

/-! ### From one pass to the run -/

variable (f io) in
/-- How the scan ends: at `break` or past the size, with every call successful, the log counted
as empty exactly when every examined block is, and, for an empty log, every offset below the
size examined; or at `goto err`, with `EIO` or `ENOMEM` from its last call. -/
def ScanExit (size : Nat) : Except (Nat × ScanState) ScanState → Prop
  | .ok s => ScanRun f size s ∧ io.AllOk 1 s.calls ∧
      (s.logfileIsEmpty = true → (∀ p ∈ s.visited, ntfsIsEmptyRecord (magic (f.view p)) = true) ∧
        ∀ n, scanOffset n < size → scanOffset n ∈ s.visited) ∧
      (s.logfileIsEmpty = false → ∃ p ∈ s.visited, ntfsIsEmptyRecord (magic (f.view p)) = false)
  | .error (e, s) => ScanRun f size s ∧ (e = EIO ∨ e = ENOMEM) ∧ io.fault (s.calls - 1) ≠ 0 ∧
      io.AllOk 1 (s.calls - 1)

/-- The run record at whichever way the scan ends. -/
theorem ScanExit.run {size : Nat} {r : Except (Nat × ScanState) ScanState}
    (h : ScanExit f io size r) {s : ScanState} (hs : r = .ok s ∨ ∃ e, r = .error (e, s)) :
    ScanRun f size s := by
  rcases hs with rfl | ⟨e, rfl⟩
  exacts [h.1, h.1]

variable (c f io) in
/-- What a pass from the loop head `s` leaves: a loop head at a greater offset, or an exit. -/
def StepPost (size : Nat) (s : ScanState) : ScanStep → Prop
  | .next s' => ScanInv c f io size { s' with pos := s'.pos * 2 } ∧ s.pos < s'.pos * 2
  | .stop s' => ScanExit f io size (.ok s')
  | .err e s' => ScanExit f io size (.error (e, s'))

/-- A loop head past the size is an exit: every offset below the size has been examined. -/
theorem ScanInv.exit {size : Nat} {s : ScanState} (h : ScanInv c f io size s) (hle : size ≤ s.pos) :
    ScanExit f io size (.ok s) := by
  refine ⟨h.toScanRun, h.calls, fun hl => ⟨h.empty hl, fun n hn => ?_⟩, h.cleared⟩
  have hlen : n < s.visited.length :=
    scanOffset_strictMono.lt_iff_lt.mp (by rw [← h.pos_eq]; omega)
  rw [h.visited_eq]
  exact List.mem_map_of_mem _ (List.mem_range.mpr hlen)

/-- A `continue` from the loop head `s` reaches a loop head at the next offset. -/
theorem ScanInv.next {size : Nat} {s s' : ScanState} (h : ScanInv c f io size s)
    (hrun : ScanRun f size s') (hv : s'.visited = s.visited ++ [s.pos])
    (hpos : s'.pos = if s.pos = 0 then ntfsBlockSize / 2 else s.pos)
    (hm : s'.upl = true ∧ s'.ppos % c.pageSize = 0 ∧ s'.ppos ≤ s.pos ∧ s'.paddr = f.view s'.ppos)
    (he : s'.logfileIsEmpty = true → ∀ p ∈ s'.visited, ntfsIsEmptyRecord (magic (f.view p)) = true)
    (hcl : s'.logfileIsEmpty = false →
      ∃ p ∈ s'.visited, ntfsIsEmptyRecord (magic (f.view p)) = false)
    (ha : s'.accepted.length ≤ 1) (hc : io.AllOk 1 s'.calls) :
    StepPost c f io size s (.next s') := by
  have hnext : s'.pos * 2 = scanOffset (s.visited.length + 1) := by
    rw [hpos, h.pos_eq, scanOffset_succ]
  have hgt : s.pos < s'.pos * 2 := by
    rw [hnext, h.pos_eq]
    exact scanOffset_strictMono (Nat.lt_succ_self _)
  refine ⟨⟨hrun.congr rfl rfl rfl rfl, ?_, fun _ => ⟨hm.2.1, by simp only; omega, hm.2.2.2⟩,
    fun _ => hm.1, he, hcl, ha, hc⟩, hgt⟩
  simp only [hv, List.length_append, List.length_singleton, hnext]

/-- **Every branch keeps the invariant.** A pass from a loop head below the size, on the mapped
page, ends at a loop head at a greater offset or at an exit. -/
theorem BlockStep.post {size : Nat} {s : ScanState} {ppos k₁ : Nat} {paddr : Bytes} {o : ScanStep}
    (h : ScanInv c f io size s) (hlt : s.pos < size)
    (hm : ppos % c.pageSize = 0 ∧ ppos ≤ s.pos ∧ paddr = f.view ppos) (hk : io.AllOk s.calls k₁)
    (hstep : BlockStep f io
      { s with
        visited := s.visited ++ [s.pos], ppos := ppos, upl := true, paddr := paddr, calls := k₁ }
      o) :
    StepPost c f io size s o := by
  have hrun := h.visit hlt
  have hcalls := h.calls.trans hk
  have hnew : s.pos ∈ s.visited ++ [s.pos] := List.mem_append_right _ (List.mem_singleton_self _)
  cases hstep with
  | emptyNext he hl =>
    refine h.next (hrun.congr rfl rfl rfl rfl) rfl rfl ⟨rfl, hm⟩ (fun _ p hp => ?_)
      (fun h' => Bool.noConfusion (hl.symm.trans h')) h.accepted_le_one hcalls
    rcases List.mem_append.mp hp with hp | hp
    · exact h.empty hl p hp
    · exact (List.mem_singleton.mp hp) ▸ he
  | emptyStop hl =>
    obtain ⟨p, hp, hne⟩ := h.cleared hl
    exact ⟨hrun.congr rfl rfl rfl rfl, hcalls, fun h' => Bool.noConfusion (hl.symm.trans h'),
      fun _ => ⟨p, List.mem_append_left _ hp, hne⟩⟩
  | rcrd hne => exact ⟨hrun.congr rfl rfl rfl rfl, hcalls, nofun, fun _ => ⟨_, hnew, hne⟩⟩
  | other hne =>
    exact h.next (hrun.congr rfl rfl rfl rfl) rfl rfl ⟨rfl, hm⟩ nofun (fun _ => ⟨_, hnew, hne⟩)
      h.accepted_le_one hcalls
  | loadedNext hne page k hpage hmagic hall h0 =>
    have hacc := h.accepted_eq_nil h0
    exact h.next ((h.visit_store hlt ⟨hpage, hmagic⟩).congr rfl rfl rfl rfl) rfl
      (by rw [if_pos (show s.pos = 0 from h0)]) ⟨rfl, hm⟩ nofun (fun _ => ⟨_, hnew, hne⟩)
      (by simp [ScanState.store, hacc]) (hcalls.trans hall)
  | loadedStop hne page k hpage hmagic hall h0 =>
    exact ⟨(h.visit_store hlt ⟨hpage, hmagic⟩).congr rfl rfl rfl rfl, hcalls.trans hall, nofun,
      fun _ => ⟨_, hnew, hne⟩⟩
  | invalid hne k hall =>
    exact h.next (hrun.congr rfl rfl rfl rfl) rfl rfl ⟨rfl, hm⟩ nofun (fun _ => ⟨_, hnew, hne⟩)
      h.accepted_le_one (hcalls.trans hall)
  | failed e k he hf hall hk' =>
    exact ⟨hrun.congr rfl rfl rfl rfl, he, hf, hcalls.trans hall⟩

/-- **One pass.** From a loop head below the size, the body returns, at a loop head at a
greater offset or at an exit. -/
theorem scanBody_spec {size : Nat} {s : ScanState} (h : ScanInv c f io size s) (hlt : s.pos < size) :
    ∃ o, scanBody c f io s = .ret o ∧ StepPost c f io size s o := by
  unfold scanBody
  dsimp only
  split
  · next e hm =>
    obtain ⟨rfl, hf⟩ := scanMap_error hm
    exact ⟨_, rfl, (h.visit hlt).congr rfl rfl rfl rfl, mapReadError_eq _, hf, h.calls⟩
  · next s₁ hm =>
    obtain ⟨ppos, paddr, k₁, hs₁, hmap, hk, hall⟩ := scanMap_ok hm h.mapped h.map_aligned
    obtain ⟨o, ho, hstep⟩ := scanBlock_spec (c := c) s₁ (by subst hs₁; exact hk)
    subst hs₁
    exact ⟨o, ho, hstep.post h hlt hmap hall⟩

variable (c f io) in
/-- **The scan ends.** From a loop head, `size - pos + 1` passes are enough: the loop returns,
at `break`, past the size, or at `goto err`, never at the loader's panic. -/
theorem scanLoop_spec (size : Nat) :
    ∀ (fuel : Nat) (s : ScanState), ScanInv c f io size s → size - s.pos ≤ fuel →
      ∃ r, scanLoop c f io size fuel s = .ret r ∧ ScanExit f io size r := by
  intro fuel
  induction fuel with
  | zero =>
    intro s h hfuel
    rw [scanLoop, if_neg (by omega)]
    exact ⟨_, rfl, h.exit (by omega)⟩
  | succ n ih =>
    intro s h hfuel
    rw [scanLoop]
    split_ifs with hlt
    · obtain ⟨o, ho, hpost⟩ := scanBody_spec h hlt
      rw [ho]
      cases o with
      | next s' => exact ih _ hpost.1 (by show size - s'.pos * 2 ≤ n; have := hpost.2; omega)
      | stop s' => exact ⟨_, rfl, hpost⟩
      | err e s' => exact ⟨_, rfl, hpost⟩
    · exact ⟨_, rfl, h.exit (by omega)⟩

end NtfsLogfile
