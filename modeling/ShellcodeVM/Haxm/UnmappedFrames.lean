import ShellcodeVM.Haxm.PageUnmapping

/-!
Which frames `unmap_pages` frees, for every range of pages, the window of the directory
included. The loop frees the frame number in the word that it reads as the entry of a
page, present or not. In the window that word is an entry of the directory itself, so a
later page can find its entry of the directory cleared, which ends the loop.
-/
namespace ShellcodeVM.Haxm
open Machine

/-- The word that `unmap_pages` reads as the entry of the page of an address. -/
def rawEntry (vm : VmPaging) (base : Nat) (host : Memory) (va : Nat) : Nat :=
  tableEntry (window host base)
    (frameOf (dirEntry (window host base) vm.pageDirPhysicalAddr (dirIndex va))) (tableIndex va)

/-- Page `i` of a range has its entry in slot `j` of the table at entry `d`. -/
def AtEntry (gva i d j : Nat) : Prop :=
  dirIndex (gva + i * 4096) = d ∧ tableIndex (gva + i * 4096) = j

instance (gva i d j : Nat) : Decidable (AtEntry gva i d j) :=
  inferInstanceAs (Decidable (_ ∧ _))

/-- Every page up to page `k` has an entry in the directory, and no page in front of it is
the one that clears this entry through the window. -/
def ComesTo (vm : VmPaging) (base : Nat) (host : Memory) (gva k : Nat) : Prop :=
  ∀ i, i ≤ k →
    dirEntry (window host base) vm.pageDirPhysicalAddr (dirIndex (gva + i * 4096)) ≠ 0 ∧
    ∀ j, j < i → ¬ AtEntry gva j vm.selfMap (dirIndex (gva + i * 4096))

/-- A page of the range is mapped to a frame. -/
def MapsTo (vm : VmPaging) (base : Nat) (host : Memory) (gva pages f : Nat) : Prop :=
  ∃ k t, k < pages ∧ guestWalk vm base host (gva + k * 4096) = some t ∧ t.address / 4096 = f

/-- `unmap_pages` returns, and every used frame that it frees is one that a page of the
range was mapped to. -/
def FreesMapped (vm : VmPaging) (base : Nat) (host : Memory) (gva pages : Nat) : Prop :=
  ∃ ok host', vm.unmapPages host gva pages = pure (ok, host') ∧
    ∀ f, f < frameDatabaseSize → window host base f = pageUsed → window host' base f = pageFree →
      MapsTo vm base host gva pages f

/-- What the passes for the first `k` pages leave. -/
structure Unmapped (vm : VmPaging) (base : Nat) (host host' : Memory) (gva k : Nat) : Prop where
  freed : ∀ i, i < k →
    window host' base (rawEntry vm base host (gva + i * 4096) / 4096) = pageFree
  marks : ∀ f, f < frameDatabaseSize →
    (∀ i, i < k → rawEntry vm base host (gva + i * 4096) / 4096 ≠ f) →
    window host' base f = window host base f
  cleared : ∀ d j, d < 1024 → dirEntry (window host base) vm.pageDirPhysicalAddr d ≠ 0 →
    (∃ i, i < k ∧ AtEntry gva i d j) →
    tableEntry (window host' base)
      (frameOf (dirEntry (window host base) vm.pageDirPhysicalAddr d)) j = 0
  kept : ∀ d j, d < 1024 → j < 1024 →
    dirEntry (window host base) vm.pageDirPhysicalAddr d ≠ 0 → (∀ i, i < k → ¬ AtEntry gva i d j) →
    tableEntry (window host' base)
        (frameOf (dirEntry (window host base) vm.pageDirPhysicalAddr d)) j =
      tableEntry (window host base)
        (frameOf (dirEntry (window host base) vm.pageDirPhysicalAddr d)) j

theorem ComesTo.mono {vm : VmPaging} {base : Nat} {host : Memory} {gva k k' : Nat}
    (h : ComesTo vm base host gva k) (hle : k' ≤ k) : ComesTo vm base host gva k' :=
  fun i hi => h i (le_trans hi hle)

theorem rawEntry_frame_lt (vm : VmPaging) (base : Nat) (host : Memory) (va : Nat) :
    rawEntry vm base host va / 4096 < frameDatabaseSize := by
  have hlt : rawEntry vm base host va < 2 ^ 32 := read32_lt _ _
  rw [frameDatabaseSize]
  omega

/-- The pages of a range have different entries. -/
theorem AtEntry.page_eq {gva i i' d j : Nat} (h : AtEntry gva i d j) (h' : AtEntry gva i' d j) :
    i = i' := by
  have hsame := (samePage_iff (gva + i * 4096) (gva + i' * 4096)).mpr
    ⟨h.1.trans h'.1.symm, h.2.trans h'.2.symm⟩
  omega

theorem unmapped_zero (vm : VmPaging) (base : Nat) (host : Memory) (gva : Nat) :
    Unmapped vm base host host gva 0 where
  freed := fun i hi => absurd hi (Nat.not_lt_zero i)
  marks := fun _ _ _ => rfl
  cleared := fun _ _ _ _ ⟨i, hi, _⟩ => absurd hi (Nat.not_lt_zero i)
  kept := fun _ _ _ _ _ _ => rfl

section Frames

variable {vm : VmPaging} {base ramSize : Nat} {host : Memory} (h : Translates vm base ramSize host)
include h

/-- A table, or the directory in its own window, is a frame of RAM outside the database. -/
theorem Translates.frame {d : Nat} (hd : d < 1024)
    (hentry : dirEntry (window host base) vm.pageDirPhysicalAddr d ≠ 0) :
    frameDatabaseSize ≤ frameOf (dirEntry (window host base) vm.pageDirPhysicalAddr d) ∧
      frameOf (dirEntry (window host base) vm.pageDirPhysicalAddr d) + 4096 ≤ ramSize := by
  by_cases hself : d = vm.selfMap
  · rw [hself, h.tables.selfFrame]
    exact ⟨h.above, h.tables.dirInside⟩
  · have htable := h.tables.table d hd hself hentry
    exact ⟨htable.above, htable.inside⟩

theorem Translates.frame_inj {d d' : Nat} (hd : d < 1024) (hd' : d' < 1024)
    (hentry : dirEntry (window host base) vm.pageDirPhysicalAddr d ≠ 0)
    (hentry' : dirEntry (window host base) vm.pageDirPhysicalAddr d' ≠ 0)
    (heq : frameOf (dirEntry (window host base) vm.pageDirPhysicalAddr d) =
      frameOf (dirEntry (window host base) vm.pageDirPhysicalAddr d')) : d = d' := by
  by_contra hne
  by_cases hself : d = vm.selfMap
  · have hself' : d' ≠ vm.selfMap := fun hself' => hne (hself.trans hself'.symm)
    rw [hself, h.tables.selfFrame] at heq
    exact (h.tables.table d' hd' hself' hentry').notDir heq.symm
  · by_cases hself' : d' = vm.selfMap
    · rw [hself', h.tables.selfFrame] at heq
      exact (h.tables.table d hd hself hentry).notDir heq
    · exact h.tables.distinct d d' hd hd' hself hself' hne hentry hentry' heq

/-- An entry that is not zero is present. -/
theorem Translates.present {d : Nat} (hd : d < 1024)
    (hentry : dirEntry (window host base) vm.pageDirPhysicalAddr d ≠ 0) :
    Present (dirEntry (window host base) vm.pageDirPhysicalAddr d) := by
  by_cases hself : d = vm.selfMap
  · rw [hself]
    exact h.tables.selfPresent
  · exact (h.tables.table d hd hself hentry).present

/-- An entry of the directory is a slot of the window: if it is still there after `k`
pages, it is the one from before them. -/
theorem Unmapped.dirEntry_eq {host' : Memory} {gva k : Nat}
    (hun : Unmapped vm base host host' gva k) {d : Nat} (hd : d < 1024)
    (hentry : dirEntry (window host' base) vm.pageDirPhysicalAddr d ≠ 0) :
    dirEntry (window host' base) vm.pageDirPhysicalAddr d =
        dirEntry (window host base) vm.pageDirPhysicalAddr d ∧
      ∀ i, i < k → ¬ AtEntry gva i vm.selfMap d := by
  have hself := present_ne_zero h.tables.selfPresent
  have huncleared : ∀ i, i < k → ¬ AtEntry gva i vm.selfMap d := by
    intro i hi hat
    have hzero := hun.cleared vm.selfMap d h.tables.selfIndex hself ⟨i, hi, hat⟩
    rw [h.tables.selfFrame] at hzero
    exact hentry hzero
  have hkept := hun.kept vm.selfMap d h.tables.selfIndex hd hself huncleared
  rw [h.tables.selfFrame] at hkept
  exact ⟨hkept, huncleared⟩

/-- What the stores of the pass for page `k` add. -/
theorem Unmapped.store {host' host'' : Memory} {gva k : Nat}
    (hun : Unmapped vm base host host' gva k) (hlt : gva + k * 4096 < 2 ^ 32)
    (hentry : dirEntry (window host base) vm.pageDirPhysicalAddr (dirIndex (gva + k * 4096)) ≠ 0)
    (hstore : window host'' base =
      write32 (memset (window host' base) (rawEntry vm base host (gva + k * 4096) / 4096) pageFree 1)
        (frameOf (dirEntry (window host base) vm.pageDirPhysicalAddr (dirIndex (gva + k * 4096))) +
          4 * tableIndex (gva + k * 4096)) 0) :
    Unmapped vm base host host'' gva (k + 1) := by
  have hindex := dirIndex_lt hlt
  have hraw := rawEntry_frame_lt vm base host (gva + k * 4096)
  obtain ⟨habove, -⟩ := h.frame hindex hentry
  have hmark : ∀ f, f < frameDatabaseSize → window host'' base f =
      if f = rawEntry vm base host (gva + k * 4096) / 4096 then pageFree else window host' base f := by
    intro f hf
    rw [hstore, write32_of_disjoint _ _ _ (.inl (by omega)), memset_apply]
    by_cases heq : f = rawEntry vm base host (gva + k * 4096) / 4096
    · rw [if_pos heq, if_pos (by omega)]
    · rw [if_neg heq, if_neg (by omega)]
  have hword : ∀ d j, d < 1024 → j < 1024 →
      dirEntry (window host base) vm.pageDirPhysicalAddr d ≠ 0 →
      tableEntry (window host'' base)
          (frameOf (dirEntry (window host base) vm.pageDirPhysicalAddr d)) j =
        if AtEntry gva k d j then 0 else tableEntry (window host' base)
          (frameOf (dirEntry (window host base) vm.pageDirPhysicalAddr d)) j := by
    intro d j hd hj hne
    obtain ⟨habove', -⟩ := h.frame hd hne
    rw [tableEntry, hstore]
    split_ifs with hat
    · rw [← hat.1, ← hat.2, read32_write32_same, Nat.zero_mod]
    · have haligned := frameOf_aligned (dirEntry (window host base) vm.pageDirPhysicalAddr d)
      have haligned' := frameOf_aligned
        (dirEntry (window host base) vm.pageDirPhysicalAddr (dirIndex (gva + k * 4096)))
      have hslot := tableIndex_lt (gva + k * 4096)
      have hapart : d = dirIndex (gva + k * 4096) ∧ j ≠ tableIndex (gva + k * 4096) ∨
          frameOf (dirEntry (window host base) vm.pageDirPhysicalAddr d) ≠
            frameOf (dirEntry (window host base) vm.pageDirPhysicalAddr
              (dirIndex (gva + k * 4096))) := by
        by_cases heq : d = dirIndex (gva + k * 4096)
        · exact .inl ⟨heq, fun hj' => hat ⟨heq.symm, hj'.symm⟩⟩
        · exact .inr fun hframe => heq (h.frame_inj hd hindex hne hentry hframe)
      rw [read32_write32_of_disjoint _ _ _ ?_, read32_memset_outside _ _ (.inr (by omega))]
      · rfl
      · obtain ⟨heq, hj'⟩ | hframe := hapart
        · rw [← heq]
          omega
        · omega
  refine ⟨?_, ?_, ?_, ?_⟩
  · intro i hi
    rw [hmark _ (rawEntry_frame_lt _ _ _ _)]
    split_ifs with heq
    · rfl
    · have hne : i ≠ k := fun hik => heq (by rw [hik])
      exact hun.freed i (by omega)
  · intro f hf hnot
    rw [hmark f hf, if_neg (fun heq => hnot k (Nat.lt_succ_self k) heq.symm)]
    exact hun.marks f hf fun i hi => hnot i (by omega)
  · rintro d j hd hne ⟨i, hi, hat⟩
    have hj : j < 1024 := hat.2 ▸ tableIndex_lt _
    rw [hword d j hd hj hne]
    split_ifs with hlast
    · rfl
    · have hik : i ≠ k := fun hik => hlast (hik ▸ hat)
      exact hun.cleared d j hd hne ⟨i, by omega, hat⟩
  · intro d j hd hj hne hnot
    rw [hword d j hd hj hne, if_neg (hnot k (Nat.lt_succ_self k))]
    exact hun.kept d j hd hj hne fun i hi => hnot i (by omega)

/-- The pass for page `k` ends the loop, or it frees and clears what the page had before
the first one. -/
theorem Unmapped.pass {host' : Memory} {gva k : Nat} (hun : Unmapped vm base host host' gva k)
    (hlt : gva + k * 4096 < 2 ^ 32) (hcome : ∀ i, i < k → ComesTo vm base host gva i) :
    (vm.unmapPage (base + vm.pageDirPhysicalAddr) host' (gva + k * 4096) = pure (false, host') ∧
      ¬ ComesTo vm base host gva k) ∨
    ComesTo vm base host gva k ∧ ∃ host'',
      vm.unmapPage (base + vm.pageDirPhysicalAddr) host' (gva + k * 4096) = pure (true, host'') ∧
      Unmapped vm base host host'' gva (k + 1) := by
  have hindex := dirIndex_lt hlt
  by_cases hempty : dirEntry (window host' base) vm.pageDirPhysicalAddr
      (dirIndex (gva + k * 4096)) = 0
  · refine .inl ⟨unmapPage_noTable hlt hempty, ?_⟩
    intro hk
    obtain ⟨hentry, huncleared⟩ := hk k (le_refl k)
    have hself := present_ne_zero h.tables.selfPresent
    have hkept := hun.kept vm.selfMap _ h.tables.selfIndex hindex hself huncleared
    rw [h.tables.selfFrame] at hkept
    exact hentry (hkept.symm.trans hempty)
  · obtain ⟨hsame, huncleared⟩ := hun.dirEntry_eq h hindex hempty
    have hentry : dirEntry (window host base) vm.pageDirPhysicalAddr
        (dirIndex (gva + k * 4096)) ≠ 0 := by rwa [← hsame]
    obtain ⟨habove, hinside⟩ := h.frame hindex hentry
    have hnonzero : frameOf (dirEntry (window host base) vm.pageDirPhysicalAddr
        (dirIndex (gva + k * 4096))) ≠ 0 := by
      rw [frameDatabaseSize] at habove
      omega
    have hraw : tableEntry (window host' base) (frameOf (dirEntry (window host base)
        vm.pageDirPhysicalAddr (dirIndex (gva + k * 4096)))) (tableIndex (gva + k * 4096)) =
        rawEntry vm base host (gva + k * 4096) := by
      refine hun.kept _ _ hindex (tableIndex_lt _) hentry fun i hi hat => ?_
      exact absurd (hat.page_eq ⟨rfl, rfl⟩) (by omega)
    obtain ⟨host'', hcall, hstore⟩ := unmapPage_entry h.oneBlock hlt hsame hraw hnonzero hinside
    refine .inr ⟨?_, host'', hcall, hun.store h hlt hentry hstore⟩
    intro i hi
    rcases Nat.lt_or_eq_of_le hi with hlt' | heq
    · exact hcome i hlt' i (le_refl i)
    · rw [heq]
      exact ⟨hentry, huncleared⟩

/-- The loop from page `k` on handles the pages up to the first one that it does not come
to. -/
theorem Unmapped.loop {host' : Memory} {gva k pages : Nat}
    (hun : Unmapped vm base host host' gva k) (hends : gva + (k + pages) * 4096 ≤ 2 ^ 32)
    (hcome : ∀ i, i < k → ComesTo vm base host gva i) :
    ∃ ok host'' s, vm.unmapPagesLoop (base + vm.pageDirPhysicalAddr) pages host' (gva + k * 4096) =
        pure (ok, host'') ∧
      s ≤ k + pages ∧ (ok = true → s = k + pages) ∧ Unmapped vm base host host'' gva s ∧
      (∀ i, i < s → ComesTo vm base host gva i) ∧
      (s < k + pages → ¬ ComesTo vm base host gva s) := by
  induction pages generalizing host' k with
  | zero => exact ⟨true, host', k, rfl, Nat.le_add_right k 0, fun _ => rfl, hun, hcome,
      fun hlt => absurd hlt (Nat.lt_irrefl k)⟩
  | succ pages ih =>
      rw [VmPaging.unmapPagesLoop]
      rcases hun.pass h (by omega) hcome with ⟨hcall, hnot⟩ | ⟨hk, host₁, hcall, hnext⟩
      · rw [hcall, pure_bind]
        exact ⟨false, host', k, rfl, Nat.le_add_right k _, fun hok => Bool.noConfusion hok, hun,
          hcome, fun _ => hnot⟩
      · have hstep : (gva + k * 4096 + pageSize) % 2 ^ 64 = gva + (k + 1) * 4096 := by
          rw [pageSize]
          omega
        have hcome' : ∀ i, i < k + 1 → ComesTo vm base host gva i :=
          fun i hi => hk.mono (Nat.le_of_lt_succ hi)
        have hassoc : k + 1 + pages = k + (pages + 1) := by omega
        have hends' : gva + (k + 1 + pages) * 4096 ≤ 2 ^ 32 := by rwa [hassoc]
        obtain ⟨ok, host'', s, hrun, hs, hok, hlast, hall, hend⟩ := ih hnext hends' hcome'
        rw [hassoc] at hs hok hend
        refine ⟨ok, host'', s, ?_, hs, hok, hlast, hall, hend⟩
        rw [hcall, pure_bind, if_neg Bool.noConfusion, hstep]
        exact hrun

/-- Before the call, a page whose word is present is mapped to the frame in it. -/
theorem Translates.mapsTo {gva pages k : Nat}
    (hends : gva + pages * 4096 ≤ 2 ^ 32) (hk : k < pages)
    (hentry : dirEntry (window host base) vm.pageDirPhysicalAddr (dirIndex (gva + k * 4096)) ≠ 0)
    (hpresent : Present (rawEntry vm base host (gva + k * 4096))) :
    MapsTo vm base host gva pages (rawEntry vm base host (gva + k * 4096) / 4096) := by
  have hpde := h.present (dirIndex_lt (by omega)) hentry
  have hwalk := walk_mapped (rfl : dirEntry (window host base) vm.pageDirPhysicalAddr
    (dirIndex (gva + k * 4096)) = _) hpde rfl hpresent
  refine ⟨k, _, hk, hwalk, ?_⟩
  exact walk_frame hwalk

/-- `unmap_pages` handles the pages up to the first one that it does not come to. -/
theorem Translates.unmapPages {gva pages : Nat} (hends : gva + pages * 4096 ≤ 2 ^ 32) :
    ∃ ok host' s, vm.unmapPages host gva pages = pure (ok, host') ∧ s ≤ pages ∧
      (ok = true → s = pages) ∧ Unmapped vm base host host' gva s ∧
      (∀ i, i < s → ComesTo vm base host gva i) ∧
      (s < pages → ¬ ComesTo vm base host gva s) := by
  have hends' : gva + (0 + pages) * 4096 ≤ 2 ^ 32 := by rwa [Nat.zero_add]
  obtain ⟨ok, host', s, hloop, hs, hok, hun, hcome, hend⟩ :=
    (unmapped_zero vm base host gva).loop h hends' fun i hi => absurd hi (Nat.not_lt_zero i)
  rw [Nat.zero_mul, Nat.add_zero] at hloop
  rw [Nat.zero_add] at hs hok hend
  rw [VmPaging.unmapPages, h.oneBlock.directoryHva h.tables]
  exact ⟨ok, host', s, hloop, hs, hok, hun, hcome, hend⟩

/-- What the frame in the word of a page is then known of. -/
theorem Translates.freed_mapsTo {gva pages k : Nat} (hends : gva + pages * 4096 ≤ 2 ^ 32)
    (hfrees : FreesMapped vm base host gva pages) (hk : k < pages)
    (hcome : ComesTo vm base host gva k)
    (hused : window host base (rawEntry vm base host (gva + k * 4096) / 4096) = pageUsed) :
    MapsTo vm base host gva pages (rawEntry vm base host (gva + k * 4096) / 4096) := by
  obtain ⟨ok, host', s, hcall, hs, -, hun, -, hend⟩ := h.unmapPages hends
  obtain ⟨ok', left, hcall', hmapped⟩ := hfrees
  obtain ⟨rfl, rfl⟩ := Prod.mk.inj (pure_inj (hcall.symm.trans hcall'))
  have hks : k < s := by
    by_contra hge
    exact hend (by omega) (hcome.mono (by omega))
  exact hmapped _ (rawEntry_frame_lt _ _ _ _) hused (hun.freed k hks)

end Frames

/-- `unmap_pages` frees only what it unmapped just when no page that it comes to has a
word that is not present and yet names a used frame, one that no page of the range is
mapped to. -/
theorem unmap_frees_mapped_iff (vm : VmPaging) (base ramSize : Nat) (host : Memory)
    (gva pages : Nat) (h : Translates vm base ramSize host) (hends : gva + pages * 4096 ≤ 2 ^ 32) :
    FreesMapped vm base host gva pages ↔
      ∀ k, k < pages → ComesTo vm base host gva k →
        ¬ Present (rawEntry vm base host (gva + k * 4096)) →
        window host base (rawEntry vm base host (gva + k * 4096) / 4096) = pageUsed →
        MapsTo vm base host gva pages (rawEntry vm base host (gva + k * 4096) / 4096) := by
  constructor
  · intro hfrees k hk hcome _ hused
    exact h.freed_mapsTo hends hfrees hk hcome hused
  · intro hcond
    obtain ⟨ok, host', s, hcall, hs, -, hun, hcome, -⟩ := h.unmapPages hends
    refine ⟨ok, host', hcall, ?_⟩
    intro f hf hused hfree
    obtain ⟨i, hi, heq⟩ : ∃ i, i < s ∧ rawEntry vm base host (gva + i * 4096) / 4096 = f := by
      by_contra hnone
      have hkept := hun.marks f hf fun i hi heq => hnone ⟨i, hi, heq⟩
      rw [hkept, hused] at hfree
      exact absurd hfree (by decide)
    rw [← heq] at hused ⊢
    by_cases hpresent : Present (rawEntry vm base host (gva + i * 4096))
    · exact h.mapsTo hends (by omega) ((hcome i hi) i (le_refl i)).1 hpresent
    · exact hcond i (by omega) (hcome i hi) hpresent hused

/-- The RAM of `oneTableRam 1 3` with the page at 0 mapped to the frame of the table. -/
def mappedRam : Memory := write32 (oneTableRam 1 3) 0x101000 0x101003

theorem mappedRam_translates :
    Translates (oneTableVm 1) 0x10000000 0x102000 (hostWith 0x10000000 mappedRam) where
  oneBlock := (oneTableVm_wellFormed (by decide : 3 < 4096) (by decide) Nat.one_pos (by decide)).oneBlock
  tables := by
    have htables := (oneTableVm_wellFormed (by decide : 3 < 4096) (by decide) Nat.one_pos (by decide)).tables
    refine htables.congr ?_
    intro d hd
    rw [hostWith, hostWith, window_replaceWindow, window_replaceWindow, mappedRam]
    refine read32_write32_of_disjoint _ _ _ (.inl ?_)
    change 0x100000 + 4 * d + 4 ≤ 0x101000
    omega
  above := by decide

/-- Unmapping the mapped page frees only its frame. -/
theorem unmap_frees_mapped_page :
    FreesMapped (oneTableVm 1) 0x10000000 (hostWith 0x10000000 mappedRam) 0 1 := by
  refine (unmap_frees_mapped_iff (oneTableVm 1) 0x10000000 0x102000 _ 0 1 mappedRam_translates
    (by decide)).mpr ?_
  intro k hk _ habsent
  obtain rfl : k = 0 := Nat.lt_one_iff.mp hk
  refine absurd ?_ habsent
  rw [rawEntry, hostWith, window_replaceWindow]
  decide +kernel

/-- With nothing mapped, the zero word of the page at 0 frees frame 0 of the database. -/
theorem unmap_frees_database :
    ¬ FreesMapped (oneTableVm 1) 0x10000000 (hostWith 0x10000000 (oneTableRam 1 3)) 0 1 := by
  intro hfrees
  have hw := oneTableVm_wellFormed (by decide : 3 < 4096) (by decide) Nat.one_pos (by decide)
  have hwindow : window (hostWith 0x10000000 (oneTableRam 1 3)) 0x10000000 = oneTableRam 1 3 :=
    window_replaceWindow _ _ _
  have hraw : rawEntry (oneTableVm 1) 0x10000000 (hostWith 0x10000000 (oneTableRam 1 3)) (0 + 0 * 4096) = 0 := by
    rw [rawEntry, hwindow]
    decide +kernel
  have hcome : ComesTo (oneTableVm 1) 0x10000000 (hostWith 0x10000000 (oneTableRam 1 3)) 0 0 := by
    intro i hi
    obtain rfl : i = 0 := Nat.le_zero.mp hi
    refine ⟨?_, fun j hj => absurd hj (Nat.not_lt_zero j)⟩
    rw [hwindow]
    decide +kernel
  have hused : window (hostWith 0x10000000 (oneTableRam 1 3)) 0x10000000 (0 / 4096) = pageUsed := by
    rw [hwindow]
    decide +kernel
  have hmaps := Translates.freed_mapsTo ⟨hw.oneBlock, hw.tables, by decide⟩ (by decide) hfrees
    Nat.one_pos hcome (by rwa [hraw])
  obtain ⟨k, t, hk, hwalk, -⟩ := hmaps
  obtain rfl : k = 0 := Nat.lt_one_iff.mp hk
  rw [guestWalk, walk_table_absent ?_] at hwalk
  · cases hwalk
  · rw [hwindow]
    decide +kernel

end ShellcodeVM.Haxm
