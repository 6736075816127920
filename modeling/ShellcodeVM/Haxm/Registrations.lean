import ShellcodeVM.Haxm.Translation

/-!
How often a block is given a guest address. `hax_set_phys_mem` takes a non-zero
guest address in the table to mean that the block was set, so a block that was set
at guest address 0 still counts as not set.
-/
namespace ShellcodeVM.Haxm
open Machine

/-- A set of the block is refused before any request, whatever the outcome of one. -/
def RefusesSet (s : MemState) (va : Nat) : Prop :=
  ∀ guestPhysicalAddr size ioctl,
    haxSetPhysMem s.blocks guestPhysicalAddr size va ioctl = (false, s.blocks, none)

/-- All registrations of a block but the last one have guest address 0. -/
def ReplacedAtZero (s : MemState) : Prop :=
  ∀ va, ∀ r ∈ (s.registrations va).tail, r.paStart = 0

/-- The table entry of a block that was registered. -/
theorem TableSound.entry_of_registration {s : MemState} (h : TableSound s) {va : Nat}
    {r : HaxSetRamInfo} {rs : List HaxSetRamInfo} (hregs : s.registrations va = r :: rs) :
    ∃ block, (va, block) ∈ s.blocks ∧ block.guestPhysicalAddrress = r.paStart := by
  have hmem : r ∈ s.registrations va := by
    rw [hregs]
    exact List.mem_cons_self
  obtain ⟨hregistered, rfl⟩ := mem_registrations.mp hmem
  obtain ⟨⟨key, block⟩, he, rfl⟩ := h.registered r hregistered
  have hguest := (h.recorded _ he).guest
  rw [MemState.guestAddr, hregs] at hguest
  exact ⟨block, he, hguest⟩

theorem ReplacedAtZero.call {s : MemState} (h : ReplacedAtZero s) (htable : TableSound s)
    (c : MemCall) : ReplacedAtZero (s.call c) := by
  cases c with
  | populateRam hostVirtualAddr size ioctl => exact h
  | setPhysMem guestPhysicalAddr size hostVirtualAddr ioctl =>
      rw [MemState.call, haxSetPhysMem]
      cases hvalue : valueOf hostVirtualAddr s.blocks with
      | none => exact h
      | some block =>
          simp only
          split_ifs with hset hfails
          · exact h
          · exact h
          · intro va r hr
            change r ∈ (MemState.registrations { s with
              blocks := _, registered := _ :: s.registered } va).tail at hr
            rw [registrations_cons] at hr
            split_ifs at hr with hva
            · -- the table still had guest address 0, so had all registrations before
              obtain rfl : hostVirtualAddr = va := hva
              cases hregs : s.registrations hostVirtualAddr with
              | nil => simp [hregs] at hr
              | cons last earlier =>
                  obtain ⟨block', he, hguest⟩ := htable.entry_of_registration hregs
                  have hsame := htable.ordered.unique he (valueOf_eq_some hvalue) rfl
                  rw [hregs, List.tail_cons] at hr
                  cases hr with
                  | head =>
                      rw [← hguest]
                      simp only [Prod.mk.injEq, true_and] at hsame
                      rw [hsame]
                      exact not_not.mp hset
                  | tail _ hr =>
                      refine h hostVirtualAddr r ?_
                      rw [hregs]
                      exact hr
            · exact h va r hr

theorem MemRun.replacedAtZero {s : MemState} (h : MemRun s) : ReplacedAtZero s := by
  induction h with
  | start => exact fun va r hr => absurd hr List.not_mem_nil
  | call hrun _ ih => exact ih.call hrun.tableSound _

/-- A block in the table is refused exactly when its guest address there is not 0. -/
theorem refusesSet_iff {s : MemState} (hordered : Ordered s.blocks) {va : Nat}
    {block : VmMemBlock} (he : (va, block) ∈ s.blocks) :
    RefusesSet s va ↔ block.guestPhysicalAddrress ≠ 0 := by
  have hvalue : valueOf va s.blocks = some block := by
    cases hvalue : valueOf va s.blocks with
    | none => exact absurd rfl (valueOf_eq_none hvalue _ he)
    | some block' =>
        have hsame := hordered.unique (valueOf_eq_some hvalue) he rfl
        simp only [Prod.mk.injEq, true_and] at hsame
        rw [hsame]
  constructor
  · intro hrefuses hzero
    have hset := congrArg Prod.fst (hrefuses 0 0 true)
    simp [haxSetPhysMem, hvalue, hzero] at hset
  · intro hset guestPhysicalAddr size ioctl
    simp only [haxSetPhysMem, hvalue, if_pos hset]

/-- In every state reached, a block that was set refuses every further set exactly when
one of its sets gave it a guest address other than 0. -/
theorem registered_block_refused_iff (s : MemState) (h : MemRun s) (va : Nat)
    (hset : s.registrations va ≠ []) :
    RefusesSet s va ↔ ∃ r ∈ s.registrations va, r.paStart ≠ 0 := by
  obtain ⟨last, earlier, hregs⟩ := List.exists_cons_of_ne_nil hset
  obtain ⟨block, he, hguest⟩ := h.tableSound.entry_of_registration hregs
  have hearlier := h.replacedAtZero va
  rw [hregs, List.tail_cons] at hearlier
  rw [refusesSet_iff h.tableSound.ordered he, hguest, hregs]
  constructor
  · intro hlast
    exact ⟨last, List.mem_cons_self, hlast⟩
  · rintro ⟨r, hr, hne⟩
    cases hr with
    | head => exact hne
    | tail _ hr => exact absurd (hearlier r hr) hne

/-- One block of 16 pages at guest address 0, where `main` sets its block. -/
def oneBlock : MemState :=
  (MemState.call ⟨[], [], []⟩ (.populateRam 0x7f0000 0x10000 true)).call
    (.setPhysMem 0 0x10000 0x7f0000 true)

theorem oneBlock_run : MemRun oneBlock :=
  (MemRun.start.call (by decide)).call (by decide)

theorem registered_block_refused_oneBlock :
    RefusesSet oneBlock 0x7f0000 ↔ ∃ r ∈ oneBlock.registrations 0x7f0000, r.paStart ≠ 0 :=
  registered_block_refused_iff oneBlock oneBlock_run 0x7f0000 (by decide)

/-- That block is set again. -/
theorem oneBlock_set_again :
    ¬ ∀ s, MemRun s → ∀ va, s.registrations va ≠ [] → RefusesSet s va := by
  intro hall
  have hrefused := hall oneBlock oneBlock_run 0x7f0000 (by decide) 0x100000 0x10000 true
  exact absurd (congrArg Prod.fst hrefused) (by decide)

end ShellcodeVM.Haxm
