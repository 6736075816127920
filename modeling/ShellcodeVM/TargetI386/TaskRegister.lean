import ShellcodeVM.GuestOS.DescriptorDecode
import ShellcodeVM.TargetI386.GuestInterrupt

/-!
`TSS::Init` and `TSS::active` on the emulator: `ltr` of the descriptor that the guest has added
to its GDT gives the processor the stack of ring 0, and can be done once.
-/
namespace ShellcodeVM.TargetI386
open Machine GuestOS SegState

/-! ### Descriptors in two words -/

theorem getSegBase_eq (w : Nat) :
    getSegBase (w % 2 ^ 32) (w / 2 ^ 32) = UInt32.ofNat (descBase w) := by
  have hlow : (w % 2 ^ 32) >>> 16 = w / 2 ^ 16 % 2 ^ 16 := by
    rw [shiftRight_eq_div]
    omega
  have hmid : (w / 2 ^ 32) &&& 0xff = w / 2 ^ 32 % 2 ^ 8 := and_mask _ 8
  have hhigh : (w / 2 ^ 32) &&& 0xff000000 = w / 2 ^ 32 / 2 ^ 24 % 2 ^ 8 * 2 ^ 24 :=
    and_shiftedMask _ 8 24
  have hlt : w / 2 ^ 16 % 2 ^ 16 < 2 ^ 16 := Nat.mod_lt _ (Nat.two_pow_pos 16)
  rw [getSegBase, hlow, hmid, hhigh, Nat.shiftLeft_eq, or_field _ hlt, or_field _ (by omega),
    descBase]
  refine congrArg UInt32.ofNat ?_
  omega

theorem getSegLimit_eq (w : Nat) : getSegLimit (w % 2 ^ 32) (w / 2 ^ 32) = descLastOffset w := by
  have hlow : (w % 2 ^ 32) &&& 0xffff = w % 2 ^ 16 := by
    have hmask : (w % 2 ^ 32) &&& 0xffff = w % 2 ^ 32 % 2 ^ 16 := and_mask _ 16
    omega
  have hhigh : (w / 2 ^ 32) &&& 0x000f0000 = w / 2 ^ 32 / 2 ^ 16 % 2 ^ 4 * 2 ^ 16 :=
    and_shiftedMask _ 4 16
  have hlimit : ((w % 2 ^ 32) &&& 0xffff) ||| ((w / 2 ^ 32) &&& 0x000f0000) = descLimit w := by
    rw [hlow, hhigh, or_field _ (Nat.mod_lt _ (Nat.two_pow_pos 16)), descLimit]
    omega
  have hpages : (w / 2 ^ 32) &&& descGMask ≠ 0 ↔ descGranularity w = true := by
    have hmask : descGMask = 2 ^ 23 := by decide
    rw [hmask, and_ne_zero, Nat.testBit_eq_decide_div_mod_eq, descGranularity,
      decide_eq_true_iff, decide_eq_true_iff]
    omega
  have hbytes : (descLimit w <<< 12) ||| 0xfff = descLimit w * 2 ^ 12 + (2 ^ 12 - 1) := by
    rw [Nat.or_comm, Nat.shiftLeft_eq, or_field _ (by decide)]
    omega
  simp only [getSegLimit, hlimit, hpages, hbytes, descLastOffset]

/-- The upper word of a descriptor that `add_tss_entry` stores for `TSS::Init`. -/
theorem tssDesc_high (base : UInt32) : (tssDesc base.toNat 103).image / 2 ^ 32 =
    base.toNat / 2 ^ 16 % 2 ^ 8 + 0x89 * 2 ^ 8 + base.toNat / 2 ^ 24 * 2 ^ 24 := by
  have hbase := base.toNat_lt
  have hattr : (UInt8.ofNat da386Tss).toNat = 0x89 := by decide
  have hlimit : (UInt8.ofNat ((103 >>> 16) &&& 0x0F)).toNat = 0 := by decide
  have hlow := (UInt16.ofNat (103 &&& 0x0FFFF)).toNat_lt
  have hlow' := (UInt16.ofNat (base.toNat &&& 0x0FFFF)).toNat_lt
  simp only [tssDesc, SegmentDesc.image, low8_toNat, hattr, hlimit]
  rw [shiftRight_eq_div, shiftRight_eq_div]
  omega

theorem tssDesc_tests (base : UInt32) :
    (((tssDesc base.toNat 103).image / 2 ^ 32) >>> descTypeShift) &&& 0xf = 9 ∧
      ((tssDesc base.toNat 103).image / 2 ^ 32) &&& descSMask = 0 ∧
      ((tssDesc base.toNat 103).image / 2 ^ 32) &&& descPMask ≠ 0 := by
  have hbase := base.toNat_lt
  have hs : descSMask = 2 ^ 12 := by decide
  have hp : descPMask = 2 ^ 15 := by decide
  rw [tssDesc_high, hs, hp, and_ne_zero, Nat.and_two_pow, descTypeShift, shiftRight_eq_div,
    Nat.testBit_eq_decide_div_mod_eq, Nat.testBit_eq_decide_div_mod_eq]
  refine ⟨?_, ?_, decide_eq_true (by omega)⟩
  · refine (and_mask _ 4).trans ?_
    omega
  · rw [decide_eq_false (by omega)]
    rfl

/-- The descriptor of a TSS that is in use. -/
theorem busy_type {e2 : Nat} (h : (e2 >>> descTypeShift) &&& 0xf = 9) :
    ((e2 ||| descTssBusyMask) >>> descTypeShift) &&& 0xf = 11 := by
  rw [Nat.shiftRight_or_distrib, Nat.and_or_distrib_right, h]
  rfl

theorem tssDesc_base (base : UInt32) : descBase (tssDesc base.toNat 103).image = base.toNat :=
  congrArg SegmentView.base (decode_tssDesc base 103)

theorem tssDesc_lastOffset (base : UInt32) : descLastOffset (tssDesc base.toNat 103).image = 103 := by
  have hbytes : descGranularity (tssDesc base.toNat 103).image = false :=
    congrArg SegmentView.granularity (decode_tssDesc base 103)
  have hlimit : descLimit (tssDesc base.toNat 103).image = 103 :=
    congrArg SegmentView.limit (decode_tssDesc base 103)
  rw [descLastOffset, hbytes, hlimit]
  rfl

/-! ### The load of the task register -/

/-- `TSS::Init`, after `GDT::Init`. -/
def initTss (this cr3 : UInt32) : Tss × Gdt := Tss.init Gdt.zeroed.init this cr3

theorem initTss_seg (this cr3 : UInt32) : (initTss this cr3).1.mTssSeg = 56 := by
  have hfree : Gdt.zeroed.init.findFreeGdtEntry = 7 := by decide
  simp only [initTss, Tss.init, Gdt.addTssEntry, Gdt.addEntry, hfree]
  rfl

theorem initTss_gdt (this cr3 : UInt32) :
    (initTss this cr3).2 = Gdt.zeroed.init.store 7 (tssDesc this.toNat 103).image := by
  have hfree : Gdt.zeroed.init.findFreeGdtEntry = 7 := by decide
  simp only [initTss, Tss.init, Gdt.addTssEntry, Gdt.addEntry, hfree]
  rfl

/-- The tables before `TSS::active`, which lie apart. -/
structure TssInstalled (env : SegState) (idt : Idt) (this cr3 : UInt32) : Prop where
  idt : IdtLoaded env idt
  gdtLimit : env.gdt.limit = 8 * maxGdtNum - 1
  gdtSlot : ∀ i, 1 ≤ i → i ≤ gdtUserFs →
    HoldsSegment env.cpu.mem (env.gdt.base + UInt32.ofNat (i * 8)) ((initTss this cr3).2.mGdt i)
  tssSlot : HoldsGate env.cpu.mem (env.gdt.base + UInt32.ofNat 56) ((initTss this cr3).2.mGdt 7)
  words : Holds env.cpu.mem this (initTss this cr3).1.words
  idtApart : 4 ≤ (env.idt.base - (env.gdt.base + 60)).toNat ∧
    (env.idt.base - (env.gdt.base + 60)).toNat + 8 * maxIdtNum ≤ 2 ^ 32
  tssApart : 4 ≤ (this - (env.gdt.base + 60)).toNat ∧
    (this - (env.gdt.base + 60)).toNat + 104 ≤ 2 ^ 32

theorem load32_store32_beyond (m : Memory32) {a b k : UInt32} (w : UInt32)
    (h : 4 ≤ (b - a).toNat) (h' : (b - a).toNat + k.toNat + 4 ≤ 2 ^ 32) :
    load32 (store32 m a w) (b + k) = load32 m (b + k) := by
  have hsum : (b + k - a).toNat = (b - a).toNat + k.toNat := toNat_add_sub (by omega)
  exact load32_store32_apart m w (by omega) (by omega)

section
variable {env : SegState} {idt : Idt} {this cr3 : UInt32} (h : TssInstalled env idt this cr3)
include h

/-- The mark in the descriptor is the only store. -/
theorem TssInstalled.loads (w : UInt32) :
    (∀ v, v < maxIdtNum → HoldsGate (store32 env.cpu.mem (env.gdt.base + 60) w)
        (env.idt.base + UInt32.ofNat (v * 8)) (idt.mIdt v)) ∧
      (∀ i, 1 ≤ i → i ≤ gdtUserFs → HoldsSegment (store32 env.cpu.mem (env.gdt.base + 60) w)
        (env.gdt.base + UInt32.ofNat (i * 8)) (Gdt.zeroed.init.mGdt i)) ∧
      load32 (store32 env.cpu.mem (env.gdt.base + 60) w) (this + 4) =
        UInt32.ofNat kernelStackTopVirtualAddr ∧
      load32 (store32 env.cpu.mem (env.gdt.base + 60) w) (this + 8) =
        UInt32.ofNat selKernelData := by
  obtain ⟨hidt, hidtEnd⟩ := h.idtApart
  obtain ⟨htss, htssEnd⟩ := h.tssApart
  obtain ⟨hesp0, hss0⟩ := Tss.ring0_stack h.words
  refine ⟨fun v hv => ?_, fun i hi hle => ?_, ?_, ?_⟩
  · have hlow : (UInt32.ofNat (v * 8)).toNat = v * 8 := by
      rw [maxIdtNum] at hv
      rw [UInt32.toNat_ofNat']
      omega
    have hhigh : (UInt32.ofNat (v * 8) + 4).toNat = v * 8 + 4 := by
      rw [maxIdtNum] at hv
      rw [UInt32.toNat_add, hlow]
      change (v * 8 + 4) % 2 ^ 32 = _
      omega
    rw [maxIdtNum] at hv hidtEnd
    rw [HoldsGate, UInt32.add_assoc, load32_store32_beyond _ _ hidt (by omega),
      load32_store32_beyond _ _ hidt (by omega), ← UInt32.add_assoc]
    exact h.idt.slot v hv
  · have hslot := h.gdtSlot i hi hle
    have hne : i ≠ 7 := by
      rw [gdtUserFs] at hle
      omega
    rw [initTss_gdt, Gdt.store_of_ne _ _ hne] at hslot
    have haddr : ∀ i ≤ 6, 4 ≤ (UInt32.ofNat (i * 8) - 60).toNat ∧
        (UInt32.ofNat (i * 8) - 60).toNat + 4 ≤ 2 ^ 32 ∧
        4 ≤ (UInt32.ofNat (i * 8) + 4 - 60).toNat ∧
        (UInt32.ofNat (i * 8) + 4 - 60).toNat + 4 ≤ 2 ^ 32 := by decide
    obtain ⟨h1, h2, h3, h4⟩ := haddr i hle
    have hcancel : ∀ x : UInt32, env.gdt.base + x - (env.gdt.base + 60) = x - 60 := by
      intro x
      grind
    rw [← hcancel] at h1 h2 h3 h4
    rw [HoldsSegment, UInt32.add_assoc, load32_store32_apart _ _ h1 h2,
      load32_store32_apart _ _ h3 h4, ← UInt32.add_assoc]
    exact hslot
  · have hfour : (4 : UInt32).toNat = 4 := rfl
    rw [load32_store32_beyond _ _ htss (by omega)]
    exact hesp0
  · have height : (8 : UInt32).toNat = 8 := rfl
    rw [load32_store32_beyond _ _ htss (by omega)]
    exact hss0

end

/-- `ltr` of the slot, by the words that are found there. -/
theorem helperLtr_slot {env : SegState} (hlimit : env.gdt.limit = 8 * maxGdtNum - 1) {e1 e2 : Nat}
    (hdesc : env.descriptor env.gdt 56 = (e1, e2)) :
    env.helperLtr 56 = (do
      raiseIf (e2 &&& descSMask ≠ 0 ∨
        (e2 >>> descTypeShift) &&& 0xf ≠ 1 ∧ (e2 >>> descTypeShift) &&& 0xf ≠ 9)
        (.exception excp0dGpf 56)
      raiseIf (e2 &&& descPMask = 0) (.exception excp0bNoseg 56)
      return { env.setMem (store32 env.cpu.mem (env.gdt.base + 60)
          (UInt32.ofNat (e2 ||| descTssBusyMask))) with
        tr := ⟨getSegBase e1 e2, getSegLimit e1 e2, e2⟩, trSelector := 56 }) := by
  have hwithin : ¬ (56 &&& 0xfff8) + 7 > env.gdt.limit := by
    rw [hlimit]
    decide
  have hindex : 56 &&& 0xfff8 = 56 := by decide
  have hptr : env.gdt.base + UInt32.ofNat 56 + 4 = env.gdt.base + 60 := by
    rw [UInt32.add_assoc]
    rfl
  rw [helperLtr, if_neg (by decide)]
  simp only [hindex] at hwithin ⊢
  rw [raiseIf, if_neg (by decide), raiseIf, if_neg hwithin, hdesc, hptr]
  rfl

theorem helperLtr_available {env : SegState} (hlimit : env.gdt.limit = 8 * maxGdtNum - 1)
    {e1 e2 : Nat} (hdesc : env.descriptor env.gdt 56 = (e1, e2))
    (htype : (e2 >>> descTypeShift) &&& 0xf = 9) (hsystem : e2 &&& descSMask = 0)
    (hpresent : e2 &&& descPMask ≠ 0) :
    env.helperLtr 56 = .ok { env.setMem (store32 env.cpu.mem (env.gdt.base + 60)
        (UInt32.ofNat (e2 ||| descTssBusyMask))) with
      tr := ⟨getSegBase e1 e2, getSegLimit e1 e2, e2⟩, trSelector := 56 } := by
  have hkind : ¬ (e2 &&& descSMask ≠ 0 ∨
      (e2 >>> descTypeShift) &&& 0xf ≠ 1 ∧ (e2 >>> descTypeShift) &&& 0xf ≠ 9) := by
    rintro (hs | ⟨-, hnine⟩)
    · exact hs hsystem
    · exact hnine htype
  rw [helperLtr_slot hlimit hdesc, raiseIf, if_neg hkind, raiseIf, if_neg hpresent]
  rfl

theorem helperLtr_busy {env : SegState} (hlimit : env.gdt.limit = 8 * maxGdtNum - 1)
    {e1 e2 : Nat} (hdesc : env.descriptor env.gdt 56 = (e1, e2))
    (htype : (e2 >>> descTypeShift) &&& 0xf = 11) :
    env.helperLtr 56 = .error (.exception excp0dGpf 56) := by
  have hkind : e2 &&& descSMask ≠ 0 ∨
      (e2 >>> descTypeShift) &&& 0xf ≠ 1 ∧ (e2 >>> descTypeShift) &&& 0xf ≠ 9 := by
    rw [htype]
    exact .inr ⟨by decide, by decide⟩
  rw [helperLtr_slot hlimit hdesc, raiseIf, if_pos hkind]
  rfl

/-- The mark is read back. -/
theorem descriptor_marked (env : SegState) {env' : SegState} {e2 : Nat} (hword : e2 < 2 ^ 32)
    (hgdt : env'.gdt = env.gdt) (hmem : env'.cpu.mem = store32 env.cpu.mem (env.gdt.base + 60)
      (UInt32.ofNat (e2 ||| descTssBusyMask))) :
    env'.descriptor env'.gdt 56 =
      ((env'.descriptor env'.gdt 56).1, e2 ||| descTssBusyMask) := by
  have hptr : env.gdt.base + UInt32.ofNat 56 + 4 = env.gdt.base + 60 := by
    rw [UInt32.add_assoc]
    rfl
  have hlt : e2 ||| descTssBusyMask < 2 ^ 32 := Nat.or_lt_two_pow hword (by decide)
  refine Prod.ext rfl ?_
  rw [descriptor, hgdt, hmem, hptr, load32_store32_same, UInt32.toNat_ofNat', Nat.mod_eq_of_lt hlt]

/-- The task register that `TSS::active` loads gives every exception the stack of ring 0, and
a second `TSS::active` is a protection fault, since the TSS is in use. -/
theorem active_readies_exceptions {env : SegState} {idt : Idt} {this cr3 : UInt32}
    (h : TssInstalled env idt this cr3) :
    ∃ env', env.helperLtr (initTss this cr3).1.mTssSeg.toNat = .ok env' ∧
      GuestTables env' idt ∧ env'.tr.base = this ∧ env'.cpu.regs = env.cpu.regs ∧
      env'.segs = env.segs ∧ env'.cpl = env.cpl ∧
      env'.helperLtr (initTss this cr3).1.mTssSeg.toNat = .error (.exception excp0dGpf 56) := by
  have hseg : (initTss this cr3).1.mTssSeg.toNat = 56 := by
    rw [initTss_seg]
    rfl
  have hslot := h.tssSlot
  rw [initTss_gdt, Gdt.store_same] at hslot
  obtain ⟨htype, hsystem, hpresent⟩ := tssDesc_tests this
  have hbase := getSegBase_eq (tssDesc this.toNat 103).image
  have hlimit := getSegLimit_eq (tssDesc this.toNat 103).image
  rw [tssDesc_base, UInt32.ofNat_toNat] at hbase
  rw [tssDesc_lastOffset] at hlimit
  have hdesc : env.descriptor env.gdt 56 =
      ((tssDesc this.toNat 103).image % 2 ^ 32, (tssDesc this.toNat 103).image / 2 ^ 32) := by
    rw [descriptor, hslot.1, hslot.2]
  have hword : (tssDesc this.toNat 103).image / 2 ^ 32 < 2 ^ 32 :=
    hslot.2 ▸ UInt32.toNat_lt _
  generalize (tssDesc this.toNat 103).image / 2 ^ 32 = e2 at htype hsystem hpresent hbase hlimit hdesc hword
  generalize (tssDesc this.toNat 103).image % 2 ^ 32 = e1 at hbase hlimit hdesc
  have hload := helperLtr_available h.gdtLimit hdesc htype hsystem hpresent
  rw [hbase, hlimit] at hload
  obtain ⟨hidt, hgdt, hesp0, hss0⟩ := h.loads (UInt32.ofNat (e2 ||| descTssBusyMask))
  rw [hseg]
  refine ⟨_, hload, ⟨⟨h.idt.limit, hidt⟩, h.gdtLimit, hgdt, hpresent, htype, rfl, hesp0, hss0⟩,
    rfl, rfl, rfl, rfl, ?_⟩
  -- The second `ltr` reads the mark that the first one has left.
  exact helperLtr_busy h.gdtLimit (descriptor_marked env hword rfl rfl) (busy_type htype)

/-! ### A guest before `TSS::active` -/

/-- The segment of a TSS at `0xC0300000`, by slots of eight bytes. -/
def tssSlots (tss : Tss) (i : Nat) : Nat :=
  (tss.words.getD (2 * i) 0).toNat + (tss.words.getD (2 * i + 1) 0).toNat * 2 ^ 32

def installedMemory (idt : Idt) : Memory32 :=
  overlay 0xC0200000 2048 (tableMemory 0xC0200000 idt.mIdt)
    (overlay 0xC0100000 1024 (tableMemory 0xC0100000 (initTss 0xC0300000 0).2.mGdt)
      (tableMemory 0xC0300000 (tssSlots (initTss 0xC0300000 0).1)))

/-- The kernel, with its tables in memory and the task register still empty. -/
def installed (idt : Idt) : SegState where
  cpu := ⟨⟨0, 0, 0, 0, 0xC07FE000, 0, 0, 0, 0xC0010000, 0x2, 0x08, 0x10, 0x10, 0x10, 0x10, 0x10⟩,
    installedMemory idt⟩
  cpl := 0
  segs seg := if seg = .cs then ⟨0, 0xffffffff, 0xCF9A00⟩ else ⟨0, 0xffffffff, 0xCF9200⟩
  gdt := ⟨0xC0100000, 8 * maxGdtNum - 1, 0⟩
  ldt := ⟨0, 0, 0⟩
  idt := ⟨0xC0200000, 8 * maxIdtNum - 1, 0⟩
  tr := ⟨0, 0, 0⟩
  trSelector := 0

theorem installed_words (idt : Idt) :
    Holds (installedMemory idt) 0xC0300000 (initTss 0xC0300000 0).1.words := by
  have htable : ∀ i (h : i < (initTss 0xC0300000 0).1.words.length),
      load32 (tableMemory 0xC0300000 (tssSlots (initTss 0xC0300000 0).1))
        (0xC0300000 + UInt32.ofNat (4 * i)) = (initTss 0xC0300000 0).1.words[i] := by
    decide +kernel
  have haddr : ∀ i < 26,
      2048 ≤ (0xC0300000 + UInt32.ofNat (4 * i) - 0xC0200000).toNat ∧
      (0xC0300000 + UInt32.ofNat (4 * i) - 0xC0200000).toNat + 4 ≤ 2 ^ 32 ∧
      1024 ≤ (0xC0300000 + UInt32.ofNat (4 * i) - 0xC0100000).toNat ∧
      (0xC0300000 + UInt32.ofNat (4 * i) - 0xC0100000).toNat + 4 ≤ 2 ^ 32 := by
    decide +kernel
  refine (holds_iff _ _ _).mpr fun i hi => ?_
  obtain ⟨h1, h2, h3, h4⟩ := haddr i hi
  rw [installedMemory, load32_overlay_outside _ _ h1 h2, load32_overlay_outside _ _ h3 h4]
  exact htable i hi

theorem tssInstalled_installed (irqDefaultEntry : UInt32) (address : Nat → UInt32) :
    TssInstalled (installed (guestIdt irqDefaultEntry address)) (guestIdt irqDefaultEntry address)
      0xC0300000 0 := by
  have hslot : ∀ i ≤ 7, (initTss 0xC0300000 0).2.mGdt i < 2 ^ 64 := by decide
  have hheld : ∀ i ≤ 7, HoldsGate (installedMemory (guestIdt irqDefaultEntry address))
      (0xC0100000 + UInt32.ofNat (i * 8)) ((initTss 0xC0300000 0).2.mGdt i) := fun i hle =>
    gdtOverlay_holds _ _ _ hle (hslot i hle)
  have hseven : HoldsGate (installedMemory (guestIdt irqDefaultEntry address))
      (0xC0100000 + UInt32.ofNat 56) ((initTss 0xC0300000 0).2.mGdt 7) := hheld 7 (le_refl 7)
  have hidt : 4 ≤ (0xC0200000 - (0xC0100000 + 60) : UInt32).toNat ∧
      (0xC0200000 - (0xC0100000 + 60) : UInt32).toNat + 8 * maxIdtNum ≤ 2 ^ 32 := by decide
  have htss : 4 ≤ (0xC0300000 - (0xC0100000 + 60) : UInt32).toNat ∧
      (0xC0300000 - (0xC0100000 + 60) : UInt32).toNat + 104 ≤ 2 ^ 32 := by decide
  refine ⟨⟨rfl, fun v hv => idtOverlay_holds _ _ hv ?_⟩, rfl, fun i _ hle => ?_, hseven,
    installed_words _, hidt, htss⟩
  · rw [guestIdt_eq]
    exact runGateCalls_slot_lt irqDefaultEntry _ hv
  · obtain ⟨hlow, hhigh⟩ := hheld i (Nat.le_succ_of_le hle)
    exact ⟨hlow, .inl hhigh⟩

theorem active_readies_exceptions_spaced :
    ∃ env', (installed spacedIdt).helperLtr (initTss 0xC0300000 0).1.mTssSeg.toNat = .ok env' ∧
      GuestTables env' spacedIdt ∧ env'.tr.base = 0xC0300000 ∧
      env'.cpu.regs = (installed spacedIdt).cpu.regs ∧ env'.segs = (installed spacedIdt).segs ∧
      env'.cpl = (installed spacedIdt).cpl ∧
      env'.helperLtr (initTss 0xC0300000 0).1.mTssSeg.toNat =
        .error (.exception excp0dGpf 56) :=
  active_readies_exceptions (tssInstalled_installed _ _)

end ShellcodeVM.TargetI386
