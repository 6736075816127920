import ShellcodeVM.Haxm.MemBlocks

/-!
The translations of a `HAXM_VM` over runs of `hax_populate_ram` and
`hax_set_phys_mem`. The table keeps the last guest address of every block with the
size that it was populated with. So the two translations are inverse to each other,
but they agree with what the driver was told only when every block was registered
once and as a whole.
-/
namespace ShellcodeVM.Haxm
open Machine

inductive MemCall where
  | populateRam (hostVirtualAddr size : Nat) (ioctl : Bool)
  | setPhysMem (guestPhysicalAddr : Nat) (size : Int) (hostVirtualAddr : Nat) (ioctl : Bool)
deriving DecidableEq, Repr

/-- The arguments are values of their types. -/
def MemCall.Typed : MemCall → Prop
  | .populateRam hostVirtualAddr size _ => hostVirtualAddr < 2 ^ 64 ∧ size < 2 ^ 32
  | .setPhysMem guestPhysicalAddr size hostVirtualAddr _ =>
      guestPhysicalAddr < 2 ^ 64 ∧ -2 ^ 31 ≤ size ∧ size < 2 ^ 31 ∧ hostVirtualAddr < 2 ^ 64

instance (c : MemCall) : Decidable c.Typed :=
  match c with
  | .populateRam _ _ _ => inferInstanceAs (Decidable (_ ∧ _))
  | .setPhysMem _ _ _ _ => inferInstanceAs (Decidable (_ ∧ _ ∧ _ ∧ _))

/-- The table, and the successful requests to the driver, the last one first. -/
structure MemState where
  blocks : MemBlocks
  populated : List HaxAllocRamInfo
  registered : List HaxSetRamInfo
deriving DecidableEq, Repr

def MemState.call (s : MemState) : MemCall → MemState
  | .populateRam hostVirtualAddr size ioctl =>
      let (_, blocks, info) := haxPopulateRam s.blocks hostVirtualAddr size ioctl
      { s with blocks := blocks, populated := info.toList ++ s.populated }
  | .setPhysMem guestPhysicalAddr size hostVirtualAddr ioctl =>
      let (_, blocks, info) := haxSetPhysMem s.blocks guestPhysicalAddr size hostVirtualAddr ioctl
      { s with blocks := blocks, registered := info.toList ++ s.registered }

inductive MemRun : MemState → Prop where
  | start : MemRun ⟨[], [], []⟩
  | call {s : MemState} {c : MemCall} (h : MemRun s) (htyped : c.Typed) : MemRun (s.call c)

/-- The registrations of a block, the last one first. -/
def MemState.registrations (s : MemState) (va : Nat) : List HaxSetRamInfo :=
  s.registered.filter fun r => r.va = va

/-- The guest address that a block was given last. -/
def MemState.guestAddr (s : MemState) (va : Nat) : Option Nat :=
  (s.registrations va).head?.map HaxSetRamInfo.paStart

/-! What the table records. -/

/-- Each entry records the size of its population and the guest address given last, or 0. -/
structure Recorded (s : MemState) (e : Nat × VmMemBlock) : Prop where
  host : e.2.hostVirtualAddress = e.1
  size : ⟨e.2.size, e.1⟩ ∈ s.populated
  guest : e.2.guestPhysicalAddrress = (s.guestAddr e.1).getD 0

structure TableSound (s : MemState) : Prop where
  ordered : Ordered s.blocks
  recorded : ∀ e ∈ s.blocks, Recorded s e
  populated : ∀ p ∈ s.populated, ∃ e ∈ s.blocks, e.1 = p.va ∧ e.2.size = p.size
  registered : ∀ r ∈ s.registered, ∃ e ∈ s.blocks, e.1 = r.va

theorem tableSound_start : TableSound ⟨[], [], []⟩ where
  ordered := ordered_nil
  recorded _ he := absurd he List.not_mem_nil
  populated _ hp := absurd hp List.not_mem_nil
  registered _ hr := absurd hr List.not_mem_nil

/-- A block that is not in the table has no registration. -/
theorem TableSound.registrations_eq_nil {s : MemState} (h : TableSound s) {va : Nat}
    (habsent : ∀ e ∈ s.blocks, e.1 ≠ va) : s.registrations va = [] := by
  rw [MemState.registrations, List.filter_eq_nil_iff]
  intro r hr hva
  obtain ⟨e, he, hkey⟩ := h.registered r hr
  exact habsent e he (hkey.trans (of_decide_eq_true hva))

theorem TableSound.populate {s : MemState} (h : TableSound s) {va : Nat}
    (habsent : ∀ e ∈ s.blocks, e.1 ≠ va) (size : Nat) :
    TableSound { s with
      blocks := assign va ⟨va, 0, size⟩ s.blocks, populated := ⟨size, va⟩ :: s.populated } := by
  have hmem : ∀ e, e ∈ assign va ⟨va, 0, size⟩ s.blocks ↔ e = (va, ⟨va, 0, size⟩) ∨ e ∈ s.blocks :=
    fun e => (mem_assign h.ordered).trans
      (or_congr_right ⟨fun he => he.1, fun he => ⟨he, habsent e he⟩⟩)
  refine ⟨h.ordered.assign _ _, ?_, ?_, ?_⟩
  · intro e he
    rcases (hmem e).mp he with rfl | hold
    · refine ⟨rfl, List.mem_cons_self .., ?_⟩
      have hnone := h.registrations_eq_nil habsent
      change 0 = ((s.registrations va).head?.map HaxSetRamInfo.paStart).getD 0
      rw [hnone]
      rfl
    · have hrec := h.recorded e hold
      exact ⟨hrec.host, List.mem_cons_of_mem _ hrec.size, hrec.guest⟩
  · intro p hp
    cases hp with
    | head => exact ⟨_, (hmem _).mpr (.inl rfl), rfl, rfl⟩
    | tail _ hp =>
        obtain ⟨e, he, hkey⟩ := h.populated p hp
        exact ⟨e, (hmem e).mpr (.inr he), hkey⟩
  · intro r hr
    obtain ⟨e, he, hkey⟩ := h.registered r hr
    exact ⟨e, (hmem e).mpr (.inr he), hkey⟩

theorem registrations_cons (s : MemState) (blocks : MemBlocks) (r : HaxSetRamInfo) (va : Nat) :
    MemState.registrations { s with blocks := blocks, registered := r :: s.registered } va =
      if r.va = va then r :: s.registrations va else s.registrations va := by
  rw [MemState.registrations, List.filter_cons]
  simp only [decide_eq_true_eq]
  rfl

theorem TableSound.register {s : MemState} (h : TableSound s) {va : Nat} {block : VmMemBlock}
    (hblock : (va, block) ∈ s.blocks) (r : HaxSetRamInfo) (hva : r.va = va) :
    TableSound { s with
      blocks := assign va { block with guestPhysicalAddrress := r.paStart } s.blocks,
      registered := r :: s.registered } := by
  have hmem := fun e => mem_assign (e := e) (k := va) h.ordered
    (v := { block with guestPhysicalAddrress := r.paStart })
  have hold := h.recorded _ hblock
  -- an entry of the old table stands in the new one, with the same key and size
  have hentry : ∀ e ∈ s.blocks, ∃ e' ∈ assign va
      { block with guestPhysicalAddrress := r.paStart } s.blocks,
      e'.1 = e.1 ∧ e'.2.size = e.2.size := by
    intro e he
    by_cases hkey : e.1 = va
    · have hsame := h.ordered.unique he hblock hkey
      rw [hsame]
      exact ⟨_, (hmem _).mpr (.inl rfl), rfl, rfl⟩
    · exact ⟨e, (hmem e).mpr (.inr ⟨he, hkey⟩), rfl, rfl⟩
  refine ⟨h.ordered.assign _ _, ?_, ?_, ?_⟩
  · intro e he
    rcases (hmem e).mp he with rfl | ⟨hmem', hkey⟩
    · refine ⟨hold.host, hold.size, ?_⟩
      rw [MemState.guestAddr, registrations_cons, if_pos hva]
      rfl
    · have hrec := h.recorded e hmem'
      refine ⟨hrec.host, hrec.size, ?_⟩
      rw [MemState.guestAddr, registrations_cons, if_neg (hva ▸ Ne.symm hkey)]
      exact hrec.guest
  · intro p hp
    obtain ⟨e, he, hkey, hsize⟩ := h.populated p hp
    obtain ⟨e', he', hkey', hsize'⟩ := hentry e he
    exact ⟨e', he', hkey'.trans hkey, hsize'.trans hsize⟩
  · intro r' hr'
    cases hr' with
    | head => exact ⟨_, (hmem _).mpr (.inl rfl), hva.symm⟩
    | tail _ hr' =>
        obtain ⟨e, he, hkey⟩ := h.registered r' hr'
        obtain ⟨e', he', hkey', -⟩ := hentry e he
        exact ⟨e', he', hkey'.trans hkey⟩

theorem TableSound.call {s : MemState} (h : TableSound s) (c : MemCall) :
    TableSound (s.call c) := by
  cases c with
  | populateRam hostVirtualAddr size ioctl =>
      rw [MemState.call, haxPopulateRam]
      cases hvalue : valueOf hostVirtualAddr s.blocks with
      | some _ => exact h
      | none =>
          cases ioctl with
          | false => exact h
          | true => exact h.populate (valueOf_eq_none hvalue) size
  | setPhysMem guestPhysicalAddr size hostVirtualAddr ioctl =>
      rw [MemState.call, haxSetPhysMem]
      cases hvalue : valueOf hostVirtualAddr s.blocks with
      | none => exact h
      | some block =>
          simp only
          split_ifs with hset hfails
          · exact h
          · exact h
          · exact h.register (valueOf_eq_some hvalue)
              ⟨guestPhysicalAddr, (size % 2 ^ 32).toNat, hostVirtualAddr⟩ rfl

theorem MemRun.tableSound {s : MemState} (h : MemRun s) : TableSound s := by
  induction h with
  | start => exact tableSound_start
  | call _ _ ih => exact ih.call _

/-! What a scan returns. -/

/-- A block covers an address on one of its two sides. -/
def VmMemBlock.Covers (source : VmMemBlock → Nat) (block : VmMemBlock) (addr : Nat) : Prop :=
  source block ≤ addr ∧ addr < source block + block.size

/-- On one side no block that has bytes wraps around, and no two blocks share a byte. -/
structure SideApart (source : VmMemBlock → Nat) (blocks : MemBlocks) : Prop where
  noWrap : ∀ e ∈ blocks, e.2.size ≠ 0 → source e.2 + e.2.size < 2 ^ 64
  apart : ∀ e ∈ blocks, ∀ e' ∈ blocks, ∀ addr,
    e.2.Covers source addr → e'.2.Covers source addr → e = e'

section Scan

variable {source target : VmMemBlock → Nat}

theorem covers_iff {block : VmMemBlock} (h : block.size ≠ 0 → source block + block.size < 2 ^ 64)
    (addr : Nat) :
    source block ≤ addr ∧ addr < (source block + block.size) % 2 ^ 64 ↔
      block.Covers source addr := by
  rw [VmMemBlock.Covers]
  by_cases hsize : block.size = 0
  · have hend := Nat.mod_le (source block + block.size) (2 ^ 64)
    omega
  · rw [Nat.mod_eq_of_lt (h hsize)]

theorem SideApart.tail {first : Nat × VmMemBlock} {blocks : MemBlocks}
    (h : SideApart source (first :: blocks)) : SideApart source blocks where
  noWrap e he := h.noWrap e (List.mem_cons_of_mem _ he)
  apart e he e' he' := h.apart e (List.mem_cons_of_mem _ he) e' (List.mem_cons_of_mem _ he')

/-- The scan stops at the block that covers the address. -/
theorem SideApart.translate_inside {blocks : MemBlocks} (h : SideApart source blocks)
    {e : Nat × VmMemBlock} (he : e ∈ blocks) {addr : Nat} (hcovers : e.2.Covers source addr) :
    translate source target blocks addr = (target e.2 + (addr - source e.2)) % 2 ^ 64 := by
  induction blocks with
  | nil => cases he
  | cons first blocks ih =>
      have hmem := List.mem_cons_self (a := first) (l := blocks)
      have hiff := covers_iff (h.noWrap first hmem) addr
      rw [translate]
      by_cases hfirst : first.2.Covers source addr
      · rw [if_pos (hiff.mpr hfirst), h.apart e he first hmem addr hcovers hfirst]
      · rw [if_neg fun hin => hfirst (hiff.mp hin)]
        cases he with
        | head => exact absurd hcovers hfirst
        | tail _ he => exact ih h.tail he

theorem SideApart.translate_outside {blocks : MemBlocks} (h : SideApart source blocks) {addr : Nat}
    (hnone : ∀ e ∈ blocks, ¬ e.2.Covers source addr) : translate source target blocks addr = 0 := by
  induction blocks with
  | nil => rfl
  | cons first blocks ih =>
      have hmem := List.mem_cons_self (a := first) (l := blocks)
      have hiff := covers_iff (h.noWrap first hmem) addr
      rw [translate, if_neg fun hin => hnone first hmem (hiff.mp hin)]
      exact ih h.tail fun e he => hnone e (List.mem_cons_of_mem _ he)

end Scan

/-! The two translations are inverse to each other. -/

/-- The populated blocks are apart on the host, each of them was given a guest range,
and these are apart too. -/
structure Placed (s : MemState) : Prop where
  given : ∀ p ∈ s.populated, ∃ guest, s.guestAddr p.va = some guest
  hostNonzero : ∀ p ∈ s.populated, p.va ≠ 0
  hostNoWrap : ∀ p ∈ s.populated, p.va + p.size < 2 ^ 64
  hostApart : ∀ p ∈ s.populated, ∀ q ∈ s.populated, p ≠ q → ∀ h,
    p.va ≤ h ∧ h < p.va + p.size → ¬ (q.va ≤ h ∧ h < q.va + q.size)
  guestNoWrap : ∀ p ∈ s.populated, ∀ guest, s.guestAddr p.va = some guest →
    guest + p.size < 2 ^ 64
  guestApart : ∀ p ∈ s.populated, ∀ q ∈ s.populated, p ≠ q → ∀ guest guest',
    s.guestAddr p.va = some guest → s.guestAddr q.va = some guest' → ∀ g,
      guest ≤ g ∧ g < guest + p.size → ¬ (guest' ≤ g ∧ g < guest' + q.size)

/-- The entry of a populated block that was given a guest address. -/
theorem TableSound.entry {s : MemState} (h : TableSound s) {p : HaxAllocRamInfo}
    (hp : p ∈ s.populated) {guest : Nat} (hguest : s.guestAddr p.va = some guest) :
    ∃ e ∈ s.blocks, e.1 = p.va ∧ e.2 = ⟨p.va, guest, p.size⟩ := by
  obtain ⟨⟨key, block⟩, he, hkey, hsize⟩ := h.populated p hp
  have hrec := h.recorded _ he
  refine ⟨_, he, hkey, ?_⟩
  have hhost : block.hostVirtualAddress = p.va := hrec.host.trans hkey
  have hpa : block.guestPhysicalAddrress = guest := by
    have hgiven := hrec.guest
    rw [hkey, hguest] at hgiven
    exact hgiven
  rw [← hhost, ← hpa, ← hsize]

/-- The population and the guest address that an entry stands for. -/
theorem TableSound.placed {s : MemState} (h : TableSound s) (hplaced : Placed s)
    {e : Nat × VmMemBlock} (he : e ∈ s.blocks) : ∃ p ∈ s.populated, ∃ guest,
      s.guestAddr p.va = some guest ∧ e.1 = p.va ∧ e.2 = ⟨p.va, guest, p.size⟩ := by
  have hrec := h.recorded e he
  obtain ⟨guest, hguest⟩ := hplaced.given _ hrec.size
  obtain ⟨e', he', hkey, hblock⟩ := h.entry hrec.size hguest
  have hsame := h.ordered.unique he' he hkey
  exact ⟨_, hrec.size, guest, hguest, rfl, hsame ▸ hblock⟩

section Placed

variable {s : MemState} (h : TableSound s) (hplaced : Placed s)
include h hplaced

theorem Placed.guestSide : SideApart VmMemBlock.guestPhysicalAddrress s.blocks where
  noWrap := by
    intro e he _
    obtain ⟨p, hp, guest, hguest, -, hblock⟩ := h.placed hplaced he
    rw [hblock]
    exact hplaced.guestNoWrap p hp guest hguest
  apart := by
    intro e he e' he' g hcovers hcovers'
    obtain ⟨p, hp, guest, hguest, hkey, hblock⟩ := h.placed hplaced he
    obtain ⟨q, hq, guest', hguest', hkey', hblock'⟩ := h.placed hplaced he'
    rw [hblock] at hcovers
    rw [hblock'] at hcovers'
    by_cases hpq : p = q
    · exact h.ordered.unique he he' (by rw [hkey, hkey', hpq])
    · exact absurd hcovers'
        (hplaced.guestApart p hp q hq hpq guest guest' hguest hguest' g hcovers)

theorem Placed.hostSide : SideApart VmMemBlock.hostVirtualAddress s.blocks where
  noWrap := by
    intro e he _
    obtain ⟨p, hp, guest, -, -, hblock⟩ := h.placed hplaced he
    rw [hblock]
    exact hplaced.hostNoWrap p hp
  apart := by
    intro e he e' he' a hcovers hcovers'
    obtain ⟨p, hp, guest, -, hkey, hblock⟩ := h.placed hplaced he
    obtain ⟨q, hq, guest', -, hkey', hblock'⟩ := h.placed hplaced he'
    rw [hblock] at hcovers
    rw [hblock'] at hcovers'
    by_cases hpq : p = q
    · exact h.ordered.unique he he' (by rw [hkey, hkey', hpq])
    · exact absurd hcovers' (hplaced.hostApart p hp q hq hpq a hcovers)

/-- What the translations return inside the ranges of a block. -/
theorem Placed.inside {p : HaxAllocRamInfo} (hp : p ∈ s.populated) {guest : Nat}
    (hguest : s.guestAddr p.va = some guest) {offset : Nat} (hoffset : offset < p.size) :
    gpaToHva s.blocks (guest + offset) = p.va + offset ∧
      hvaToGpa s.blocks (p.va + offset) = guest + offset := by
  obtain ⟨e, he, -, hblock⟩ := h.entry hp hguest
  have hhost := hplaced.hostNoWrap p hp
  have hwrap := hplaced.guestNoWrap p hp guest hguest
  have hin : ∀ base, base ≤ base + offset ∧ base + offset < base + p.size :=
    fun base => ⟨Nat.le_add_right _ _, Nat.add_lt_add_left hoffset base⟩
  refine ⟨?_, ?_⟩
  · rw [gpaToHva, (hplaced.guestSide h).translate_inside he (by rw [hblock]; exact hin guest), hblock]
    dsimp only
    rw [Nat.add_sub_cancel_left, Nat.mod_eq_of_lt (by omega)]
  · rw [hvaToGpa, (hplaced.hostSide h).translate_inside he (by rw [hblock]; exact hin p.va), hblock]
    dsimp only
    rw [Nat.add_sub_cancel_left, Nat.mod_eq_of_lt (by omega)]

end Placed

/-- In every state reached with blocks that are apart on both sides, the translations are
inverse to each other inside the blocks, and 0 outside. -/
theorem translations_inverse {s : MemState} (h : MemRun s) (hplaced : Placed s) :
    (∀ p ∈ s.populated, ∀ guest, s.guestAddr p.va = some guest → ∀ g,
      guest ≤ g → g < guest + p.size → hvaToGpa s.blocks (gpaToHva s.blocks g) = g) ∧
    (∀ p ∈ s.populated, ∀ a, p.va ≤ a → a < p.va + p.size →
      gpaToHva s.blocks (hvaToGpa s.blocks a) = a) ∧
    (∀ g, (∀ p ∈ s.populated, ∀ guest, s.guestAddr p.va = some guest →
      ¬ (guest ≤ g ∧ g < guest + p.size)) → gpaToHva s.blocks g = 0) ∧
    (∀ a, (∀ p ∈ s.populated, ¬ (p.va ≤ a ∧ a < p.va + p.size)) → hvaToGpa s.blocks a = 0) := by
  have htable := h.tableSound
  refine ⟨?_, ?_, ?_, ?_⟩
  · intro p hp guest hguest g hle hlt
    obtain ⟨offset, rfl⟩ := Nat.exists_eq_add_of_le hle
    obtain ⟨hto, hback⟩ := hplaced.inside htable hp hguest (Nat.lt_of_add_lt_add_left hlt)
    rw [hto, hback]
  · intro p hp a hle hlt
    obtain ⟨guest, hguest⟩ := hplaced.given p hp
    obtain ⟨offset, rfl⟩ := Nat.exists_eq_add_of_le hle
    obtain ⟨hto, hback⟩ := hplaced.inside htable hp hguest (Nat.lt_of_add_lt_add_left hlt)
    rw [hback, hto]
  · intro g hnone
    refine (hplaced.guestSide htable).translate_outside ?_
    intro e he hcovers
    obtain ⟨p, hp, guest, hguest, -, hblock⟩ := htable.placed hplaced he
    rw [hblock] at hcovers
    exact hnone p hp guest hguest hcovers
  · intro a hnone
    refine (hplaced.hostSide htable).translate_outside ?_
    intro e he hcovers
    obtain ⟨p, hp, guest, -, -, hblock⟩ := htable.placed hplaced he
    rw [hblock] at hcovers
    exact hnone p hp hcovers

/-- Two blocks, the first behind the second in the guest. -/
def twoBlocks : MemState :=
  (((MemState.call ⟨[], [], []⟩ (.populateRam 0x7f0000 0x10000 true)).call
    (.populateRam 0x900000 0x20000 true)).call (.setPhysMem 0x100000 0x10000 0x7f0000 true)).call
      (.setPhysMem 0 0x20000 0x900000 true)

theorem twoBlocks_run : MemRun twoBlocks :=
  (((MemRun.start.call (by decide)).call (by decide)).call (by decide)).call (by decide)

theorem twoBlocks_placed : Placed twoBlocks := by
  have hmem : ∀ p ∈ twoBlocks.populated, p = ⟨0x20000, 0x900000⟩ ∨ p = ⟨0x10000, 0x7f0000⟩ := by
    intro p hp
    simpa using (show p ∈ [HaxAllocRamInfo.mk 0x20000 0x900000, ⟨0x10000, 0x7f0000⟩] from hp)
  have hfirst : ∀ guest, twoBlocks.guestAddr 0x7f0000 = some guest → guest = 0x100000 :=
    fun _ h => (Option.some.inj h).symm
  have hsecond : ∀ guest, twoBlocks.guestAddr 0x900000 = some guest → guest = 0 :=
    fun _ h => (Option.some.inj h).symm
  refine ⟨?_, ?_, ?_, ?_, ?_, ?_⟩
  · intro p hp
    rcases hmem p hp with rfl | rfl
    · exact ⟨0, rfl⟩
    · exact ⟨0x100000, rfl⟩
  · intro p hp
    rcases hmem p hp with rfl | rfl <;> decide
  · intro p hp
    rcases hmem p hp with rfl | rfl <;> decide
  · intro p hp q hq hne a
    rcases hmem p hp with rfl | rfl <;> rcases hmem q hq with rfl | rfl
    · exact absurd rfl hne
    · dsimp only
      omega
    · dsimp only
      omega
    · exact absurd rfl hne
  · intro p hp guest hguest
    rcases hmem p hp with rfl | rfl
    · rw [hsecond guest hguest]
      decide
    · rw [hfirst guest hguest]
      decide
  · intro p hp q hq hne guest guest' hguest hguest' g
    rcases hmem p hp with rfl | rfl <;> rcases hmem q hq with rfl | rfl
    · exact absurd rfl hne
    · rw [hsecond guest hguest, hfirst guest' hguest']
      dsimp only
      omega
    · rw [hfirst guest hguest, hsecond guest' hguest']
      dsimp only
      omega
    · exact absurd rfl hne

theorem translations_inverse_twoBlocks :
    hvaToGpa twoBlocks.blocks (gpaToHva twoBlocks.blocks 0x101234) = 0x101234 ∧
      hvaToGpa twoBlocks.blocks (gpaToHva twoBlocks.blocks 0x1234) = 0x1234 ∧
      gpaToHva twoBlocks.blocks (hvaToGpa twoBlocks.blocks 0x7f1234) = 0x7f1234 ∧
      gpaToHva twoBlocks.blocks (hvaToGpa twoBlocks.blocks 0x901234) = 0x901234 := by
  have hfirst : HaxAllocRamInfo.mk 0x10000 0x7f0000 ∈ twoBlocks.populated := by decide
  have hsecond : HaxAllocRamInfo.mk 0x20000 0x900000 ∈ twoBlocks.populated := by decide
  obtain ⟨hguests, hhosts, -⟩ := translations_inverse twoBlocks_run twoBlocks_placed
  exact ⟨hguests _ hfirst 0x100000 rfl _ (by decide) (by decide),
    hguests _ hsecond 0 rfl _ (by decide) (by decide),
    hhosts _ hfirst _ (by decide) (by decide), hhosts _ hsecond _ (by decide) (by decide)⟩

/-! The translation and what the driver was told. -/

def HaxSetRamInfo.Has (r : HaxSetRamInfo) (g : Nat) : Prop :=
  r.paStart ≤ g ∧ g < r.paStart + r.size

def HaxSetRamInfo.Apart (r r' : HaxSetRamInfo) : Prop :=
  ∀ g, r.Has g → ¬ r'.Has g

instance : Std.Symm HaxSetRamInfo.Apart :=
  ⟨fun _ _ h g hr' hr => h g hr hr'⟩

/-- The registered guest ranges do not wrap and no two of them share a byte. -/
structure RegisteredApart (s : MemState) : Prop where
  noWrap : ∀ r ∈ s.registered, r.paStart + r.size < 2 ^ 64
  apart : s.registered.Pairwise HaxSetRamInfo.Apart

/-- A guest address is translated as the driver was told, and to 0 when it was told nothing. -/
def AgreesWithDriver (s : MemState) : Prop :=
  ∀ g, (∀ r ∈ s.registered, r.Has g →
      gpaToHva s.blocks g = (r.va + (g - r.paStart)) % 2 ^ 64) ∧
    ((∀ r ∈ s.registered, ¬ r.Has g) → gpaToHva s.blocks g = 0)

/-- Every block was registered once, with the size that it was populated with; an empty
block was not registered with any byte. -/
def RegisteredOnce (s : MemState) : Prop :=
  ∀ p ∈ s.populated,
    (p.size ≠ 0 → ∃ guest, s.registrations p.va = [⟨guest, p.size, p.va⟩]) ∧
      (p.size = 0 → ∀ r ∈ s.registrations p.va, r.size = 0)

theorem mem_registrations {s : MemState} {va : Nat} {r : HaxSetRamInfo} :
    r ∈ s.registrations va ↔ r ∈ s.registered ∧ r.va = va := by
  rw [MemState.registrations, List.mem_filter, decide_eq_true_eq]

section RegisteredOnce

variable {s : MemState} (h : TableSound s) (honce : RegisteredOnce s)
include h honce

/-- An entry with bytes stands for its only registration. -/
theorem RegisteredOnce.registration {e : Nat × VmMemBlock} (he : e ∈ s.blocks)
    (hsize : e.2.size ≠ 0) :
    s.registrations e.1 = [⟨e.2.guestPhysicalAddrress, e.2.size, e.2.hostVirtualAddress⟩] := by
  have hrec := h.recorded e he
  obtain ⟨guest, honly⟩ := (honce _ hrec.size).1 hsize
  have hguest := hrec.guest
  rw [MemState.guestAddr, honly] at hguest
  rw [honly, hguest, hrec.host]
  rfl

theorem RegisteredOnce.mem_registered {e : Nat × VmMemBlock} (he : e ∈ s.blocks)
    (hsize : e.2.size ≠ 0) :
    ⟨e.2.guestPhysicalAddrress, e.2.size, e.2.hostVirtualAddress⟩ ∈ s.registered := by
  refine ((@mem_registrations s e.1 _).mp ?_).1
  rw [honce.registration h he hsize]
  exact List.mem_singleton.mpr rfl

/-- A registered byte belongs to the entry of its block. -/
theorem RegisteredOnce.entry {r : HaxSetRamInfo} (hr : r ∈ s.registered) {g : Nat} (hg : r.Has g) :
    ∃ e ∈ s.blocks, r = ⟨e.2.guestPhysicalAddrress, e.2.size, e.2.hostVirtualAddress⟩ := by
  obtain ⟨e, he, hkey⟩ := h.registered r hr
  have hmem : r ∈ s.registrations e.1 := mem_registrations.mpr ⟨hr, hkey.symm⟩
  by_cases hsize : e.2.size = 0
  · have hempty := (honce _ (h.recorded e he).size).2 hsize r hmem
    have hbyte := hg
    rw [HaxSetRamInfo.Has, hempty] at hbyte
    omega
  · rw [honce.registration h he hsize] at hmem
    exact ⟨e, he, List.mem_singleton.mp hmem⟩

theorem RegisteredOnce.side (hapart : RegisteredApart s) :
    SideApart VmMemBlock.guestPhysicalAddrress s.blocks := by
  refine ⟨fun e he hsize => hapart.noWrap _ (honce.mem_registered h he hsize), ?_⟩
  intro e he e' he' g hcovers hcovers'
  have hbytes : ∀ block : VmMemBlock, block.Covers VmMemBlock.guestPhysicalAddrress g →
      block.size ≠ 0 := by
    rintro block ⟨hle, hlt⟩ hzero
    omega
  have hr := honce.mem_registered h he (hbytes e.2 hcovers)
  have hr' := honce.mem_registered h he' (hbytes e'.2 hcovers')
  -- two registrations that share a byte are one, and so their blocks are one
  have hsame : (⟨e.2.guestPhysicalAddrress, e.2.size, e.2.hostVirtualAddress⟩ : HaxSetRamInfo) =
      ⟨e'.2.guestPhysicalAddrress, e'.2.size, e'.2.hostVirtualAddress⟩ := by
    by_contra hne
    exact hapart.apart.forall hr hr' hne g hcovers hcovers'
  have hkey : e.1 = e'.1 := by
    rw [← (h.recorded e he).host, ← (h.recorded e' he').host]
    exact congrArg HaxSetRamInfo.va hsame
  exact h.ordered.unique he he' hkey

end RegisteredOnce

/-- In every run in which each block was registered once and as a whole, the translation
agrees with what the driver was told. -/
theorem gpaToHva_agrees {s : MemState} (h : MemRun s) (hapart : RegisteredApart s)
    (honce : RegisteredOnce s) : AgreesWithDriver s := by
  have htable := h.tableSound
  have hside := honce.side htable hapart
  intro g
  refine ⟨?_, ?_⟩
  · intro r hr hg
    obtain ⟨e, he, rfl⟩ := honce.entry htable hr hg
    exact hside.translate_inside he hg
  · intro hnone
    refine hside.translate_outside ?_
    intro e he hcovers
    have hsize : e.2.size ≠ 0 := by
      rintro hzero
      have hbyte := hcovers
      rw [VmMemBlock.Covers, hzero] at hbyte
      omega
    exact hnone _ (honce.mem_registered htable he hsize) hcovers

theorem gpaToHva_agrees_twoBlocks : AgreesWithDriver twoBlocks := by
  have hmem : ∀ r ∈ twoBlocks.registered,
      r = ⟨0, 0x20000, 0x900000⟩ ∨ r = ⟨0x100000, 0x10000, 0x7f0000⟩ := by
    intro r hr
    simpa using (show r ∈ [HaxSetRamInfo.mk 0 0x20000 0x900000, ⟨0x100000, 0x10000, 0x7f0000⟩]
      from hr)
  refine gpaToHva_agrees twoBlocks_run ⟨?_, ?_⟩ ?_
  · intro r hr
    rcases hmem r hr with rfl | rfl <;> decide
  · have hapart : HaxSetRamInfo.Apart ⟨0, 0x20000, 0x900000⟩ ⟨0x100000, 0x10000, 0x7f0000⟩ := by
      intro g hg hg'
      rw [HaxSetRamInfo.Has] at hg hg'
      dsimp only at hg hg'
      omega
    exact List.pairwise_pair.mpr hapart
  · intro p hp
    have hcases : p = ⟨0x20000, 0x900000⟩ ∨ p = ⟨0x10000, 0x7f0000⟩ := by
      simpa using (show p ∈ [HaxAllocRamInfo.mk 0x20000 0x900000, ⟨0x10000, 0x7f0000⟩] from hp)
    rcases hcases with rfl | rfl
    · exact ⟨fun _ => ⟨0, rfl⟩, fun hzero => absurd hzero (by decide)⟩
    · exact ⟨fun _ => ⟨0x100000, rfl⟩, fun hzero => absurd hzero (by decide)⟩

/-- A block that was populated and not registered is found at guest address 0. -/
theorem unregistered_block_translated :
    ¬ ∀ s, MemRun s → RegisteredApart s → AgreesWithDriver s := by
  intro hall
  have hrun : MemRun (MemState.call ⟨[], [], []⟩ (.populateRam 0x7f0000 0x10000 true)) :=
    MemRun.start.call (by decide)
  have hagrees := hall _ hrun ⟨fun r hr => absurd hr List.not_mem_nil, .nil⟩ 0
  exact absurd (hagrees.2 fun r hr => absurd hr List.not_mem_nil) (by decide)

end ShellcodeVM.Haxm
