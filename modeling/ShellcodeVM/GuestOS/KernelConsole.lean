import ShellcodeVM.GuestOS.KernelRuns
import ShellcodeVM.GuestOS.VideoBounds

/-!
The console of the running kernel. Its buffer is linear; the host reads what it shows as
`dgbinfo`, at `VIDEO_BUF_PHYSICAL_ADDR` of guest RAM.
-/
namespace ShellcodeVM.GuestOS
open Machine Boot

/-! ### The accesses of the console -/

/-- `r'` is `r` after some program. -/
def Ram.Follows (r r' : Ram) : Prop := ∃ ops, Ram.Traced r r' ops

section
variable {r r₁ r₂ : Ram}

theorem Ram.Follows.refl (r : Ram) : Ram.Follows r r := ⟨[], Ram.Traced.refl r⟩

theorem Ram.Follows.trans (h : Ram.Follows r r₁) (h' : Ram.Follows r₁ r₂) : Ram.Follows r r₂ := by
  obtain ⟨ops, h⟩ := h
  obtain ⟨ops', h'⟩ := h'
  exact ⟨ops ++ ops', h.trans h'⟩

theorem Ram.Follows.store (h : Ram.Follows r r₁) (a : Nat) (b : UInt8) :
    Ram.Follows r (r₁.store a b) :=
  h.trans ⟨_, Ram.Traced.store r₁ a b⟩

end

namespace Console

theorem follows_nextRow (c : Console) : Ram.Follows c.ram c.nextRow.ram := by
  by_cases hlast : c.video.mCursorY < c.video.mScreenHeight
  · rw [c.nextRow_of_lt hlast]
    exact Ram.Follows.refl c.ram
  · rw [c.nextRow_of_ge (Nat.le_of_not_lt hlast)]
    exact Ram.Traced.memcpy c.ram _ _ _

theorem follows_putc (c : Console) (ch : UInt8) : Ram.Follows c.ram (c.putc ch).ram := by
  by_cases hcr : ch = 13
  · rw [hcr, c.putc_cr]
    exact Ram.Follows.refl c.ram
  by_cases hlf : ch = 10
  · rw [hlf, c.putc_lf]
    exact c.follows_nextRow
  have hwrap : Ram.Follows c.ram c.wrap.ram := by
    rw [wrap]
    split_ifs
    · exact (c.setX 0).follows_nextRow
    · exact Ram.Follows.refl c.ram
  rw [c.putc_other hcr hlf]
  exact (hwrap.store _ ch).store _ 0

theorem follows_putcs (c : Console) (str : List UInt8) :
    Ram.Follows c.ram (str.foldl putc c).ram := by
  induction str generalizing c with
  | nil => exact Ram.Follows.refl c.ram
  | cons ch str ih => exact (c.follows_putc ch).trans (ih (c.putc ch))

theorem follows_clearRows (c : Console) (n : Nat) : Ram.Follows c.ram (c.clearRows n) := by
  induction n with
  | zero => exact Ram.Follows.refl c.ram
  | succ n ih => exact ih.store _ 0

theorem follows_performAll (c : Console) (ops : List Operation) :
    Ram.Follows c.ram (c.performAll ops).ram := by
  induction ops generalizing c with
  | nil => exact Ram.Follows.refl c.ram
  | cons op ops ih =>
      have hop : Ram.Follows c.ram (c.perform op).ram := by
        cases op with
        | putc ch => exact c.follows_putc ch
        | puts str => exact c.follows_putcs _
        | clear => exact c.follows_clearRows _
        | gotoxy x y => exact Ram.Follows.refl c.ram
      exact hop.trans (ih (c.perform op))

end Console

/-! ### Through the page tables -/

/-- `video.Init(VIDEO_BUF_VIRTUAL_ADDR, MB(2), 100, 100)`. -/
def guestVideo : Video := Video.init videoBufVirtualAddr (mb 2) 100 100

theorem guestVideo_sized : guestVideo.Sized :=
  init_sized _ _ (by norm_num) (by norm_num)

theorem guestVideo_bufferSize : guestVideo.bufferSize = 25600 := by decide

theorem guestVideo_mVideoBuf : guestVideo.mVideoBuf = 0xC0500000 := rfl

/-- Memory as a program sees it at linear addresses, where the pages are present. -/
def linearRam (u : Mmu) : Ram where
  bytes := fun v => (u.load8 v).getD 0
  log := []

/-- The console at its start, over whatever the memory holds. -/
def guestConsole (u : Mmu) : Console := ⟨guestVideo, linearRam u⟩

/-- The pages of the console buffer lead to the block that the host looks at. -/
def MapsVideo (u : Mmu) : Prop := ∀ i, i < guestVideo.bufferSize →
  ∃ t, walk u.mem u.dir (videoBufVirtualAddr + i) = some t ∧ t.address = videoBufPhysicalAddr + i

theorem mapsBlock_video {u : Mmu} (h : TablesHidden u) (hmaps : MapsVideo u) :
    MapsBlock u.mem u.dir videoBufVirtualAddr videoBufPhysicalAddr guestVideo.bufferSize where
  fits := by
    rw [guestVideo_bufferSize, videoBufVirtualAddr]
    norm_num
  maps := hmaps
  stable := by
    intro m' hsame v hv
    have htables : SameTables u { u with mem := m' } := by
      refine ⟨rfl, ?_⟩
      intro x hx
      apply hsame
      simp only [InTables] at hx
      rw [guestVideo_bufferSize, videoBufPhysicalAddr]
      omega
    exact htables.walk_eq h.dir h.inPlace hv

theorem showsBlock_start {u : Mmu} {va pa size : Nat}
    (hmaps : ∀ i, i < size → ∃ t, walk u.mem u.dir (va + i) = some t ∧ t.address = pa + i) :
    ShowsBlock u u (linearRam u).bytes va pa size := by
  refine ⟨rfl, rfl, fun _ _ => rfl, ?_⟩
  intro i hi
  obtain ⟨t, hwalk, haddr⟩ := hmaps i hi
  simp [linearRam, Mmu.load8, hwalk, haddr]

/-- What the console does on flat memory it does through the page tables, byte by byte. -/
theorem console_through_tables {u : Mmu} (h : TablesHidden u) (hmaps : MapsVideo u)
    {ops : List Operation} (hops : ∀ op ∈ ops, op.OnScreen guestVideo) :
    ∃ accesses u', Ram.Traced (linearRam u) ((guestConsole u).performAll ops).ram accesses ∧
      u.runOps accesses = some u' ∧
      ShowsBlock u u' ((guestConsole u).performAll ops).ram.bytes videoBufVirtualAddr
        videoBufPhysicalAddr guestVideo.bufferSize := by
  have hblock := mapsBlock_video h hmaps
  have hstart : InBounds guestVideo (linearRam u) (guestConsole u) :=
    init_inBounds videoBufVirtualAddr (mb 2) 100 100 (linearRam u)
  have hbounds := hstart.performAll guestVideo_sized hops
  obtain ⟨accesses, htrace⟩ := (guestConsole u).follows_performAll ops
  have hwithin := htrace.within hbounds.confined
  have hin : ∀ op ∈ accesses, ∀ a ∈ op.access.addrs,
      videoBufVirtualAddr ≤ a ∧ a < videoBufVirtualAddr + guestVideo.bufferSize := by
    intro op hop a ha
    obtain ⟨i, hi, rfl⟩ := hwithin op hop a ha
    rw [guestVideo_bufferSize] at hi ⊢
    rw [guestVideo_mVideoBuf, videoBufVirtualAddr]
    omega
  obtain ⟨u', hrun, hshow⟩ := (showsBlock_start hmaps).runOps hblock hin
  refine ⟨accesses, u', htrace, hrun, ?_⟩
  rw [htrace.bytes]
  exact hshow

/-- The pages of the console buffer. -/
def VideoPage (k : Nat) : Prop := 0xC0500 ≤ k ∧ k < 0xC0507

theorem mapsVideo_of_run (m : Memory) {steps : List KernelStep} (hsteps : ∀ s ∈ steps, s.Legal)
    (hkeeps : ∀ c, .call c ∈ steps → ∀ k, VideoPage k → ¬ c.Covers k) :
    MapsVideo (runSteps (startup m) steps) := by
  intro i hi
  rw [guestVideo_bufferSize] at hi
  have hin : MapRange.Contains ⟨videoBufPhysicalAddr, videoBufVirtualAddr, videoBufSize⟩
      (videoBufVirtualAddr + i) := by
    simp only [MapRange.Contains, videoBufSize, mb_eq]
    omega
  have hpage : VideoPage ((videoBufVirtualAddr + i) / 4096) := by
    simp only [VideoPage, videoBufVirtualAddr]
    omega
  have hlt : videoBufVirtualAddr + i < 2 ^ 32 := by
    rw [videoBufVirtualAddr]
    omega
  rw [walk_runSteps m hsteps hlt, runPageMap_of_uncovered m fun c hc => hkeeps c hc _ hpage,
    pageMap_booted_of_range m (by decide) hin, Option.map_some]
  refine ⟨_, rfl, ?_⟩
  simp only [videoBufPhysicalAddr, videoBufVirtualAddr]
  omega

/-- At any point of a run that leaves the pages of the console mapped, console operations
go through the page tables without a fault, leave the translations as they are, and put
into guest RAM at `VIDEO_BUF_PHYSICAL_ADDR` what they make of the buffer. Nothing else of
the RAM changes. -/
theorem console_reaches_host (m : Memory) {steps : List KernelStep}
    (hsteps : ∀ s ∈ steps, s.Legal)
    (hkeeps : ∀ c, .call c ∈ steps → ∀ k, VideoPage k → ¬ c.Covers k)
    {ops : List Operation} (hops : ∀ op ∈ ops, op.OnScreen guestVideo) :
    let u := runSteps (startup m) steps
    ∃ accesses u', Ram.Traced (linearRam u) ((guestConsole u).performAll ops).ram accesses ∧
      u.runOps accesses = some u' ∧
      (∀ v, v < 2 ^ 32 → walk u'.mem u'.dir v = walk u.mem u.dir v) ∧
      (∀ i, i < guestVideo.bufferSize → u'.mem (videoBufPhysicalAddr + i) =
        ((guestConsole u).performAll ops).ram.bytes (videoBufVirtualAddr + i)) ∧
      ∀ x, x < videoBufPhysicalAddr ∨ videoBufPhysicalAddr + guestVideo.bufferSize ≤ x →
        u'.mem x = u.mem x := by
  intro u
  have h : TablesHidden u := ((tablesHidden_startup m).run hsteps).1
  have hmaps : MapsVideo u := mapsVideo_of_run m hsteps hkeeps
  obtain ⟨accesses, u', htrace, hrun, hshow⟩ := console_through_tables h hmaps hops
  exact ⟨accesses, u', htrace, hrun, fun v hv => hshow.walk_eq (mapsBlock_video h hmaps) hv,
    hshow.inside, hshow.outside⟩

theorem mainSteps_legal : ∀ s ∈ mainCalls.map KernelStep.call, s.Legal := by
  simp [mainCalls, KernelStep.Legal, PagerCall.Legal, frameDbPhysicalAddr,
    shellcodeBufPhysicalAddr, shellcodeBufVirtualAddr, shellcodeBufSize, mb_eq,
    ptPresent, ptReadonly, ptUser, Present]

theorem mainSteps_keep_video :
    ∀ c, .call c ∈ mainCalls.map KernelStep.call → ∀ k, VideoPage k → ¬ c.Covers k := by
  intro c hc k hk
  have hmem : c ∈ mainCalls := by simpa using hc
  simp only [VideoPage] at hk
  simp only [mainCalls, List.mem_cons, List.not_mem_nil, or_false] at hmem
  obtain rfl | rfl := hmem
  · simp only [PagerCall.Covers, PagerCall.virtualAddr, PagerCall.pages, PagerCall.size,
      sizeToPages_frameDb]
    omega
  · simp only [PagerCall.Covers, PagerCall.virtualAddr, PagerCall.pages, PagerCall.size,
      sizeToPages_shellcodeBuf, shellcodeBufVirtualAddr]
    omega

/-- The first character on the screen. -/
theorem putc_first (u : Mmu) :
    ((guestConsole u).performAll [.putc 72]).ram.bytes (videoBufVirtualAddr + 0) = 72 := by
  rw [guestConsole]
  generalize linearRam u = ram
  simp [Console.performAll, Console.perform, Console.putc, Console.wrap, Console.emit,
    Console.cursor, guestVideo, Video.init, lastIndex, maxScreenWidth, maxScreenHeight, Ram.store,
    write8, videoBufVirtualAddr]

theorem putc_onScreen : ∀ op ∈ [Operation.putc 72], op.OnScreen guestVideo := by
  intro op hop
  cases List.mem_singleton.mp hop
  trivial

theorem console_reaches_host_main :
    ∃ accesses u', (runSteps (startup fun _ => 0) (mainCalls.map .call)).runOps accesses = some u' ∧
      u'.mem 0x200000 = 72 := by
  obtain ⟨accesses, u', -, hrun, -, hinside, -⟩ :=
    console_reaches_host (fun _ => 0) mainSteps_legal mainSteps_keep_video putc_onScreen
  have hbyte := hinside 0 (by rw [guestVideo_bufferSize]; norm_num)
  exact ⟨accesses, u', hrun, hbyte.trans (putc_first _)⟩

end ShellcodeVM.GuestOS
