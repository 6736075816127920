import ShellcodeVM.GuestOS.Kernel
import ShellcodeVM.Loader.PeImageBounds

/-!
`PrepareVmContext` of `main.cpp`, and what the boot loader finds of it: the host puts the
boot code, the guest's image and the `VM_CONTEXT` into guest RAM, the boot loader switches
to paging on top of them and reads the entry point through its own page tables. The host's
`VirtualAlloc` and `GetModuleHandle` are parameters: the address of the block with its
contents, and the memory of the host that is copied.
-/
namespace ShellcodeVM.Loader
open Machine Boot GuestOS

def shellcodeTebPhysicalAddr : Nat := 0x02000000
def shellcodeTebSize : Nat := pageSize
def kernel32PhysicalAddr : Nat := 0x02002000

/-- The `image_size` that overrides the one of the header. -/
def kernel32CopySize : Nat := 0x000D0000

/-- The fields in the order of the struct. -/
def VmContext.words (vm : VmContext) : List UInt32 :=
  [vm.ramBase, vm.ramSize, vm.ramUsed, vm.bootStart, vm.videoBufBase, vm.videoBufSize,
   vm.osPhyscialAddress, vm.osVirtualAddress, vm.osImageSize, vm.osEntryPoint, vm.shellcodeBase,
   vm.shellcodeFileSize, vm.shellcodeBufSize, vm.memBlocks]

/-- `sizeof(VM_CONTEXT)`. -/
def vmContextSize : Nat := 56

def contextBytes (vm : VmContext) : Memory :=
  fun i => UInt8.ofNat ((vm.words.getD (i / 4) 0).toNat / 2 ^ (8 * (i % 4)))

/-- The context before anything is loaded. -/
def initialContext (ramBase : UInt32) : VmContext :=
  { zeroContext with
    ramBase := ramBase
    ramSize := UInt32.ofNat vmRamSize
    videoBufBase := UInt32.ofNat videoBufPhysicalAddr
    videoBufSize := UInt32.ofNat videoBufSize }

/-- The three copies at the end. -/
def copyHostMemory (vm : VmContext) (ram teb kernel32 : Memory) : Memory :=
  let ram := memcpy ram shellcodeTebPhysicalAddr teb shellcodeTebSize
  let ram := memcpy ram vmContextPhysicalAddr (contextBytes vm) vmContextSize
  memcpy ram kernel32PhysicalAddr kernel32 kernel32CopySize

def prepareVmContext (ramBase : UInt32) (ram stack teb kernel32 : Memory)
    (bootFile osFile : Option (List UInt8)) : Except LoadFault (Bool × VmContext × Memory) :=
  if ramBase = 0 then
    .ok (false, zeroContext, ram)
  else do
    let (booted, vm, ram) ← loadBootCode (initialContext ramBase) ram stack bootFile
    if booted = false then
      return (false, vm, ram)
    else
      let (loaded, vm, ram) ← loadGuestOs vm ram osFile
      if loaded = false then
        return (false, vm, ram)
      else
        return (true, vm, copyHostMemory vm ram teb kernel32)

/-- A word of the struct, read back from its bytes. -/
theorem read32_contextBytes (vm : VmContext) (k : Nat) :
    read32 (contextBytes vm) (4 * k) = (vm.words.getD k 0).toNat := by
  have hlt := (vm.words.getD k 0).toNat_lt
  have hbyte : ∀ i, i < 4 →
      (contextBytes vm (4 * k + i)).toNat = (vm.words.getD k 0).toNat / 2 ^ (8 * i) % 256 := by
    intro i hi
    have hword : (4 * k + i) / 4 = k := by omega
    have hpart : (4 * k + i) % 4 = i := by omega
    rw [contextBytes, hword, hpart, UInt8.toNat_ofNat']
  have h0 := hbyte 0 (by norm_num)
  have h1 := hbyte 1 (by norm_num)
  have h2 := hbyte 2 (by norm_num)
  have h3 := hbyte 3 (by norm_num)
  simp only [Nat.add_zero] at h0
  simp only [read32, h0, h1, h2, h3]
  generalize (vm.words.getD k 0).toNat = w at hlt
  omega

/-- The first 16 MB of guest RAM when the host is done. -/
structure Prepared (boot os : List UInt8) (vm : VmContext) (ram : Memory) : Prop where
  context : ∀ i, i < vmContextSize → ram (osCodePhysicalAddr + i) = contextBytes vm i
  guest : ∀ i, vmContextSize ≤ i → i < os.length → i < osCodeSize →
    ram (osCodePhysicalAddr + i) = fileBytes os i
  boot : ∀ i, i < (peHeader boot).sizeOfImage →
    (peHeader boot).imageBase + i < osCodePhysicalAddr →
    ram ((peHeader boot).imageBase + i) = fileBytes boot i
  entryPoint : vm.osEntryPoint =
    UInt32.ofNat ((peHeader os).imageBase + (peHeader os).addressOfEntryPoint)

/-- The copies of host memory below 16 MB: the context. -/
theorem copyHostMemory_low (vm : VmContext) (ram teb kernel32 : Memory) {x : Nat}
    (hx : x < 0x1000000) :
    copyHostMemory vm ram teb kernel32 x =
      if osCodePhysicalAddr ≤ x ∧ x < osCodePhysicalAddr + vmContextSize then
        contextBytes vm (x - osCodePhysicalAddr)
      else ram x := by
  rw [copyHostMemory, memcpy_apply, memcpy_apply, memcpy_apply, kernel32PhysicalAddr,
    shellcodeTebPhysicalAddr, vmContextPhysicalAddr, if_neg (by omega)]
  split_ifs with hcontext hteb
  · rfl
  · omega
  · rfl

/-- The context after `LoadBootCode`. -/
def bootedContext (ramBase : UInt32) (boot : List UInt8) : VmContext :=
  { initialContext ramBase with
    bootStart := UInt32.ofNat ((peHeader boot).imageBase + (peHeader boot).addressOfEntryPoint) }

/-- The context after `LoadGuestOs`. -/
def smallContext (ramBase : UInt32) (boot os : List UInt8) : VmContext :=
  { bootedContext ramBase boot with
    osPhyscialAddress := UInt32.ofNat osCodePhysicalAddr
    osVirtualAddress := UInt32.ofNat (peHeader os).imageBase
    osImageSize := UInt32.ofNat (peHeader os).sizeOfImage
    osEntryPoint := UInt32.ofNat ((peHeader os).imageBase + (peHeader os).addressOfEntryPoint) }

theorem prepareVmContext_of_fits {ramBase : UInt32} (hbase : ramBase ≠ 0)
    (ram stack teb kernel32 : Memory) {boot os : List UInt8} (hboot : BootImageFits boot)
    (hos : GuestImageFits os) :
    ∃ vm ram', prepareVmContext ramBase ram stack teb kernel32 (some boot) (some os) =
        .ok (true, vm, ram') ∧ Prepared boot os vm ram' := by
  have hbooted : ∃ ram₁, loadBootCode (initialContext ramBase) ram stack (some boot) =
      .ok (true, bootedContext ramBase boot, ram₁) ∧
      ImageAt (peHeader boot).imageBase (peHeader boot).sizeOfImage (fileBytes boot) ram ram₁ :=
    loadBootCode_of_fits hboot
  obtain ⟨ram₁, hload, himage⟩ := hbooted
  have hloaded : ∃ ram₂, loadGuestOs (bootedContext ramBase boot) ram₁ (some os) =
      .ok (true, smallContext ramBase boot os, ram₂) ∧
      ImageAt osCodePhysicalAddr os.length (fileBytes os) ram₁ ram₂ :=
    loadGuestOs_of_fits hos
  obtain ⟨ram₂, hload', himage'⟩ := hloaded
  refine ⟨smallContext ramBase boot os,
    copyHostMemory (smallContext ramBase boot os) ram₂ teb kernel32, ?_, ?_, ?_, ?_, ?_⟩
  · rw [prepareVmContext, if_neg hbase, hload, ok_bind]
    dsimp only
    rw [if_neg Bool.noConfusion, hload', ok_bind]
    rfl
  · intro i hi
    rw [vmContextSize] at hi
    rw [copyHostMemory_low _ _ _ _ (by rw [osCodePhysicalAddr]; omega), if_pos
      ⟨Nat.le_add_right _ _, by rw [vmContextSize]; omega⟩, Nat.add_sub_cancel_left]
  · intro i hlo hlen hi
    have hsize : osCodeSize = 0x800000 := mb_eq 8
    rw [copyHostMemory_low _ _ _ _ (by rw [osCodePhysicalAddr]; omega), if_neg (by omega),
      himage', if_pos (by omega), Nat.add_sub_cancel_left]
  · intro i hi hlow
    rw [osCodePhysicalAddr] at hlow
    rw [copyHostMemory_low _ _ _ _ (by omega), if_neg (by rw [osCodePhysicalAddr]; omega), himage',
      if_neg (by rw [osCodePhysicalAddr]; omega), himage, if_pos (by omega),
      Nat.add_sub_cancel_left]
  · rfl

/-! ### Behind the page tables -/

theorem walk_block (m : Memory) {pa va size : Nat} (hr : ⟨pa, va, size⟩ ∈ bootRanges) {i : Nat}
    (hi : i < size) :
    walk (startup m).mem (startup m).dir (va + i) = some ⟨pa + i, 7, 7⟩ := by
  have hin : MapRange.Contains ⟨pa, va, size⟩ (va + i) := by
    simp only [MapRange.Contains]
    omega
  rw [walk_startup m hr hin, Nat.add_sub_cancel_left]

theorem load8_block (m : Memory) {pa va size : Nat} (hr : ⟨pa, va, size⟩ ∈ bootRanges) {i : Nat}
    (hi : i < size) : (startup m).load8 (va + i) = some ((startup m).mem (pa + i)) := by
  rw [Mmu.load8, walk_block m hr hi, Option.map_some]

theorem osRange_mem : ⟨osCodePhysicalAddr, osCodeVirtualAddr, osCodeSize⟩ ∈ bootRanges := by decide

theorem bootRange_mem : ⟨0, 0, bootCodeSize⟩ ∈ bootRanges := by decide

theorem startup_mem_osCode (m : Memory) (i : Nat) :
    (startup m).mem (osCodePhysicalAddr + i) = m (osCodePhysicalAddr + i) := by
  apply startup_mem_outside
  · rw [osCodePhysicalAddr]
    omega
  · rw [osCodePhysicalAddr]
    omega

/-- The bytes of the image from `OS_CODE_PHYSICAL_ADDR` on outlive the boot loader. -/
theorem load8_osCode (m : Memory) {i : Nat} (hi : i < osCodeSize) :
    (startup m).load8 (osCodeVirtualAddr + i) = some (m (osCodePhysicalAddr + i)) := by
  rw [load8_block m osRange_mem hi, startup_mem_osCode]

/-- So do those below the frame database, at the addresses that they had before paging. -/
theorem load8_bootCode (m : Memory) {x : Nat} (hx : x < bootCodeSize) :
    (startup m).load8 x = some (m x) := by
  have hsize : bootCodeSize = 0x100000 := mb_eq 1
  have hload := load8_block m bootRange_mem hx
  simp only [Nat.zero_add] at hload
  rw [hload, startup_mem_outside m (.inl (by omega)) (.inl (by omega))]

theorem load32_osCode (m : Memory) {o : Nat} (ho : o < osCodeSize) :
    (startup m).load32 (osCodeVirtualAddr + o) = some (read32 m (osCodePhysicalAddr + o)) := by
  rw [Mmu.load32, walk_block m osRange_mem ho, Option.map_some]
  refine congrArg some (read32_congr ?_)
  intro i _
  rw [Nat.add_assoc, startup_mem_osCode]

/-- The boot loader finds the entry point of the guest's image in the context. -/
theorem main_of_prepared {boot os : List UInt8} {vm : VmContext} {ram : Memory}
    (h : Prepared boot os vm ram) :
    Boot.main ram = some
      (((peHeader os).imageBase + (peHeader os).addressOfEntryPoint) % 2 ^ 32, startup ram) := by
  have hcontext : read32 ram (osCodePhysicalAddr + 4 * 9) = read32 (contextBytes vm) (4 * 9) := by
    apply read32_congr
    intro i hi
    rw [Nat.add_assoc]
    exact h.context (4 * 9 + i) (by rw [vmContextSize]; omega)
  have hword : (vm.words.getD 9 0).toNat =
      ((peHeader os).imageBase + (peHeader os).addressOfEntryPoint) % 2 ^ 32 := by
    change vm.osEntryPoint.toNat = _
    rw [h.entryPoint, UInt32.toNat_ofNat']
  have hload := load32_osCode ram (o := 4 * 9) (by decide)
  rw [hcontext, read32_contextBytes, hword] at hload
  have haddr : vmContextVirtualAddr + osEntryPointOffset = osCodeVirtualAddr + 4 * 9 := rfl
  rw [Boot.main, haddr]
  exact Option.bind_eq_some_iff.mpr ⟨_, hload, rfl⟩

/-- Two files that fit reach their code: the host loads both, the boot loader turns paging
on under its own feet, at every address of its image, and jumps to the entry point of the
guest's image, which lies at `OS_CODE_VIRTUAL_ADDR` with the context over its first bytes. -/
theorem handOff {ramBase : UInt32} (hbase : ramBase ≠ 0) (ram stack teb kernel32 : Memory)
    {boot os : List UInt8} (hboot : BootImageFits boot) (hos : GuestImageFits os) :
    ∃ vm ram', prepareVmContext ramBase ram stack teb kernel32 (some boot) (some os) =
        .ok (true, vm, ram') ∧
      Boot.main ram' = some
        (((peHeader os).imageBase + (peHeader os).addressOfEntryPoint) % 2 ^ 32, startup ram') ∧
      (∀ i, i < (peHeader boot).sizeOfImage → (peHeader boot).imageBase + i < bootCodeSize →
        (startup ram').load8 ((peHeader boot).imageBase + i) = some (fileBytes boot i)) ∧
      ∀ i, i < os.length → i < osCodeSize → (startup ram').load8 (osCodeVirtualAddr + i) =
        some (if i < vmContextSize then contextBytes vm i else fileBytes os i) := by
  obtain ⟨vm, ram', hprepare, h⟩ :=
    prepareVmContext_of_fits hbase ram stack teb kernel32 hboot hos
  refine ⟨vm, ram', hprepare, main_of_prepared h, ?_, ?_⟩
  · intro i hi hlow
    have hsize : bootCodeSize = 0x100000 := mb_eq 1
    rw [load8_bootCode ram' hlow, h.boot i hi (by rw [osCodePhysicalAddr]; omega)]
  · intro i hlen hi
    rw [load8_osCode ram' hi]
    split_ifs with hcontext
    · rw [h.context i hcontext]
    · rw [h.guest i (by omega) hlen hi]

/-- A file of 84 bytes whose header, at its start, has an image base of 0x10000 and an image
size of 256. -/
def smallImage : List UInt8 :=
  List.replicate 54 0 ++ [1, 0] ++ List.replicate 25 0 ++ [1, 0, 0]

theorem smallImage_header :
    smallImage.length = 84 ∧ peLfanew smallImage = 0 ∧ peHeader smallImage = ⟨0x10000, 256, 0⟩ := by
  decide

theorem smallImage_fits : BootImageFits smallImage ∧ GuestImageFits smallImage := by
  obtain ⟨hlen, hlfanew, hheader⟩ := smallImage_header
  have hinside : HeaderInside smallImage 84 :=
    ⟨by norm_num, by rw [hlfanew]; decide, by rw [hlfanew]; decide⟩
  refine ⟨⟨?_, ?_, ?_, ?_⟩, ?_, ?_⟩
  · rw [hlen]
    exact hinside
  · rw [hlen, hheader]
    decide
  · rw [hheader]
    decide
  · rw [hheader]
    decide
  · rw [hlen]
    exact hinside
  · rw [hlen]
    decide

theorem handOff_smallImage :
    ∃ vm ram', prepareVmContext 0x1000000 (fun _ => 0) (fun _ => 0xCC) (fun _ => 0) (fun _ => 0)
        (some smallImage) (some smallImage) = .ok (true, vm, ram') ∧
      (Boot.main ram').map Prod.fst = some 0x10000 ∧
      (startup ram').load8 0x10036 = some 1 := by
  obtain ⟨vm, ram', hprepare, hmain, hboot, -⟩ :=
    handOff (show (0x1000000 : UInt32) ≠ 0 by decide) (fun _ => 0) (fun _ => 0xCC) (fun _ => 0)
      (fun _ => 0) smallImage_fits.1 smallImage_fits.2
  rw [smallImage_header.2.2] at hmain hboot
  refine ⟨vm, ram', hprepare, ?_, hboot 0x36 (by norm_num) (by decide)⟩
  rw [hmain]
  rfl

end ShellcodeVM.Loader
