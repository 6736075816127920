import ShellcodeVM.Loader.PeImage

/-!
Exactly which files the PE loaders load without leaving the file's bytes, the local
buffer or guest RAM.
-/
namespace ShellcodeVM.Loader
open Machine

/-- Nothing but guest RAM from an address on has changed. -/
def OnlyRamFrom (base : Nat) (ram ram' : Memory) : Prop :=
  ∀ a, a < base ∨ vmRamSize ≤ a → ram' a = ram a

/-- The call returns, and has written to guest RAM from an address on only. -/
def LoadsInBounds (base : Nat) (ram : Memory)
    (load : Except LoadFault (Bool × VmContext × Memory)) : Prop :=
  ∃ ok vm' ram', load = .ok (ok, vm', ram') ∧ OnlyRamFrom base ram ram'

theorem LoadsInBounds.returns {base : Nat} {ram : Memory}
    {load : Except LoadFault (Bool × VmContext × Memory)} (h : LoadsInBounds base ram load) :
    Returns load := by
  obtain ⟨ok, vm', ram', heq, -⟩ := h
  exact ⟨_, heq⟩

section
variable {file : List UInt8} {image : Memory} {size : Nat}

/-! ### The header -/

theorem headerField_bind {β : Type} {offset : Nat} {f : Nat → Except LoadFault β} :
    Returns (headerField image size offset >>= f) ↔
      offset + 4 ≤ size ∧ Returns (f (read32 image offset)) :=
  returns_check_bind

/-- A field is found where the file has it once its bytes have been read. -/
theorem read32_image (h : ∀ i, i < size → image i = fileBytes file i) {offset : Nat}
    (hin : offset + 4 ≤ size) : read32 image offset = read32 (fileBytes file) offset :=
  read32_congr fun i hi => h (offset + i) (by omega)

theorem headerInside_iff (hsize : size < 2 ^ 31) :
    HeaderInside file size ↔ 0x3C + 4 ≤ size ∧ ntField (peLfanew file) 52 + 4 ≤ size ∧
      ntField (peLfanew file) 80 + 4 ≤ size ∧ ntField (peLfanew file) 40 + 4 ≤ size := by
  have hlt : peLfanew file < 2 ^ 32 := read32_lt _ _
  have hint : toInt32 (peLfanew file) =
      if peLfanew file < 2 ^ 31 then (peLfanew file : Int) else peLfanew file - 2 ^ 32 := by
    rw [toInt32, Int.bmod_def]
    split_ifs <;> omega
  have hfields : HeaderInside file size ↔ 0x40 ≤ size ∧ 0 ≤ toInt32 (peLfanew file) + 40 ∧
      toInt32 (peLfanew file) + 84 ≤ size :=
    ⟨fun h => ⟨h.dos, h.entryPoint, h.sizeOfImage⟩, fun h => ⟨h.1, h.2.1, h.2.2⟩⟩
  rw [hfields, hint]
  simp only [ntField]
  split_ifs <;> omega

theorem readPeHeader_of_inside (h : ∀ i, i < size → image i = fileBytes file i)
    (hsize : size < 2 ^ 31) (hin : HeaderInside file size) :
    readPeHeader image size = .ok (peHeader file) := by
  obtain ⟨hdos, hbase, himage, hentry⟩ := (headerInside_iff hsize).mp hin
  have hlfanew : read32 image 0x3C = peLfanew file := read32_image h hdos
  rw [readPeHeader, headerField, check_bind_of_pos hdos, hlfanew, headerField,
    check_bind_of_pos hbase, headerField, check_bind_of_pos himage, headerField,
    check_bind_of_pos hentry, read32_image h hbase, read32_image h himage, read32_image h hentry]
  rfl

theorem readPeHeader_bind {β : Type} {f : PeHeader → Except LoadFault β}
    (h : ∀ i, i < size → image i = fileBytes file i) (hsize : size < 2 ^ 31) :
    Returns (readPeHeader image size >>= f) ↔ HeaderInside file size ∧ Returns (f (peHeader file)) := by
  constructor
  · intro hf
    have hret := hf
    rw [returns_bind] at hret
    obtain ⟨hdr, heq, -⟩ := hret
    have hread : Returns (readPeHeader image size) := ⟨hdr, heq⟩
    rw [readPeHeader, headerField_bind] at hread
    obtain ⟨hdos, hread⟩ := hread
    have hlfanew : read32 image 0x3C = peLfanew file := read32_image h hdos
    rw [hlfanew, headerField_bind] at hread
    obtain ⟨hbase, hread⟩ := hread
    rw [headerField_bind] at hread
    obtain ⟨himage, hread⟩ := hread
    rw [headerField_bind] at hread
    have hin := (headerInside_iff hsize).mpr ⟨hdos, hbase, himage, hread.1⟩
    rw [readPeHeader_of_inside h hsize hin] at hf
    exact ⟨hin, hf⟩
  · rintro ⟨hin, hf⟩
    rw [readPeHeader_of_inside h hsize hin]
    exact hf

end

/-! ### The boot code -/

section
variable {vm : VmContext} {ram stack : Memory} {file : List UInt8}

theorem memcpy_file (m : Memory) (file : List UInt8) (n : Nat) :
    ∀ i, i < n → memcpy m 0 (fileBytes file) n i = fileBytes file i := by
  intro i hi
  rw [memcpy_apply, if_pos ⟨Nat.zero_le i, by omega⟩, Nat.sub_zero]

theorem tailSize_of_le {imageSize fsize : Nat} (h : fsize ≤ imageSize) (hlt : imageSize < 2 ^ 32) :
    tailSize imageSize fsize = imageSize - fsize := by
  rw [tailSize]
  omega

/-- An image shorter than what was read makes the tail as long as the address space. -/
theorem tail_in_iff {imageSize fsize : Nat} (hsize : imageSize < 2 ^ 32)
    (hfsize : fsize ≤ bootBufSize) (hpos : 0 < fsize) :
    RangeIn fsize (tailSize imageSize fsize) bootBufSize ∧ RangeIn 0 imageSize bootBufSize ↔
      fsize ≤ imageSize ∧ imageSize ≤ bootBufSize := by
  rw [bootBufSize] at *
  simp only [RangeIn, tailSize]
  omega

theorem loadBootCode_returns_iff :
    Returns (loadBootCode vm ram stack (some file)) ↔ BootImageFits file := by
  have hbuf : min file.length bootBufSize ≤ bootBufSize := Nat.min_le_right _ _
  have hfsize : min file.length bootBufSize < 2 ^ 31 := lt_of_le_of_lt hbuf (by decide)
  have hsize : (peHeader file).sizeOfImage < 2 ^ 32 := read32_lt _ _
  rw [loadBootCode, readPeHeader_bind (memcpy_file stack file _) hfsize, returns_check_bind,
    returns_check_bind, returns_check_bind]
  constructor
  · rintro ⟨hheader, htail, hsource, hram, -⟩
    have hpos : 0 < min file.length bootBufSize := lt_of_lt_of_le (by decide) hheader.dos
    obtain ⟨hle, hfits⟩ := (tail_in_iff hsize hbuf hpos).mp ⟨htail, hsource⟩
    refine ⟨hheader, hle, hfits, ?_⟩
    rcases hram with hzero | hram
    · omega
    · exact hram
  · intro h
    have hpos : 0 < min file.length bootBufSize := lt_of_lt_of_le (by decide) h.header.dos
    obtain ⟨htail, hsource⟩ := (tail_in_iff hsize hbuf hpos).mpr ⟨h.tail, h.buffer⟩
    exact ⟨h.header, htail, hsource, .inr h.ram, returns_ok _⟩

/-- The local buffer when it is copied to guest RAM. -/
def bootBuffer (stack : Memory) (file : List UInt8) : Memory :=
  memset (memcpy stack 0 (fileBytes file) (min file.length bootBufSize))
    (min file.length bootBufSize) 0
    (tailSize (peHeader file).sizeOfImage (min file.length bootBufSize))

/-- It holds the file, with zeros behind it. -/
theorem bootBuffer_eq (stack : Memory) (h : BootImageFits file) {i : Nat}
    (hi : i < (peHeader file).sizeOfImage) : bootBuffer stack file i = fileBytes file i := by
  have hsize : (peHeader file).sizeOfImage < 2 ^ 32 := read32_lt _ _
  have hbuffer := h.buffer
  rw [bootBuffer, tailSize_of_le h.tail hsize, memset_apply]
  by_cases hread : i < min file.length bootBufSize
  · rw [if_neg (by omega)]
    exact memcpy_file stack file _ i hread
  · have hend : file.length ≤ i := by omega
    rw [if_pos (by omega)]
    exact (List.getD_eq_default _ _ hend).symm

/-- Guest RAM with an image at an address. -/
def ImageAt (base size : Nat) (image ram ram' : Memory) : Prop :=
  ∀ a, ram' a = if base ≤ a ∧ a < base + size then image (a - base) else ram a

theorem ImageAt.onlyRamFrom {base size : Nat} {image ram ram' : Memory} {low : Nat}
    (h : ImageAt base size image ram ram') (hlow : low ≤ base) (hfits : base + size ≤ vmRamSize) :
    OnlyRamFrom low ram ram' := by
  intro a ha
  rw [h a, if_neg (by omega)]

theorem loadBootCode_of_fits (h : BootImageFits file) :
    ∃ ram', loadBootCode vm ram stack (some file) = .ok (true, { vm with
        bootStart := UInt32.ofNat ((peHeader file).imageBase + (peHeader file).addressOfEntryPoint) },
        ram') ∧
      ImageAt (peHeader file).imageBase (peHeader file).sizeOfImage (fileBytes file) ram ram' := by
  have hbuf : min file.length bootBufSize ≤ bootBufSize := Nat.min_le_right _ _
  have hfsize : min file.length bootBufSize < 2 ^ 31 := lt_of_le_of_lt hbuf (by decide)
  have hsize : (peHeader file).sizeOfImage < 2 ^ 32 := read32_lt _ _
  have hpos : 0 < min file.length bootBufSize := lt_of_lt_of_le (by decide) h.header.dos
  obtain ⟨htail, hsource⟩ := (tail_in_iff hsize hbuf hpos).mpr ⟨h.tail, h.buffer⟩
  refine ⟨memcpy ram (peHeader file).imageBase (bootBuffer stack file) (peHeader file).sizeOfImage,
    ?_, ?_⟩
  · rw [loadBootCode, readPeHeader_of_inside (memcpy_file stack file _) hfsize h.header, ok_bind,
      check_bind_of_pos htail, check_bind_of_pos hsource, check_bind_of_pos (.inr h.ram),
      bootBuffer]
    rfl
  · intro a
    rw [memcpy_apply]
    split_ifs with hin
    · exact bootBuffer_eq stack h (by omega)
    · rfl

theorem loadBootCode_safe_iff :
    LoadsInBounds 0 ram (loadBootCode vm ram stack (some file)) ↔ BootImageFits file := by
  constructor
  · exact fun h => loadBootCode_returns_iff.mp h.returns
  · intro h
    obtain ⟨ram', heq, himage⟩ := loadBootCode_of_fits h
    exact ⟨_, _, _, heq, himage.onlyRamFrom (Nat.zero_le _) h.ram⟩

/-! ### The guest OS -/

theorem ftell_of_lt {length : Nat} (h : length < 2 ^ 31) : ftell length = length :=
  if_pos h

theorem window_image (ram : Memory) (file : List UInt8) (n : Nat) :
    ∀ i, i < n → window (memcpy ram osCodePhysicalAddr (fileBytes file) n) osCodePhysicalAddr i =
      fileBytes file i := by
  intro i hi
  rw [window, memcpy_apply, if_pos ⟨Nat.le_add_right _ _, by omega⟩, Nat.add_sub_cancel_left]

/-- A file that guest RAM has no room for is read past its end all the same. -/
theorem loadGuestOs_room (h : Returns (loadGuestOs vm ram (some file))) :
    osCodePhysicalAddr + file.length ≤ vmRamSize := by
  rw [loadGuestOs, returns_check_bind] at h
  have hroom := h.1
  have hram : vmRamSize < 2 ^ 31 := by decide
  rw [RangeIn, ftell] at hroom
  split_ifs at hroom with hshort
  · rw [Nat.min_self] at hroom
    have hos : osCodePhysicalAddr ≤ vmRamSize := by decide
    omega
  · have hlong : 2 ^ 31 ≤ min file.length (2 ^ 32 - 1) := le_min (by omega) (by decide)
    omega

theorem loadGuestOs_returns_iff (hroom : osCodePhysicalAddr + file.length ≤ vmRamSize) :
    Returns (loadGuestOs vm ram (some file)) ↔ HeaderInside file file.length := by
  have hsize : file.length < 2 ^ 31 := by
    have hram : vmRamSize = 104857600 := rfl
    omega
  rw [loadGuestOs, ftell_of_lt hsize, Nat.min_self, returns_check_bind, if_neg (not_not.mpr rfl),
    readPeHeader_bind (window_image ram file _) hsize]
  exact ⟨fun h => h.2.1, fun h => ⟨.inr hroom, h, returns_ok _⟩⟩

/-- The file is in guest RAM, and its header's fields are in the context. -/
theorem loadGuestOs_of_fits (h : GuestImageFits file) :
    ∃ ram', loadGuestOs vm ram (some file) = .ok (true, { vm with
        osPhyscialAddress := UInt32.ofNat osCodePhysicalAddr
        osVirtualAddress := UInt32.ofNat (peHeader file).imageBase
        osImageSize := UInt32.ofNat (peHeader file).sizeOfImage
        osEntryPoint :=
          UInt32.ofNat ((peHeader file).imageBase + (peHeader file).addressOfEntryPoint) }, ram') ∧
      ImageAt osCodePhysicalAddr file.length (fileBytes file) ram ram' := by
  have hsize : file.length < 2 ^ 31 := by
    have hroom := h.ram
    have hram : vmRamSize = 104857600 := rfl
    omega
  refine ⟨memcpy ram osCodePhysicalAddr (fileBytes file) file.length, ?_, ?_⟩
  · rw [loadGuestOs, ftell_of_lt hsize, Nat.min_self, check_bind_of_pos (.inr h.ram),
      if_neg (not_not.mpr rfl), readPeHeader_of_inside (window_image ram file _) hsize h.header]
    rfl
  · exact fun a => memcpy_apply _ _ _ _ a

theorem loadGuestOs_safe_iff :
    LoadsInBounds osCodePhysicalAddr ram (loadGuestOs vm ram (some file)) ↔ GuestImageFits file := by
  constructor
  · intro h
    have hroom := loadGuestOs_room h.returns
    exact ⟨(loadGuestOs_returns_iff hroom).mp h.returns, hroom⟩
  · intro h
    obtain ⟨ram', heq, himage⟩ := loadGuestOs_of_fits h
    exact ⟨_, _, _, heq, himage.onlyRamFrom (le_refl _) h.ram⟩

end

/-- Exactly which files the two loaders load safely; a file that does not open is
refused. -/
structure PeLoadsExact (vm : VmContext) (ram stack : Memory) : Prop where
  boot : ∀ file, LoadsInBounds 0 ram (loadBootCode vm ram stack (some file)) ↔ BootImageFits file
  guest : ∀ file, LoadsInBounds osCodePhysicalAddr ram (loadGuestOs vm ram (some file)) ↔
    GuestImageFits file
  bootMissing : LoadsInBounds 0 ram (loadBootCode vm ram stack none)
  guestMissing : LoadsInBounds osCodePhysicalAddr ram (loadGuestOs vm ram none)

theorem peLoads_exact (vm : VmContext) (ram stack : Memory) : PeLoadsExact vm ram stack where
  boot _ := loadBootCode_safe_iff
  guest _ := loadGuestOs_safe_iff
  bootMissing := ⟨false, vm, ram, rfl, fun _ _ => rfl⟩
  guestMissing := ⟨false, vm, ram, rfl, fun _ _ => rfl⟩

/-- A file of 84 bytes whose header, at its start, asks for an image of 128 KiB. -/
def oversizedImage : List UInt8 :=
  List.replicate 54 0 ++ [1, 0] ++ List.replicate 26 0 ++ [2, 0]

def zeroContext : VmContext := ⟨0, 0, 0, 0, 0, 0, 0, 0, 0, 0, 0, 0, 0, 0⟩

theorem oversizedImage_header :
    oversizedImage.length = 84 ∧ peHeader oversizedImage = ⟨0x10000, 0x20000, 0⟩ := by
  decide

/-- The image does not fit the local buffer; and an empty file has no header. -/
theorem peLoads_leave_their_bounds :
    ¬ LoadsInBounds 0 (fun _ => 0)
        (loadBootCode zeroContext (fun _ => 0) (fun _ => 0) (some oversizedImage)) ∧
      ¬ LoadsInBounds osCodePhysicalAddr (fun _ => 0)
        (loadGuestOs zeroContext (fun _ => 0) (some [])) := by
  constructor
  · intro h
    have hbuffer := (loadBootCode_safe_iff.mp h).buffer
    rw [oversizedImage_header.2] at hbuffer
    exact absurd hbuffer (by decide)
  · intro h
    exact absurd (loadGuestOs_safe_iff.mp h).header.dos (by decide)

end ShellcodeVM.Loader
