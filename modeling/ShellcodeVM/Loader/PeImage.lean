import ShellcodeVM.Lib.Checked
import ShellcodeVM.GuestOS.Layout
import ShellcodeVM.Loader.MiniDump

/-!
`LoadBootCode` and `LoadGuestOs` of `main.cpp`, which load PE images of 32-bit programs.
The host is a 32-bit process; a pointer is kept as its offset from the block it points
into, reduced as pointers are. Neither function checks what it finds in the file, so a
model of them has to say where the accesses end: to read a header field behind the bytes
of the file, to leave the local buffer and to leave guest RAM are faults.
-/
namespace ShellcodeVM.Loader
open Machine

inductive LoadFault where
  | headerOutsideFile
  | outsideBuffer
  | outsideRam
deriving DecidableEq, Repr

/-- What a file holds, byte by byte. -/
def fileBytes (file : List UInt8) : Memory := fun i => file.getD i 0

/-- The fields of `IMAGE_NT_HEADERS` that the loaders use. -/
structure PeHeader where
  imageBase : Nat
  sizeOfImage : Nat
  addressOfEntryPoint : Nat
deriving DecidableEq, Repr

/-- A 32-bit field of an image of which `size` bytes have been read. -/
def headerField (image : Memory) (size offset : Nat) : Except LoadFault Nat :=
  check (offset + 4 ≤ size) .headerOutsideFile (read32 image offset)

/-- A field of the NT headers; `e_lfanew` is a `LONG`, and the sum wraps. -/
def ntField (lfanew offset : Nat) : Nat := (lfanew + offset) % 2 ^ 32

def readPeHeader (image : Memory) (size : Nat) : Except LoadFault PeHeader := do
  let lfanew ← headerField image size 0x3C
  let imageBase ← headerField image size (ntField lfanew 52)
  let sizeOfImage ← headerField image size (ntField lfanew 80)
  let addressOfEntryPoint ← headerField image size (ntField lfanew 40)
  return ⟨imageBase, sizeOfImage, addressOfEntryPoint⟩

/-- `sizeof(buf)` in `LoadBootCode`. -/
def bootBufSize : Nat := 0x10000

/-- Do `size` bytes from an offset on stay in a block? -/
abbrev RangeIn (offset size block : Nat) : Prop := size = 0 ∨ offset + size ≤ block

/-- `ImageSize - fsize` -/
def tailSize (imageSize fsize : Nat) : Nat := (imageSize + 2 ^ 32 - fsize) % 2 ^ 32

/-- `LoadBootCode`, on a local buffer with some old contents; the file is `none` when it
does not open. -/
def loadBootCode (vm : VmContext) (ram stack : Memory) :
    Option (List UInt8) → Except LoadFault (Bool × VmContext × Memory)
  | none => .ok (false, vm, ram)
  | some file => do
      let fsize := min file.length bootBufSize
      let buf := memcpy stack 0 (fileBytes file) fsize
      let hdr ← readPeHeader buf fsize
      let buf ← check (RangeIn fsize (tailSize hdr.sizeOfImage fsize) bootBufSize) .outsideBuffer
        (memset buf fsize 0 (tailSize hdr.sizeOfImage fsize))
      let src ← check (RangeIn 0 hdr.sizeOfImage bootBufSize) .outsideBuffer buf
      let ram ← check (RangeIn hdr.imageBase hdr.sizeOfImage vmRamSize) .outsideRam
        (memcpy ram hdr.imageBase src hdr.sizeOfImage)
      return (true, { vm with
        bootStart := UInt32.ofNat (hdr.imageBase + hdr.addressOfEntryPoint) }, ram)

/-- `ftell` at the end of a file, as a `uint32_t`: -1 where a `long` does not hold it. -/
def ftell (length : Nat) : Nat := if length < 2 ^ 31 then length else 2 ^ 32 - 1

/-- `LoadGuestOs`, which reads the file straight into guest RAM. -/
def loadGuestOs (vm : VmContext) (ram : Memory) :
    Option (List UInt8) → Except LoadFault (Bool × VmContext × Memory)
  | none => .ok (false, vm, ram)
  | some file => do
      let fsize := ftell file.length
      let got := min file.length fsize
      let ram ← check (RangeIn osCodePhysicalAddr got vmRamSize) .outsideRam
        (memcpy ram osCodePhysicalAddr (fileBytes file) got)
      if got ≠ fsize then
        return (false, vm, ram)
      else
        let hdr ← readPeHeader (window ram osCodePhysicalAddr) fsize
        return (true, { vm with
          osPhyscialAddress := UInt32.ofNat osCodePhysicalAddr
          osVirtualAddress := UInt32.ofNat hdr.imageBase
          osImageSize := UInt32.ofNat hdr.sizeOfImage
          osEntryPoint := UInt32.ofNat (hdr.imageBase + hdr.addressOfEntryPoint) }, ram)

/-! ### What fits -/

/-- The header that a file has, and where its fields are. -/
def peLfanew (file : List UInt8) : Nat := read32 (fileBytes file) 0x3C

def peHeader (file : List UInt8) : PeHeader where
  imageBase := read32 (fileBytes file) (ntField (peLfanew file) 52)
  sizeOfImage := read32 (fileBytes file) (ntField (peLfanew file) 80)
  addressOfEntryPoint := read32 (fileBytes file) (ntField (peLfanew file) 40)

/-- Every field lies in the first `size` bytes. -/
structure HeaderInside (file : List UInt8) (size : Nat) : Prop where
  dos : 0x40 ≤ size
  entryPoint : 0 ≤ toInt32 (peLfanew file) + 40
  sizeOfImage : toInt32 (peLfanew file) + 84 ≤ size

/-- The image has at least the bytes of the file, and fits the buffer and guest RAM. -/
structure BootImageFits (file : List UInt8) : Prop where
  header : HeaderInside file (min file.length bootBufSize)
  tail : min file.length bootBufSize ≤ (peHeader file).sizeOfImage
  buffer : (peHeader file).sizeOfImage ≤ bootBufSize
  ram : (peHeader file).imageBase + (peHeader file).sizeOfImage ≤ vmRamSize

structure GuestImageFits (file : List UInt8) : Prop where
  header : HeaderInside file file.length
  ram : osCodePhysicalAddr + file.length ≤ vmRamSize

end ShellcodeVM.Loader
