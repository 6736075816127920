import ShellcodeVM.Lib.AccessLog
import ShellcodeVM.Lib.MachineInt

/-!
The guest's text console (`video.cpp`, `video.h`). A row is a NUL-terminated string in a
line buffer of 256 bytes; `m_screen_width` and `m_screen_height` are the last column and
the last row. The fields and the addresses are `uint32_t`.
-/
namespace ShellcodeVM.GuestOS
open Machine

def maxVideoBufSize : Nat := 0x10000
def maxScreenWidth : Nat := 255
def maxScreenHeight : Nat := 255
def lineBufWidth : Nat := 256

/-- The object `VIDEO`. -/
structure Video where
  mVideoBuf : Nat
  mVideoBufSize : Nat
  mScreenWidth : Nat
  mScreenHeight : Nat
  mCursorX : Nat
  mCursorY : Nat
deriving DecidableEq, Repr

/-- `size <= max ? size-1 : max`, for both dimensions. -/
def lastIndex (size max : Nat) : Nat :=
  if size ≤ max then (size + 2 ^ 32 - 1) % 2 ^ 32 else max

/-- `VIDEO::Init`, which sets every field. -/
def Video.init (videoBuf bufSize width height : Nat) : Video where
  mVideoBuf := videoBuf
  mVideoBufSize := bufSize
  mScreenWidth := lastIndex width maxScreenWidth
  mScreenHeight := lastIndex height maxScreenHeight
  mCursorX := 0
  mCursorY := 0

/-- The object and the memory that it writes to. -/
structure Console where
  video : Video
  ram : Ram

namespace Console

/-- `VIDEO::scroll`; `lines` is not negative. -/
def scroll (c : Console) (lines : Nat) : Console where
  video := c.video
  ram := c.ram.memcpy c.video.mVideoBuf (c.video.mVideoBuf + lines * lineBufWidth)
    ((c.video.mScreenHeight + 2 ^ 32 - lines) % 2 ^ 32 * lineBufWidth % 2 ^ 32)

def setX (c : Console) (x : Nat) : Console where
  video := { c.video with mCursorX := x }
  ram := c.ram

/-- The statement that `putc` has twice. -/
def nextRow (c : Console) : Console :=
  if c.video.mCursorY < c.video.mScreenHeight then
    { c with video := { c.video with mCursorY := c.video.mCursorY + 1 } }
  else c.scroll 1

/-- Where `putc` stores the character. -/
def cursor (c : Console) : Nat :=
  c.video.mCursorY * lineBufWidth + c.video.mCursorX

/-- The character goes to the cursor with a NUL behind it. -/
def emit (c : Console) (ch : UInt8) : Console where
  video := { c.video with mCursorX := (c.video.mCursorX + 1) % 2 ^ 32 }
  ram := (c.ram.store (c.video.mVideoBuf + c.cursor) ch).store
    (c.video.mVideoBuf + (c.cursor + 1)) 0

/-- A full row is left only when its next character comes. -/
def wrap (c : Console) : Console :=
  if c.video.mScreenWidth ≤ c.video.mCursorX then (c.setX 0).nextRow else c

/-- `VIDEO::putc`. -/
def putc (c : Console) (ch : UInt8) : Console :=
  if ch = 13 then c.setX 0
  else if ch = 10 then c.nextRow
  else c.wrap.emit ch

/-- `strlen` of the bytes from a pointer on; a NUL follows them. -/
def strlen (str : List UInt8) : Nat := (str.takeWhile (· ≠ 0)).length

/-- `VIDEO::puts`, of a string outside the buffer. The length is kept in an `int`. -/
def puts (c : Console) (str : List UInt8) : Console :=
  (str.take (toInt32 (strlen str)).toNat).foldl putc c

/-- The first passes of the loop of `VIDEO::clear`. -/
def clearRows (c : Console) : Nat → Ram
  | 0 => c.ram
  | n + 1 => (clearRows c n).store (c.video.mVideoBuf + n * lineBufWidth) 0

/-- `VIDEO::clear`; its counter does not overflow on the heights up to 256. -/
def clear (c : Console) : Console where
  video := c.video
  ram := c.clearRows (c.video.mScreenHeight + 1)

/-- `VIDEO::gotoxy`. -/
def gotoxy (c : Console) (x y : Int) : Console where
  video := { c.video with mCursorX := (x % 2 ^ 32).toNat, mCursorY := (y % 2 ^ 32).toNat }
  ram := c.ram

/-- A byte of a row. -/
def byte (c : Console) (row col : Nat) : UInt8 :=
  c.ram.cell c.video.mVideoBuf (row * lineBufWidth + col)

end Console

/-! ### The dimensions that `Init` leaves -/

/-- The rows that the cursor can be in. -/
def Video.bufferSize (v : Video) : Nat := (v.mScreenHeight + 1) * lineBufWidth

theorem lastIndex_bounds {size : Nat} (h : 2 ≤ size) :
    1 ≤ lastIndex size 255 ∧ lastIndex size 255 ≤ 255 := by
  rw [lastIndex]
  split_ifs <;> omega

/-! ### What a character does -/

namespace Console
variable (c : Console)

theorem putc_cr : c.putc 13 = c.setX 0 :=
  if_pos rfl

theorem putc_lf : c.putc 10 = c.nextRow :=
  rfl

theorem putc_other {ch : UInt8} (hcr : ch ≠ 13) (hlf : ch ≠ 10) : c.putc ch = c.wrap.emit ch := by
  rw [putc, if_neg hcr, if_neg hlf]

theorem nextRow_of_lt (h : c.video.mCursorY < c.video.mScreenHeight) :
    c.nextRow = { c with video := { c.video with mCursorY := c.video.mCursorY + 1 } } := by
  rw [nextRow, if_pos h]

theorem nextRow_of_ge (h : c.video.mScreenHeight ≤ c.video.mCursorY) : c.nextRow = c.scroll 1 := by
  rw [nextRow, if_neg (by omega)]

theorem scroll_video (lines : Nat) : (c.scroll lines).video = c.video := by
  rw [scroll]

/-- The bytes that a scroll by one line copies: those of the rows between the top row and
the last. -/
theorem scroll_one (hpos : 1 ≤ c.video.mScreenHeight) (hle : c.video.mScreenHeight ≤ 255) :
    (c.scroll 1).ram = c.ram.memcpy c.video.mVideoBuf (c.video.mVideoBuf + 256)
      ((c.video.mScreenHeight - 1) * 256) := by
  have hlength : (c.video.mScreenHeight + 2 ^ 32 - 1) % 2 ^ 32 * lineBufWidth % 2 ^ 32 =
      (c.video.mScreenHeight - 1) * 256 := by
    rw [lineBufWidth]
    omega
  rw [scroll, hlength]
  rfl

end Console
end ShellcodeVM.GuestOS
