import ShellcodeVM.GuestOS.Video

/-!
What a new line does on the bottom row. `m_screen_height` is the index of that row, and
`scroll` takes it for the number of rows: the copy ends one row early, and nothing
clears the bottom row.
-/
namespace ShellcodeVM.GuestOS
open Machine

/-- The text moves up by a line: the bottom row becomes empty, and nothing outside the
rows is touched. -/
structure ScrollsUp (c c' : Console) : Prop where
  rows : ∀ k, k < c.video.mScreenHeight → ∀ j, j < lineBufWidth → c'.byte k j = c.byte (k + 1) j
  bottom : c'.byte c.video.mScreenHeight 0 = 0
  confined : Ram.Confined c.video.mVideoBuf c.video.bufferSize c.ram c'.ram

/-- The screen already shows at its bottom what a scrolled screen shows there. -/
structure BottomScrolled (c : Console) : Prop where
  rows : ∀ j, j < lineBufWidth →
    c.byte (c.video.mScreenHeight - 1) j = c.byte c.video.mScreenHeight j
  bottom : c.byte c.video.mScreenHeight 0 = 0

section
variable {c : Console}

theorem scroll_confined (hpos : 1 ≤ c.video.mScreenHeight) (hle : c.video.mScreenHeight ≤ 255) :
    Ram.Confined c.video.mVideoBuf c.video.bufferSize c.ram (c.scroll 1).ram := by
  rw [c.scroll_one hpos hle, Video.bufferSize, lineBufWidth]
  exact Ram.Confined.memcpy (by omega)

/-- Row by row, `scroll` leaves the last two rows as they are. -/
theorem scroll_byte (hpos : 1 ≤ c.video.mScreenHeight) (hle : c.video.mScreenHeight ≤ 255)
    {k j : Nat} (hk : k ≤ c.video.mScreenHeight) (hj : j < lineBufWidth) :
    (c.scroll 1).byte k j =
      if k + 1 < c.video.mScreenHeight then c.byte (k + 1) j else c.byte k j := by
  rw [lineBufWidth] at hj
  have hcopied : k * 256 + j < (c.video.mScreenHeight - 1) * 256 ↔
      k + 1 < c.video.mScreenHeight := by
    omega
  have hnext : 256 + (k * 256 + j) = (k + 1) * 256 + j := by
    omega
  simp only [Console.byte, c.scroll_video, c.scroll_one hpos hle, lineBufWidth]
  rw [Ram.cell_memcpy _ _ _ (by omega) (by omega), hnext]
  simp only [hcopied]

theorem scroll_scrollsUp_iff (hpos : 1 ≤ c.video.mScreenHeight)
    (hle : c.video.mScreenHeight ≤ 255) : ScrollsUp c (c.scroll 1) ↔ BottomScrolled c := by
  have hlast : c.video.mScreenHeight - 1 + 1 = c.video.mScreenHeight := Nat.sub_add_cancel hpos
  have hbottom : (c.scroll 1).byte c.video.mScreenHeight 0 = c.byte c.video.mScreenHeight 0 := by
    rw [scroll_byte hpos hle (le_refl _) (by decide), if_neg (by omega)]
  constructor
  · intro h
    refine ⟨?_, hbottom.symm.trans h.bottom⟩
    intro j hj
    have hrow := h.rows (c.video.mScreenHeight - 1) (by omega) j hj
    rw [scroll_byte hpos hle (by omega) hj, if_neg (by omega), hlast] at hrow
    exact hrow
  · intro h
    refine ⟨?_, hbottom.trans h.bottom, scroll_confined hpos hle⟩
    intro k hk j hj
    rw [scroll_byte hpos hle (by omega) hj]
    by_cases hcopied : k + 1 < c.video.mScreenHeight
    · rw [if_pos hcopied]
    · have hrow : k = c.video.mScreenHeight - 1 := by omega
      rw [if_neg hcopied, hrow, h.rows j hj, hlast]

end

/-- The console that `Init` leaves, with the cursor on the bottom row. -/
def bottomConsole (videoBuf bufSize width height x : Nat) (ram : Ram) : Console where
  video :=
    let v := Video.init videoBuf bufSize width height
    { v with mCursorX := x, mCursorY := v.mScreenHeight }
  ram := ram

theorem bottomConsole_height (videoBuf bufSize width height x : Nat) (ram : Ram) :
    (bottomConsole videoBuf bufSize width height x ram).video.mScreenHeight =
      lastIndex height 255 :=
  rfl

theorem bottomConsole_newLine (videoBuf bufSize width height x : Nat) (ram : Ram) :
    (bottomConsole videoBuf bufSize width height x ram).putc 10 =
      (bottomConsole videoBuf bufSize width height x ram).scroll 1 := by
  rw [Console.putc_lf, Console.nextRow_of_ge]
  exact le_refl _

/-- A new line on the bottom row scrolls as it should exactly when the last two rows are
equal, and empty, already. -/
theorem newLine_scrollsUp_iff (videoBuf bufSize width x : Nat) {height : Nat} (h : 2 ≤ height)
    (ram : Ram) :
    ScrollsUp (bottomConsole videoBuf bufSize width height x ram)
        ((bottomConsole videoBuf bufSize width height x ram).putc 10) ↔
      BottomScrolled (bottomConsole videoBuf bufSize width height x ram) := by
  obtain ⟨hpos, hle⟩ := lastIndex_bounds h
  rw [← bottomConsole_height videoBuf bufSize width height x ram] at hpos hle
  rw [bottomConsole_newLine]
  exact scroll_scrollsUp_iff hpos hle

/-- The guest's screen of 100 rows, with a text on the last of them. -/
def fullConsole : Console :=
  bottomConsole 0xC0500000 0x200000 100 100 1
    ⟨fun a => if a = 0xC0500000 + 99 * 256 then 0x41 else 0, []⟩

theorem newLine_scrollsUp_fullConsole :
    2 ≤ 100 ∧ (ScrollsUp fullConsole (fullConsole.putc 10) ↔ BottomScrolled fullConsole) :=
  ⟨by decide, newLine_scrollsUp_iff 0xC0500000 0x200000 100 1 (by decide)
    ⟨fun a => if a = 0xC0500000 + 99 * 256 then 0x41 else 0, []⟩⟩

theorem fullConsole_byte {k : Nat} (h : k ≤ 99) :
    fullConsole.byte k 0 = if k = 99 then 0x41 else 0 := by
  have haddr : (0xC0500000 + (k * 256 + 0)) % 2 ^ 32 = 0xC0500000 + 99 * 256 ↔ k = 99 := by
    omega
  simp only [Console.byte, Ram.cell, fullConsole, bottomConsole, Video.init, lineBufWidth, haddr]

/-- The last line is not moved up: it stays where it was, and the new bottom row is not
empty. -/
theorem newLine_keeps_last_line :
    fullConsole.byte 99 0 = 0x41 ∧ (fullConsole.putc 10).byte 99 0 = 0x41 ∧
      (fullConsole.putc 10).byte 98 0 = 0 ∧
      ¬ ScrollsUp fullConsole (fullConsole.putc 10) := by
  have hbyte : ∀ k, k ≤ 99 → (fullConsole.putc 10).byte k 0 =
      if k + 1 < 99 then fullConsole.byte (k + 1) 0 else fullConsole.byte k 0 := by
    intro k hk
    rw [fullConsole, bottomConsole_newLine]
    exact scroll_byte (by decide) (by decide) hk (by decide)
  have hlast : fullConsole.byte 99 0 = 0x41 := fullConsole_byte (le_refl 99)
  have hbottom : (fullConsole.putc 10).byte 99 0 = 0x41 := by
    rw [hbyte 99 (by decide), if_neg (by decide), hlast]
  have habove : (fullConsole.putc 10).byte 98 0 = 0 := by
    rw [hbyte 98 (by decide), if_neg (by decide), fullConsole_byte (by decide), if_neg (by decide)]
  refine ⟨hlast, hbottom, habove, ?_⟩
  intro h
  have hempty : (fullConsole.putc 10).byte 99 0 = 0 := h.bottom
  rw [hbottom] at hempty
  exact absurd hempty (by decide)

end ShellcodeVM.GuestOS
