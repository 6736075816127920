import ShellcodeVM.GuestOS.VideoScroll

/-!
The console stays inside its rows. Nothing consults the size of the buffer that `Init`
was given: the bound comes from the cursor, which every operation keeps on the screen.
-/
namespace ShellcodeVM.GuestOS
open Machine

/-- Dimensions as `Init` leaves them for two columns and two rows at least. -/
structure Video.Sized (v : Video) : Prop where
  width_pos : 1 ≤ v.mScreenWidth
  width_le : v.mScreenWidth ≤ 255
  height_pos : 1 ≤ v.mScreenHeight
  height_le : v.mScreenHeight ≤ 255

theorem init_sized (videoBuf bufSize : Nat) {width height : Nat} (hw : 2 ≤ width) (hh : 2 ≤ height) :
    (Video.init videoBuf bufSize width height).Sized :=
  ⟨(lastIndex_bounds hw).1, (lastIndex_bounds hw).2, (lastIndex_bounds hh).1,
    (lastIndex_bounds hh).2⟩

theorem bufferSize_le {v : Video} (h : v.Sized) : v.bufferSize ≤ maxVideoBufSize := by
  have hle := h.height_le
  rw [Video.bufferSize, lineBufWidth, maxVideoBufSize]
  omega

/-- A console that started as the screen `v` over `ram`: the cursor is on the screen, and
only bytes of the rows have been touched. -/
structure InBounds (v : Video) (ram : Ram) (c : Console) : Prop where
  base : c.video.mVideoBuf = v.mVideoBuf
  width : c.video.mScreenWidth = v.mScreenWidth
  height : c.video.mScreenHeight = v.mScreenHeight
  cursorX : c.video.mCursorX ≤ v.mScreenWidth
  cursorY : c.video.mCursorY ≤ v.mScreenHeight
  confined : Ram.Confined v.mVideoBuf v.bufferSize ram c.ram

section
variable {v : Video} {ram : Ram} {c : Console}

theorem init_inBounds (videoBuf bufSize width height : Nat) (ram : Ram) :
    InBounds (Video.init videoBuf bufSize width height) ram
      ⟨Video.init videoBuf bufSize width height, ram⟩ :=
  ⟨rfl, rfl, rfl, Nat.zero_le _, Nat.zero_le _, Ram.Confined.refl _ _ _⟩

theorem InBounds.setX (h : InBounds v ram c) {x : Nat} (hx : x ≤ v.mScreenWidth) :
    InBounds v ram (c.setX x) :=
  ⟨h.base, h.width, h.height, hx, h.cursorY, h.confined⟩

theorem InBounds.bufferSize_eq (h : InBounds v ram c) : c.video.bufferSize = v.bufferSize := by
  rw [Video.bufferSize, h.height, Video.bufferSize]

theorem InBounds.scroll (h : InBounds v ram c) (hv : v.Sized) : InBounds v ram (c.scroll 1) := by
  have hscroll := scroll_confined (c := c) (by rw [h.height]; exact hv.height_pos)
    (by rw [h.height]; exact hv.height_le)
  rw [h.base, h.bufferSize_eq] at hscroll
  refine ⟨?_, ?_, ?_, ?_, ?_, h.confined.trans hscroll⟩
  · rw [c.scroll_video, h.base]
  · rw [c.scroll_video, h.width]
  · rw [c.scroll_video, h.height]
  · rw [c.scroll_video]
    exact h.cursorX
  · rw [c.scroll_video]
    exact h.cursorY

theorem InBounds.nextRow (h : InBounds v ram c) (hv : v.Sized) : InBounds v ram c.nextRow := by
  by_cases hlast : c.video.mCursorY < c.video.mScreenHeight
  · rw [c.nextRow_of_lt hlast]
    have hrow : c.video.mCursorY + 1 ≤ v.mScreenHeight := h.height ▸ hlast
    exact ⟨h.base, h.width, h.height, h.cursorX, hrow, h.confined⟩
  · rw [c.nextRow_of_ge (Nat.le_of_not_lt hlast)]
    exact h.scroll hv

/-- A new row does not move the cursor sideways. -/
theorem nextRow_mCursorX (c : Console) : c.nextRow.video.mCursorX = c.video.mCursorX := by
  by_cases hlast : c.video.mCursorY < c.video.mScreenHeight
  · rw [c.nextRow_of_lt hlast]
  · rw [c.nextRow_of_ge (Nat.le_of_not_lt hlast), c.scroll_video]

theorem InBounds.wrap (h : InBounds v ram c) (hv : v.Sized) :
    InBounds v ram c.wrap ∧ c.wrap.video.mCursorX < v.mScreenWidth := by
  rw [Console.wrap]
  by_cases hfull : c.video.mScreenWidth ≤ c.video.mCursorX
  · rw [if_pos hfull, nextRow_mCursorX]
    exact ⟨(h.setX (Nat.zero_le _)).nextRow hv, hv.width_pos⟩
  · rw [if_neg hfull, ← h.width]
    exact ⟨h, Nat.lt_of_not_le hfull⟩

/-- Where there is room for a character there is room for its NUL. -/
theorem InBounds.emit (h : InBounds v ram c) (hv : v.Sized)
    (hroom : c.video.mCursorX < v.mScreenWidth) (ch : UInt8) : InBounds v ram (c.emit ch) := by
  have hwidth := hv.width_le
  have hrow := h.cursorY
  have hnext : (c.video.mCursorX + 1) % 2 ^ 32 ≤ v.mScreenWidth := by omega
  have hcursor : c.cursor + 1 < v.bufferSize := by
    rw [Console.cursor, Video.bufferSize, lineBufWidth]
    omega
  refine ⟨h.base, h.width, h.height, hnext, h.cursorY, ?_⟩
  rw [Console.emit, h.base]
  exact h.confined.trans ((Ram.Confined.store (by omega) ch).trans (Ram.Confined.store hcursor 0))

theorem InBounds.putc (h : InBounds v ram c) (hv : v.Sized) (ch : UInt8) :
    InBounds v ram (c.putc ch) := by
  by_cases hcr : ch = 13
  · rw [hcr, c.putc_cr]
    exact h.setX (Nat.zero_le _)
  by_cases hlf : ch = 10
  · rw [hlf, c.putc_lf]
    exact h.nextRow hv
  rw [c.putc_other hcr hlf]
  obtain ⟨hwrap, hroom⟩ := h.wrap hv
  exact hwrap.emit hv hroom ch

theorem InBounds.putcs (h : InBounds v ram c) (hv : v.Sized) (str : List UInt8) :
    InBounds v ram (str.foldl Console.putc c) := by
  induction str generalizing c with
  | nil => exact h
  | cons ch str ih => exact ih (h.putc hv ch)

theorem clearRows_confined (c : Console) {n : Nat} (h : n ≤ c.video.mScreenHeight + 1) :
    Ram.Confined c.video.mVideoBuf c.video.bufferSize c.ram (c.clearRows n) := by
  induction n with
  | zero => exact Ram.Confined.refl _ _ _
  | succ n ih =>
      have hstart : n * lineBufWidth < c.video.bufferSize := by
        rw [Video.bufferSize, lineBufWidth]
        omega
      exact (ih (by omega)).trans (Ram.Confined.store hstart 0)

theorem InBounds.clear (h : InBounds v ram c) : InBounds v ram c.clear := by
  have hclear := clearRows_confined c (le_refl _)
  rw [h.base, h.bufferSize_eq] at hclear
  exact ⟨h.base, h.width, h.height, h.cursorX, h.cursorY, h.confined.trans hclear⟩

end

/-! ### Runs -/

inductive Operation where
  | putc (ch : UInt8)
  | puts (str : List UInt8)
  | clear
  | gotoxy (x y : Int)
deriving DecidableEq, Repr

/-- The cursor is only sent to the screen. -/
def Operation.OnScreen (v : Video) : Operation → Prop
  | .gotoxy x y => (0 ≤ x ∧ x ≤ v.mScreenWidth) ∧ 0 ≤ y ∧ y ≤ v.mScreenHeight
  | _ => True

def Console.perform (c : Console) : Operation → Console
  | .putc ch => c.putc ch
  | .puts str => c.puts str
  | .clear => c.clear
  | .gotoxy x y => c.gotoxy x y

def Console.performAll (c : Console) (ops : List Operation) : Console := ops.foldl Console.perform c

theorem InBounds.perform {v : Video} {ram : Ram} {c : Console} (h : InBounds v ram c) (hv : v.Sized)
    {op : Operation} (hop : op.OnScreen v) : InBounds v ram (c.perform op) := by
  cases op with
  | putc ch => exact h.putc hv ch
  | puts str => exact h.putcs hv _
  | clear => exact h.clear
  | gotoxy x y =>
      obtain ⟨⟨hx, hx'⟩, hy, hy'⟩ := hop
      have hcolumn : (x % 2 ^ 32).toNat ≤ v.mScreenWidth := by omega
      have hrow : (y % 2 ^ 32).toNat ≤ v.mScreenHeight := by omega
      exact ⟨h.base, h.width, h.height, hcolumn, hrow, h.confined⟩

theorem InBounds.performAll {v : Video} {ram : Ram} {c : Console} (h : InBounds v ram c)
    (hv : v.Sized) {ops : List Operation} (hops : ∀ op ∈ ops, op.OnScreen v) :
    InBounds v ram (c.performAll ops) := by
  induction ops generalizing c with
  | nil => exact h
  | cons op ops ih =>
      exact ih (h.perform hv (hops op List.mem_cons_self))
        fun op' hop' => hops op' (List.mem_cons_of_mem op hop')

/-! ### The two stores of `putc` -/

/-- The bytes that `putc` itself stores from `c` on lie in the row where it leaves the
cursor; a scroll that it makes before copies. -/
def StoresInRow (c c' : Console) : Prop :=
  ∃ new, c'.ram.log = new ++ c.ram.log ∧ ∀ a, Access.store a ∈ new →
    Ram.Within (c'.video.mVideoBuf + c'.video.mCursorY * lineBufWidth) lineBufWidth a

/-- Everything but the character itself only copies. -/
def CopiesOnly (c c' : Console) : Prop :=
  ∃ new, c'.ram.log = new ++ c.ram.log ∧ ∀ a, Access.store a ∉ new

section
variable {v : Video} {ram : Ram} {c : Console}

theorem CopiesOnly.storesInRow {c' : Console} (h : CopiesOnly c c') : StoresInRow c c' := by
  obtain ⟨new, hlog, hnew⟩ := h
  exact ⟨new, hlog, fun a ha => absurd ha (hnew a)⟩

theorem copiesOnly_of_log_eq {c' : Console} (h : c'.ram.log = c.ram.log) : CopiesOnly c c' :=
  ⟨[], h, fun _ => List.not_mem_nil⟩

theorem nextRow_copiesOnly (c : Console) : CopiesOnly c c.nextRow := by
  by_cases hlast : c.video.mCursorY < c.video.mScreenHeight
  · rw [c.nextRow_of_lt hlast]
    exact copiesOnly_of_log_eq rfl
  · rw [c.nextRow_of_ge (Nat.le_of_not_lt hlast), Console.scroll]
    exact Ram.memcpy_log _ _ _ _

theorem wrap_copiesOnly (c : Console) : CopiesOnly c c.wrap := by
  rw [Console.wrap]
  split_ifs
  · exact nextRow_copiesOnly (c.setX 0)
  · exact copiesOnly_of_log_eq rfl

theorem emit_storesInRow (hv : v.Sized)
    (hroom : c.video.mCursorX < v.mScreenWidth) (ch : UInt8) : StoresInRow c (c.emit ch) := by
  have hwidth := hv.width_le
  have hspot : c.video.mVideoBuf + c.cursor =
      c.video.mVideoBuf + c.video.mCursorY * lineBufWidth + c.video.mCursorX := by
    rw [Console.cursor, Nat.add_assoc]
  have hnul : c.video.mVideoBuf + (c.cursor + 1) =
      c.video.mVideoBuf + c.video.mCursorY * lineBufWidth + (c.video.mCursorX + 1) := by
    rw [Console.cursor, Nat.add_assoc, Nat.add_assoc]
  refine ⟨[.store ((c.video.mVideoBuf + (c.cursor + 1)) % 2 ^ 32),
    .store ((c.video.mVideoBuf + c.cursor) % 2 ^ 32)], rfl, ?_⟩
  rw [hspot, hnul]
  intro a ha
  simp only [List.mem_cons, Access.store.injEq, List.not_mem_nil, or_false] at ha
  rcases ha with rfl | rfl
  · exact Ram.within_add _ (by rw [lineBufWidth]; omega)
  · exact Ram.within_add _ (by rw [lineBufWidth]; omega)

theorem InBounds.putc_storesInRow (h : InBounds v ram c) (hv : v.Sized) (ch : UInt8) :
    StoresInRow c (c.putc ch) := by
  by_cases hcr : ch = 13
  · rw [hcr, c.putc_cr]
    exact (copiesOnly_of_log_eq rfl).storesInRow
  by_cases hlf : ch = 10
  · rw [hlf, c.putc_lf]
    exact (nextRow_copiesOnly c).storesInRow
  rw [c.putc_other hcr hlf]
  obtain ⟨hwrap, hroom⟩ := h.wrap hv
  obtain ⟨copied, hcopied, hnone⟩ := wrap_copiesOnly c
  obtain ⟨stored, hstored, hrow⟩ := emit_storesInRow hv hroom ch
  refine ⟨stored ++ copied, ?_, ?_⟩
  · rw [hstored, hcopied, List.append_assoc]
  · intro a ha
    rcases List.mem_append.mp ha with ha | ha
    · exact hrow a ha
    · exact absurd ha (hnone a)

end

/-- The console after any operations that keep to the screen, and after one character
more. -/
structure StaysInBuffer (v : Video) (ram : Ram) (c : Console) : Prop where
  inBounds : InBounds v ram c
  size : v.bufferSize ≤ maxVideoBufSize
  putc : ∀ ch, StoresInRow c (c.putc ch)

theorem console_stays_in_buffer (videoBuf bufSize : Nat) {width height : Nat} (hw : 2 ≤ width)
    (hh : 2 ≤ height) (ram : Ram) {ops : List Operation}
    (hops : ∀ op ∈ ops, op.OnScreen (Video.init videoBuf bufSize width height)) :
    StaysInBuffer (Video.init videoBuf bufSize width height) ram
      (Console.performAll ⟨Video.init videoBuf bufSize width height, ram⟩ ops) := by
  have hv := init_sized videoBuf bufSize hw hh
  have hrun := (init_inBounds videoBuf bufSize width height ram).performAll hv hops
  exact ⟨hrun, bufferSize_le hv, hrun.putc_storesInRow hv⟩

theorem guest_console_stays_in_buffer :
    (2 ≤ 300 ∧ ∀ op ∈ [Operation.gotoxy 255 255, .putc 0x41, .putc 10, .puts [0x42, 0x43], .clear],
      op.OnScreen (Video.init 0xC0500000 0x200000 300 300)) ∧
    StaysInBuffer (Video.init 0xC0500000 0x200000 300 300) ⟨fun _ => 0, []⟩
      (Console.performAll ⟨Video.init 0xC0500000 0x200000 300 300, ⟨fun _ => 0, []⟩⟩
        [.gotoxy 255 255, .putc 0x41, .putc 10, .puts [0x42, 0x43], .clear]) := by
  have hops : ∀ op ∈ [Operation.gotoxy 255 255, .putc 0x41, .putc 10, .puts [0x42, 0x43], .clear],
      op.OnScreen (Video.init 0xC0500000 0x200000 300 300) := by
    intro op hop
    simp only [List.mem_cons, List.not_mem_nil, or_false] at hop
    rcases hop with rfl | rfl | rfl | rfl | rfl
    · exact ⟨⟨by decide, by decide⟩, by decide, by decide⟩
    all_goals trivial
  exact ⟨⟨by decide, hops⟩, console_stays_in_buffer _ _ (by decide) (by decide) _ hops⟩

end ShellcodeVM.GuestOS
