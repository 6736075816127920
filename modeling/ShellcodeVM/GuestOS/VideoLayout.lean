import Mathlib.Data.List.TakeWhile
import ShellcodeVM.Lib.Chunks
import ShellcodeVM.GuestOS.VideoBounds

/-!
Text on a clear screen. The rows that have been typed, up to the cursor, are all that
the buffer holds; a character goes to the end of the last of them or, when that one is
full, to a new one, which is how the lines are cut into chunks.
-/
namespace ShellcodeVM.GuestOS
open Machine

/-- The rows as they are read: each up to its NUL. -/
def Console.rowString (c : Console) (row : Nat) : List UInt8 :=
  ((List.range lineBufWidth).map (c.byte row)).takeWhile (· ≠ 0)

def Console.rows (c : Console) : List (List UInt8) :=
  (List.range (c.video.mScreenHeight + 1)).map c.rowString

/-- A character with no effect of its own. -/
def Plain (ch : UInt8) : Prop := ch ≠ 0 ∧ ch ≠ 13 ∧ ch ≠ 10

/-- `"\r\n"` -/
def lineEnd : List UInt8 := [13, 10]

/-- The byte that some rows of text put at a place: their own, or zero. -/
def shown (rows : List (List UInt8)) (k j : Nat) : UInt8 := (rows.getD k []).getD j 0

theorem shown_snoc (rows : List (List UInt8)) (row : List UInt8) (k j : Nat) :
    shown (rows ++ [row]) k j = if k = rows.length then row.getD j 0 else shown rows k j := by
  rw [shown, shown]
  rcases Nat.lt_trichotomy k rows.length with h | h | h
  · rw [List.getD_append _ _ _ _ h, if_neg (by omega)]
  · rw [List.getD_append_right _ _ _ _ (by omega), if_pos h, h, Nat.sub_self]
    rfl
  · have hout : (rows ++ [row]).length ≤ k := by
      rw [List.length_append, List.length_singleton]
      omega
    rw [List.getD_eq_default _ _ hout, if_neg (by omega), List.getD_eq_default rows _ (by omega)]

theorem getD_snoc (row : List UInt8) (ch : UInt8) (j : Nat) :
    (row ++ [ch]).getD j 0 =
      if j = row.length then ch else if j = row.length + 1 then 0 else row.getD j 0 := by
  rcases Nat.lt_trichotomy j row.length with h | h | h
  · rw [List.getD_append _ _ _ _ h, if_neg (by omega), if_neg (by omega)]
  · rw [List.getD_append_right _ _ _ _ (by omega), if_pos h, h, Nat.sub_self]
    rfl
  · have hout : (row ++ [ch]).length ≤ j := by
      rw [List.length_append, List.length_singleton]
      omega
    rw [List.getD_eq_default _ _ hout, if_neg (by omega), List.getD_eq_default row _ (by omega),
      ite_self]

/-- The screen shows the rows typed, and the cursor is behind the last of them. -/
structure Typed (v : Video) (typed : List (List UInt8)) (last : List UInt8) (c : Console) :
    Prop where
  base : c.video.mVideoBuf = v.mVideoBuf
  width : c.video.mScreenWidth = v.mScreenWidth
  height : c.video.mScreenHeight = v.mScreenHeight
  cursorX : c.video.mCursorX = last.length
  cursorY : c.video.mCursorY = typed.length
  fits : last.length ≤ v.mScreenWidth
  bytes : ∀ k, k ≤ v.mScreenHeight → ∀ j, j < lineBufWidth →
    c.byte k j = shown (typed ++ [last]) k j

section
variable {v : Video} {c : Console} {typed : List (List UInt8)} {last : List UInt8}

/-- A character and its NUL change two bytes of the cursor's row. -/
theorem emit_byte (c : Console) (ch : UInt8) {k j : Nat} (hk : k ≤ 255) (hj : j < 256)
    (hx : c.video.mCursorX < 255) (hy : c.video.mCursorY ≤ 255) :
    (c.emit ch).byte k j =
      if k = c.video.mCursorY then
        if j = c.video.mCursorX then ch else if j = c.video.mCursorX + 1 then 0 else c.byte k j
      else c.byte k j := by
  simp only [Console.byte, Console.emit, Console.cursor, lineBufWidth]
  by_cases hnul : k * 256 + j = c.video.mCursorY * 256 + c.video.mCursorX + 1
  · have hrow : k = c.video.mCursorY := by omega
    have hcol : j = c.video.mCursorX + 1 := by omega
    rw [hnul, Ram.cell_store_same, if_pos hrow, if_neg (by omega), if_pos hcol]
  rw [Ram.cell_store_of_ne _ _ _ (by omega) (by omega) hnul]
  by_cases hchar : k * 256 + j = c.video.mCursorY * 256 + c.video.mCursorX
  · have hrow : k = c.video.mCursorY := by omega
    have hcol : j = c.video.mCursorX := by omega
    rw [hchar, Ram.cell_store_same, if_pos hrow, if_pos hcol]
  rw [Ram.cell_store_of_ne _ _ _ (by omega) (by omega) hchar]
  by_cases hrow : k = c.video.mCursorY
  · rw [if_pos hrow, if_neg (by omega), if_neg (by omega)]
  · rw [if_neg hrow]

theorem Typed.emit (h : Typed v typed last c) (hw : v.mScreenWidth ≤ 255)
    (hh : v.mScreenHeight ≤ 255) (hrow : typed.length ≤ v.mScreenHeight)
    (hroom : last.length < v.mScreenWidth) (ch : UInt8) :
    Typed v typed (last ++ [ch]) (c.emit ch) := by
  have hcursor : (c.video.mCursorX + 1) % 2 ^ 32 = (last ++ [ch]).length := by
    rw [h.cursorX, List.length_append, List.length_singleton]
    omega
  refine ⟨h.base, h.width, h.height, hcursor, h.cursorY, ?_, ?_⟩
  · rw [List.length_append, List.length_singleton]
    exact hroom
  · intro k hk j hj
    rw [emit_byte c ch (by omega) hj (by rw [h.cursorX]; omega) (by rw [h.cursorY]; omega),
      h.cursorX, h.cursorY, h.bytes k hk j hj, shown_snoc, shown_snoc, getD_snoc]
    by_cases hlast : k = typed.length
    · simp only [if_pos hlast]
    · simp only [if_neg hlast]

theorem Typed.newRow (h : Typed v typed last c) (hrow : typed.length + 1 ≤ v.mScreenHeight) :
    Typed v (typed ++ [last]) [] (c.setX 0).nextRow := by
  have hbelow : (c.setX 0).video.mCursorY < (c.setX 0).video.mScreenHeight := by
    change c.video.mCursorY < c.video.mScreenHeight
    rw [h.cursorY, h.height]
    exact hrow
  rw [Console.nextRow_of_lt _ hbelow]
  have hcursor : c.video.mCursorY + 1 = (typed ++ [last]).length := by
    rw [h.cursorY, List.length_append, List.length_singleton]
  refine ⟨h.base, h.width, h.height, rfl, hcursor, Nat.zero_le _, ?_⟩
  intro k hk j hj
  have hbyte := h.bytes k hk j hj
  rw [shown_snoc]
  by_cases hnew : k = (typed ++ [last]).length
  · -- nothing has been typed in the row that is begun
    have hout : (typed ++ [last]).length ≤ k := by omega
    rw [shown, List.getD_eq_default _ _ hout] at hbyte
    rw [if_pos hnew]
    exact hbyte
  · rw [if_neg hnew]
    exact hbyte

/-- The characters of a line go where the chunks of the line have them. What the last row
has already counts as the line's beginning. -/
theorem Typed.line (h : Typed v typed last c) (hpos : 0 < v.mScreenWidth)
    (hw : v.mScreenWidth ≤ 255) (hh : v.mScreenHeight ≤ 255) {line : List UInt8}
    (hplain : ∀ ch ∈ line, Plain ch)
    (hfit : typed.length + (chunks v.mScreenWidth (last ++ line)).length ≤ v.mScreenHeight + 1) :
    ∃ typed' last', typed' ++ [last'] = typed ++ chunks v.mScreenWidth (last ++ line) ∧
      Typed v typed' last' (line.foldl Console.putc c) := by
  induction line generalizing c typed last with
  | nil =>
      rw [List.append_nil, chunks_of_length_le h.fits]
      exact ⟨typed, last, rfl, h⟩
  | cons ch line ih =>
      obtain ⟨-, hcr, hlf⟩ := hplain ch List.mem_cons_self
      have hrest : ∀ ch ∈ line, Plain ch := fun ch' h' => hplain ch' (List.mem_cons_of_mem ch h')
      rw [List.foldl_cons, c.putc_other hcr hlf, Console.wrap]
      by_cases hfull : c.video.mScreenWidth ≤ c.video.mCursorX
      · -- the row is full: the character begins a new one
        have hlast : last.length = v.mScreenWidth := by
          rw [h.width, h.cursorX] at hfull
          exact Nat.le_antisymm h.fits hfull
        rw [chunks_append hpos hlast (List.cons_ne_nil ch line)] at hfit ⊢
        rw [List.length_cons, length_chunks hpos] at hfit
        have hbegun := h.newRow (by omega)
        have hlength : (typed ++ [last]).length = typed.length + 1 := by
          rw [List.length_append, List.length_singleton]
        have hemitted := hbegun.emit hw hh (by omega) hpos ch
        obtain ⟨typed', last', hrows, htyped⟩ := ih hemitted hrest (by
          change (typed ++ [last]).length + (chunks v.mScreenWidth (ch :: line)).length ≤ _
          rw [length_chunks hpos]
          omega)
        rw [if_pos hfull]
        refine ⟨typed', last', ?_, htyped⟩
        rw [hrows, List.append_assoc]
        rfl
      · have hroom : last.length < v.mScreenWidth := by
          rw [h.width, h.cursorX] at hfull
          exact Nat.lt_of_not_le hfull
        have hmove : last ++ ch :: line = last ++ [ch] ++ line := by
          rw [List.append_assoc]
          rfl
        rw [hmove] at hfit ⊢
        have hchunk := length_chunks hpos (last ++ [ch] ++ line)
        have hemitted := h.emit hw hh (by omega) hroom ch
        rw [if_neg hfull]
        exact ih hemitted hrest hfit

/-- `"\r\n"` begins a new row. -/
theorem Typed.lineEnd (h : Typed v typed last c) (hrow : typed.length + 1 ≤ v.mScreenHeight) :
    Typed v (typed ++ [last]) [] (lineEnd.foldl Console.putc c) :=
  h.newRow hrow

/-- The rows that lines take up. -/
def layout (w : Nat) (lines : List (List UInt8)) : List (List UInt8) := lines.flatMap (chunks w)

theorem Typed.lines (h : Typed v typed [] c) (hpos : 0 < v.mScreenWidth)
    (hw : v.mScreenWidth ≤ 255) (hh : v.mScreenHeight ≤ 255) {line : List UInt8}
    {lines : List (List UInt8)} (hplain : ∀ l ∈ line :: lines, ∀ ch ∈ l, Plain ch)
    (hfit : typed.length + (layout v.mScreenWidth (line :: lines)).length ≤ v.mScreenHeight + 1) :
    ∃ typed' last', typed' ++ [last'] = typed ++ layout v.mScreenWidth (line :: lines) ∧
      Typed v typed' last'
        ((List.intercalate GuestOS.lineEnd (line :: lines)).foldl Console.putc c) := by
  induction lines generalizing c typed line with
  | nil =>
      have hsingle : layout v.mScreenWidth [line] = chunks v.mScreenWidth line := by
        rw [layout, List.flatMap_singleton]
      rw [hsingle] at hfit ⊢
      rw [List.intercalate_singleton]
      exact h.line hpos hw hh (hplain line List.mem_cons_self) hfit
  | cons next lines ih =>
      have hcons : layout v.mScreenWidth (line :: next :: lines) =
          chunks v.mScreenWidth line ++ layout v.mScreenWidth (next :: lines) := List.flatMap_cons
      have hnext : 1 ≤ (layout v.mScreenWidth (next :: lines)).length := by
        rw [layout, List.flatMap_cons, List.length_append, length_chunks hpos]
        omega
      rw [hcons, List.length_append] at hfit
      obtain ⟨typed₁, last₁, hrows₁, htyped₁⟩ := h.line hpos hw hh
        (hplain line List.mem_cons_self) (by rw [List.nil_append]; omega)
      have hlength := congrArg List.length hrows₁
      rw [List.nil_append] at hrows₁
      rw [List.nil_append, List.length_append, List.length_append, List.length_singleton] at hlength
      obtain ⟨typed₂, last₂, hrows₂, htyped₂⟩ := ih (htyped₁.lineEnd (by omega))
        (fun l hl => hplain l (List.mem_cons_of_mem line hl))
        (by rw [List.length_append, List.length_singleton]; omega)
      rw [List.intercalate_cons_cons, List.foldl_append, List.foldl_append]
      refine ⟨typed₂, last₂, ?_, htyped₂⟩
      rw [hrows₂, hrows₁, hcons, List.append_assoc]

/-! ### Reading the rows -/

/-- A row that holds some characters and zeros behind them reads as these characters. -/
theorem rowString_eq {row : List UInt8} {k : Nat} (hlen : row.length < lineBufWidth)
    (hchars : ∀ ch ∈ row, ch ≠ 0) (h : ∀ j, j < lineBufWidth → c.byte k j = row.getD j 0) :
    c.rowString k = row := by
  have hbytes : (List.range lineBufWidth).map (c.byte k) =
      row ++ List.replicate (lineBufWidth - row.length) 0 := by
    rw [← map_getD_range row 0 (by omega)]
    exact List.map_congr_left fun j hj => h j (List.mem_range.mp hj)
  have hnul : (List.replicate (lineBufWidth - row.length) (0 : UInt8)).takeWhile (· ≠ 0) = [] := by
    rw [List.takeWhile_replicate]
    rfl
  rw [Console.rowString, hbytes,
    List.takeWhile_append_of_pos fun ch hch => decide_eq_true (hchars ch hch), hnul,
    List.append_nil]

theorem rows_eq {rows : List (List UInt8)} (hlength : rows.length ≤ v.mScreenHeight + 1)
    (hheight : c.video.mScreenHeight = v.mScreenHeight)
    (hrows : ∀ row ∈ rows, row.length < lineBufWidth ∧ ∀ ch ∈ row, ch ≠ 0)
    (hbytes : ∀ k, k ≤ v.mScreenHeight → ∀ j, j < lineBufWidth → c.byte k j = shown rows k j) :
    c.rows = rows ++ List.replicate (v.mScreenHeight + 1 - rows.length) [] := by
  have hrow : ∀ k, (rows.getD k []).length < lineBufWidth ∧ ∀ ch ∈ rows.getD k [], ch ≠ 0 := by
    intro k
    by_cases hin : k < rows.length
    · rw [List.getD_eq_getElem _ _ hin]
      exact hrows _ (List.getElem_mem hin)
    · rw [List.getD_eq_default _ _ (by omega)]
      exact ⟨by decide, fun ch hch => absurd hch List.not_mem_nil⟩
  rw [Console.rows, hheight, ← map_getD_range rows [] hlength]
  apply List.map_congr_left
  intro k hk
  rw [List.mem_range] at hk
  exact rowString_eq (hrow k).1 (hrow k).2 (hbytes k (by omega))

/-- The text is short enough for the `int` that `puts` keeps its length in. -/
theorem length_lines {w : Nat} (hpos : 0 < w) (lines : List (List UInt8)) :
    (List.intercalate lineEnd lines).length ≤ (w + 2) * (layout w lines).length := by
  induction lines with
  | nil => exact Nat.zero_le _
  | cons line lines ih =>
      have hline := length_le_chunks hpos line
      have hchunks := length_chunks hpos line
      rw [layout, List.flatMap_cons, List.length_append, Nat.mul_add, Nat.add_mul]
      cases lines with
      | nil =>
          rw [List.intercalate_singleton]
          omega
      | cons next lines =>
          rw [List.intercalate_cons_cons, List.length_append, List.length_append]
          have hend : lineEnd.length = 2 := rfl
          rw [layout] at ih
          omega

theorem mem_lines {lines : List (List UInt8)} (hplain : ∀ l ∈ lines, ∀ ch ∈ l, Plain ch) :
    ∀ ch ∈ List.intercalate lineEnd lines, ch ≠ 0 := by
  induction lines with
  | nil => exact fun ch hch => absurd hch List.not_mem_nil
  | cons line lines ih =>
      have hline : ∀ ch ∈ line, ch ≠ 0 := fun ch hch => (hplain line List.mem_cons_self ch hch).1
      cases lines with
      | nil =>
          rw [List.intercalate_singleton]
          exact hline
      | cons next lines =>
          rw [List.intercalate_cons_cons]
          intro ch hch
          rcases List.mem_append.mp hch with hch | hch
          · rcases List.mem_append.mp hch with hch | hch
            · exact hline ch hch
            · rcases List.mem_cons.mp hch with rfl | hch
              · decide
              · cases List.mem_singleton.mp hch
                decide
          · exact ih (fun l hl => hplain l (List.mem_cons_of_mem line hl)) ch hch

/-- `puts` of a string without NUL that an `int` can count. -/
theorem puts_eq (c : Console) {str : List UInt8} (hchars : ∀ ch ∈ str, ch ≠ 0)
    (hlen : str.length < 2 ^ 31) : c.puts str = str.foldl Console.putc c := by
  have hstrlen : Console.strlen str = str.length := by
    rw [Console.strlen, List.takeWhile_eq_self_iff.mpr fun ch hch => decide_eq_true (hchars ch hch)]
  rw [Console.puts, hstrlen, toInt32_small hlen, Int.toNat_natCast, List.take_length]

end

/-- The rows are a buffer of the address space, and clear. -/
structure ClearBuffer (c : Console) : Prop where
  fits : c.video.bufferSize ≤ 2 ^ 32
  zero : ∀ i, i < c.video.bufferSize → c.ram.cell c.video.mVideoBuf i = 0

/-- `max(1, ceil(len/W))` -/
def rowCount (w : Nat) (line : List UInt8) : Nat := max 1 ((line.length + w - 1) / w)

theorem length_layout {w : Nat} (hpos : 0 < w) (lines : List (List UInt8)) :
    (layout w lines).length = (lines.map (rowCount w)).sum := by
  rw [layout, List.length_flatMap]
  congr 1
  exact List.map_congr_left fun line _ => length_chunks hpos line

theorem mem_layout {w : Nat} (hpos : 0 < w) (hw : w ≤ 255) {lines : List (List UInt8)}
    (hplain : ∀ l ∈ lines, ∀ ch ∈ l, Plain ch) {row : List UInt8} (h : row ∈ layout w lines) :
    row.length < lineBufWidth ∧ ∀ ch ∈ row, ch ≠ 0 := by
  obtain ⟨line, hline, hrow⟩ := List.mem_flatMap.mp h
  obtain ⟨hlen, hmem⟩ := mem_chunks hpos line hrow
  refine ⟨?_, fun ch hch => (hplain line hline ch (hmem ch hch)).1⟩
  rw [lineBufWidth]
  omega

/-- The rows of a screen that shows lines from its top on. -/
def screenRows (v : Video) (lines : List (List UInt8)) : List (List UInt8) :=
  layout v.mScreenWidth lines ++
    List.replicate (v.mScreenHeight + 1 - (layout v.mScreenWidth lines).length) []

/-- A buffer for the rows fits the address space at no height but those of `Init`'s
bound. -/
theorem init_height_le {videoBuf bufSize width height : Nat}
    (h : (Video.init videoBuf bufSize width height).bufferSize ≤ 2 ^ 32) :
    (Video.init videoBuf bufSize width height).mScreenHeight ≤ 255 := by
  change (lastIndex height 255 + 1) * 256 ≤ 2 ^ 32 at h
  change lastIndex height 255 ≤ 255
  rw [lastIndex] at h ⊢
  split_ifs at h ⊢ <;> omega

/-- On a clear screen the lines of a text are cut into rows of the screen's width, and
the rows behind them stay empty. -/
theorem puts_lays_out (videoBuf bufSize height : Nat) {width : Nat} (hwidth : 2 ≤ width) {ram : Ram}
    (hclear : ClearBuffer ⟨Video.init videoBuf bufSize width height, ram⟩)
    {lines : List (List UInt8)} (hplain : ∀ l ∈ lines, ∀ ch ∈ l, Plain ch)
    (hfit : (lines.map (rowCount (Video.init videoBuf bufSize width height).mScreenWidth)).sum ≤
      (Video.init videoBuf bufSize width height).mScreenHeight + 1) :
    (Console.puts ⟨Video.init videoBuf bufSize width height, ram⟩
        (List.intercalate lineEnd lines)).rows =
      screenRows (Video.init videoBuf bufSize width height) lines := by
  obtain ⟨hpos, hw⟩ : 1 ≤ (Video.init videoBuf bufSize width height).mScreenWidth ∧
      (Video.init videoBuf bufSize width height).mScreenWidth ≤ 255 := lastIndex_bounds hwidth
  have hcursorX : (Video.init videoBuf bufSize width height).mCursorX = 0 := rfl
  have hcursorY : (Video.init videoBuf bufSize width height).mCursorY = 0 := rfl
  have hh : (Video.init videoBuf bufSize width height).mScreenHeight ≤ 255 :=
    init_height_le hclear.fits
  generalize Video.init videoBuf bufSize width height = v at *
  rw [← length_layout hpos] at hfit
  have hlen := length_lines hpos lines
  have hshort : (v.mScreenWidth + 2) * (layout v.mScreenWidth lines).length ≤ 257 * 256 :=
    Nat.mul_le_mul (by omega) (by omega)
  have hstart : Typed v [] [] ⟨v, ram⟩ := by
    refine ⟨rfl, rfl, rfl, hcursorX, hcursorY, Nat.zero_le _, ?_⟩
    intro k hk j hj
    have hin : k * lineBufWidth + j < v.bufferSize := by
      rw [lineBufWidth] at hj
      rw [Video.bufferSize, lineBufWidth]
      omega
    rw [List.nil_append, ← List.nil_append [[]], shown_snoc]
    rw [Console.byte, hclear.zero _ hin]
    split_ifs <;> rfl
  rw [puts_eq _ (mem_lines hplain) (by omega), screenRows]
  cases lines with
  | nil =>
      rw [List.intercalate_nil]
      exact rows_eq (Nat.zero_le _) rfl (fun row hrow => absurd hrow List.not_mem_nil) (by
        intro k hk j hj
        rw [List.foldl_nil, hstart.bytes k hk j hj, shown_snoc]
        split_ifs <;> rfl)
  | cons line lines =>
      obtain ⟨typed, last, hrows, htyped⟩ := hstart.lines hpos hw hh hplain
        (by rw [List.length_nil]; omega)
      rw [List.nil_append] at hrows
      rw [← hrows]
      apply rows_eq (hrows ▸ hfit) htyped.height ?_ htyped.bytes
      intro row hrow
      rw [hrows] at hrow
      exact mem_layout hpos hw hplain hrow

/-- A line of exactly two rows, an empty one and a short one, on three columns. -/
theorem puts_lays_out_example :
    (2 ≤ 4 ∧ ClearBuffer ⟨Video.init 0xC0500000 0x200000 4 5, ⟨fun _ => 0, []⟩⟩) ∧
    (Console.puts ⟨Video.init 0xC0500000 0x200000 4 5, ⟨fun _ => 0, []⟩⟩
        (List.intercalate lineEnd [[65, 66, 67, 68, 69, 70], [], [71]])).rows =
      screenRows (Video.init 0xC0500000 0x200000 4 5) [[65, 66, 67, 68, 69, 70], [], [71]] := by
  have hclear : ClearBuffer ⟨Video.init 0xC0500000 0x200000 4 5, ⟨fun _ => 0, []⟩⟩ :=
    ⟨by decide, fun _ _ => rfl⟩
  have hplain : ∀ l ∈ [[65, 66, 67, 68, 69, 70], [], [71]], ∀ ch ∈ l, Plain ch := by
    simp [Plain]
  exact ⟨⟨by decide, hclear⟩, puts_lays_out 0xC0500000 0x200000 5 (by decide) hclear hplain
    (by decide)⟩

end ShellcodeVM.GuestOS
