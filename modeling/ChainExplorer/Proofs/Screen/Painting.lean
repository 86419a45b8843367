import ChainExplorer.Proofs.Text.Printable
import ChainExplorer.Screen.Row
import Mathlib.Algebra.GroupWithZero.Nat
import Mathlib.Algebra.Order.BigOperators.Group.List
import Mathlib.Algebra.Order.Group.Nat

set_option autoImplicit false

namespace ChainExplorer.Screen

-- Whether a row of the given width has a place for the glyph at all.
def Glyph.fitsRow (width : Nat) (glyph : Glyph) : Bool := 0 < glyph.width && glyph.width ≤ width

-- The cells that glyphs need in a row, and what stands in them.
def columns (width : Nat) (glyphs : List Glyph) : Nat := ((glyphs.filter (Glyph.fitsRow width)).map Glyph.width).sum

def ink (width : Nat) (glyphs : List Glyph) : Row := (glyphs.filter (Glyph.fitsRow width)).flatMap Glyph.cells

-- All that there is to see of a span.
def Span.cells (span : Span) : Row := (span.glyphs.filter fun glyph => 0 < glyph.width).flatMap Glyph.cells

theorem fits_row_iff (width : Nat) (glyph : Glyph) : glyph.fitsRow width ↔ 0 < glyph.width ∧ glyph.width ≤ width := by
  simp [Glyph.fitsRow]

theorem cells_length (width : Nat) (glyph : Glyph) (placed : glyph.fitsRow width) :
    glyph.cells.length = glyph.width := by
  have present := ((fits_row_iff width glyph).mp placed).1
  rw [Glyph.cells, List.length_cons, blankRow, List.length_replicate]
  omega

theorem paint_passes (width room : Nat) (glyph : Glyph) (rest : List Glyph) (passed : ¬ glyph.fitsRow width) :
    paintGlyphs width room (glyph :: rest) = paintGlyphs width room rest := by
  rw [fits_row_iff] at passed
  have skipped : (width < glyph.width || glyph.width = 0) = true := by
    simp only [Bool.or_eq_true, decide_eq_true_eq]
    omega
  rw [paintGlyphs, if_pos skipped]

theorem paint_fits (width room : Nat) (glyph : Glyph) (rest : List Glyph) (placed : glyph.fitsRow width) :
    paintGlyphs width room (glyph :: rest) =
      if room < glyph.width then blankRow room else glyph.cells ++ paintGlyphs width (room - glyph.width) rest := by
  rw [fits_row_iff] at placed
  have kept : ¬ (width < glyph.width || glyph.width = 0) = true := by
    simp only [Bool.or_eq_true, decide_eq_true_eq]
    omega
  rw [paintGlyphs, if_neg kept]

theorem columns_passes (width : Nat) (glyph : Glyph) (rest : List Glyph) (passed : ¬ glyph.fitsRow width) :
    columns width (glyph :: rest) = columns width rest ∧ ink width (glyph :: rest) = ink width rest := by
  rw [columns, ink, List.filter_cons_of_neg passed]
  exact ⟨rfl, rfl⟩

theorem columns_fits (width : Nat) (glyph : Glyph) (rest : List Glyph) (placed : glyph.fitsRow width) :
    columns width (glyph :: rest) = glyph.width + columns width rest ∧
      ink width (glyph :: rest) = glyph.cells ++ ink width rest := by
  rw [columns, ink, List.filter_cons_of_pos placed, List.map_cons, List.sum_cons, List.flatMap_cons]
  exact ⟨rfl, rfl⟩

theorem columns_le (width : Nat) (glyphs : List Glyph) : columns width glyphs ≤ (glyphs.map Glyph.width).sum :=
  (List.filter_sublist.map Glyph.width).sum_le_sum fun _ _ => Nat.zero_le _

theorem columns_append (width : Nat) (front back : List Glyph) :
    columns width (front ++ back) = columns width front + columns width back := by
  rw [columns, List.filter_append, List.map_append, List.sum_append]
  rfl

theorem ink_length (width : Nat) (glyphs : List Glyph) : (ink width glyphs).length = columns width glyphs := by
  induction glyphs with
  | nil => rfl
  | cons glyph rest ih =>
      by_cases placed : glyph.fitsRow width
      · obtain ⟨needed, inked⟩ := columns_fits width glyph rest placed
        rw [inked, List.length_append, cells_length width glyph placed, ih, needed]
      · obtain ⟨needed, inked⟩ := columns_passes width glyph rest placed
        rw [inked, ih, needed]

-- Glyphs that fit into a row together have a place in it each.
theorem ink_all (width : Nat) (span : Span) (fits : (span.glyphs.map Glyph.width).sum ≤ width) :
    ink width span.glyphs = span.cells := by
  have same : ∀ glyph ∈ span.glyphs, glyph.fitsRow width = decide (0 < glyph.width) := by
    intro glyph member
    have listed : glyph.width ∈ span.glyphs.map Glyph.width := List.mem_map_of_mem member
    have narrow : glyph.width ≤ width := Nat.le_trans (List.le_sum_of_mem listed) fits
    rw [Glyph.fitsRow, decide_eq_true narrow, Bool.and_true]
  rw [ink, List.filter_congr same]
  rfl

theorem paint_length (width room : Nat) (glyphs : List Glyph) : (paintGlyphs width room glyphs).length = room := by
  induction glyphs generalizing room with
  | nil => exact List.length_replicate
  | cons glyph rest ih =>
      by_cases placed : glyph.fitsRow width
      · rw [paint_fits width room glyph rest placed]
        by_cases full : room < glyph.width
        · rw [if_pos full]
          exact List.length_replicate
        · rw [if_neg full, List.length_append, cells_length width glyph placed, ih]
          exact Nat.add_sub_cancel' (Nat.le_of_not_lt full)
      · rw [paint_passes width room glyph rest placed, ih]

-- Where there is room for all that comes first, it is painted whole and leaves the rest of the room.
theorem paint_append (width room : Nat) (front back : List Glyph) (fits : columns width front ≤ room) :
    paintGlyphs width room (front ++ back) =
      ink width front ++ paintGlyphs width (room - columns width front) back := by
  induction front generalizing room with
  | nil => rfl
  | cons glyph rest ih =>
      by_cases placed : glyph.fitsRow width
      · obtain ⟨needed, inked⟩ := columns_fits width glyph rest placed
        rw [needed] at fits
        rw [List.cons_append, paint_fits width room glyph _ placed, if_neg (by omega), ih _ (by omega), inked, needed,
          List.append_assoc, Nat.sub_sub]
      · obtain ⟨needed, inked⟩ := columns_passes width glyph rest placed
        rw [needed] at fits
        rw [List.cons_append, paint_passes width room glyph _ placed, ih room fits, inked, needed]

-- Where there is not, nothing is painted of what comes behind it.
theorem paint_cut (width room : Nat) (front back : List Glyph) (full : room < columns width front) :
    paintGlyphs width room (front ++ back) = paintGlyphs width room front := by
  induction front generalizing room with
  | nil => exact absurd full (Nat.not_lt_zero room)
  | cons glyph rest ih =>
      by_cases placed : glyph.fitsRow width
      · rw [(columns_fits width glyph rest placed).1] at full
        rw [List.cons_append, paint_fits width room glyph _ placed, paint_fits width room glyph _ placed]
        by_cases cut : room < glyph.width
        · rw [if_pos cut, if_pos cut]
        · rw [if_neg cut, if_neg cut, ih _ (by omega)]
      · rw [(columns_passes width glyph rest placed).1] at full
        rw [List.cons_append, paint_passes width room glyph _ placed, paint_passes width room glyph _ placed,
          ih room full]

-- In either case what comes behind has the room that is left.
theorem paint_behind (width room : Nat) (front back : List Glyph) :
    ∃ before, before.length = room - (room - columns width front) ∧
      paintGlyphs width room (front ++ back) = before ++ paintGlyphs width (room - columns width front) back := by
  by_cases fits : columns width front ≤ room
  · refine ⟨ink width front, ?_, paint_append width room front back fits⟩
    rw [ink_length]
    omega
  · have full := Nat.lt_of_not_le fits
    have left : room - columns width front = 0 := by omega
    have none : paintGlyphs width 0 back = [] := List.length_eq_zero_iff.mp (paint_length width 0 back)
    refine ⟨paintGlyphs width room front, ?_, ?_⟩
    · rw [paint_length, left, Nat.sub_zero]
    · rw [paint_cut width room front back full, left, none, List.append_nil]

theorem paint_whole (width room : Nat) (glyphs : List Glyph) (fits : columns width glyphs ≤ room) :
    paintGlyphs width room glyphs = ink width glyphs ++ blankRow (room - columns width glyphs) := by
  have painted := paint_append width room glyphs [] fits
  rwa [List.append_nil] at painted

theorem letter_width (c : Char) (style : Style) (plain : Text.isPlainAscii c) : Glyph.width ⟨[c], style⟩ = 1 :=
  Text.width_printable [c] (by simpa [Text.Printable] using plain)

-- The glyphs of a printable text are its characters.
theorem glyphs_printable (text : String) (style : Style) (printable : Text.Printable text.toList) :
    Span.glyphs ⟨text, style⟩ = text.toList.map fun c => ⟨[c], style⟩ := by
  have painted : ∀ cluster ∈ text.toList.map ([·]), (!cluster.any isControl) = true := by
    intro cluster member
    obtain ⟨c, inside, rfl⟩ := List.mem_map.mp member
    have range := (Text.printable_range c).mp (printable c inside)
    have low : ¬ c.toNat < 32 ∧ ¬ 127 ≤ c.toNat := by omega
    simp [isControl, low]
  rw [Span.glyphs, Text.clusters_printable _ printable, List.filter_eq_self.mpr painted, List.map_map]
  rfl

theorem glyph_printable (text : String) (style : Style) (printable : Text.Printable text.toList) :
    ∀ glyph ∈ Span.glyphs ⟨text, style⟩, glyph.width = 1 := by
  rw [glyphs_printable text style printable]
  intro glyph member
  obtain ⟨c, inside, rfl⟩ := List.mem_map.mp member
  exact letter_width c style (printable c inside)

-- A printable text needs a cell for each of its characters.
theorem total_printable (text : String) (style : Style) (printable : Text.Printable text.toList) :
    ((Span.glyphs ⟨text, style⟩).map Glyph.width).sum = text.length := by
  have single : (Span.glyphs ⟨text, style⟩).map Glyph.width = (Span.glyphs ⟨text, style⟩).map fun _ => 1 :=
    List.map_congr_left (glyph_printable text style printable)
  rw [single, glyphs_printable text style printable, List.map_map, ← String.length_toList]
  simp [Function.comp_def]

theorem columns_printable (width : Nat) (text : String) (style : Style) (room : 0 < width)
    (printable : Text.Printable text.toList) : columns width (Span.glyphs ⟨text, style⟩) = text.length := by
  have placed : ∀ glyph ∈ Span.glyphs ⟨text, style⟩, glyph.fitsRow width = true := by
    intro glyph member
    have single := glyph_printable text style printable glyph member
    exact (fits_row_iff width glyph).mpr (by omega)
  rw [columns, List.filter_eq_self.mpr placed, total_printable text style printable]

theorem cells_printable (text : String) (style : Style) (printable : Text.Printable text.toList) :
    Span.cells ⟨text, style⟩ = text.toList.map fun c => ⟨String.ofList [c], style⟩ := by
  have seen : ∀ glyph ∈ Span.glyphs ⟨text, style⟩, decide (0 < glyph.width) = true := by
    intro glyph member
    rw [glyph_printable text style printable glyph member]
    rfl
  have each : ∀ c ∈ text.toList, Glyph.cells ⟨[c], style⟩ = [⟨String.ofList [c], style⟩] := by
    intro c inside
    rw [Glyph.cells, letter_width c style (printable c inside)]
    rfl
  rw [Span.cells, List.filter_eq_self.mpr seen, glyphs_printable text style printable, List.flatMap_map,
    List.flatMap_congr each, List.map_eq_flatMap]

end ChainExplorer.Screen
