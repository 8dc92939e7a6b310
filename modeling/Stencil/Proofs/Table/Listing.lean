/-
What a listing shows.

A column is as wide as the longest text in it, in bytes, and no text has more characters than
bytes (`Fit`).  So every text stands in full between two boundaries of its column, with a blank
on either side, and what is filled up with blanks has as many characters in each line.  All
lines but the last therefore have their boundaries at the same places (`edge`).
-/
import Mathlib.Data.List.Forall2
import Stencil.Proofs.Text.Bytes
import Stencil.Proofs.Text.Search
import Stencil.Table.Listing

namespace Stencil.TableResult

variable {r : TableResult} {widths : List Nat} {texts : List String} {mark : Char}
  {slots : List (List Char)}

/-- A result that a listing can show: it has columns, a cell for each of them in every row, and no
text that breaks its line. -/
structure Tabular (r : TableResult) : Prop where
  columns : r.columns ≠ []
  cells : ∀ row ∈ r.rows, row.length = r.columns.length
  names : ∀ name ∈ r.columnNames, '\n' ∉ name.toList
  texts : ∀ row ∈ r.rows, ∀ cell ∈ row, '\n' ∉ cell.display.toList

/-! ### Widths -/

/-- There is a width for each text, and the text has no more bytes. -/
def Fit (texts : List String) (widths : List Nat) : Prop :=
  List.Forall₂ (fun text w => Text.byteLength text ≤ w) texts widths

theorem length_widen (widths : List Nat) (cells : List String) :
    (widen widths cells).length = widths.length := by
  induction widths generalizing cells with
  | nil => rfl
  | cons w widths ih =>
      cases cells with
      | nil => rfl
      | cons cell cells => rw [widen, List.length_cons, List.length_cons, ih]

/-- What fits still fits when columns are widened. -/
theorem Fit.widen (h : Fit texts widths) (cells : List String) :
    Fit texts (widen widths cells) := by
  induction h generalizing cells with
  | nil => exact .nil
  | cons hfits hrest ih =>
      cases cells with
      | nil => exact .cons hfits hrest
      | cons cell cells => exact .cons (Nat.le_trans hfits (Nat.le_max_left _ _)) (ih cells)

/-- What columns are widened for fits. -/
theorem fit_widen : ∀ {cells : List String} {widths : List Nat}, cells.length = widths.length →
    Fit cells (TableResult.widen widths cells)
  | [], [], _ => .nil
  | _ :: _, _ :: _, h => .cons (Nat.le_max_right _ _) (fit_widen (Nat.succ.inj h))

theorem Fit.foldl_widen (h : Fit texts widths) (rows : List (List String)) :
    Fit texts (rows.foldl TableResult.widen widths) := by
  induction rows generalizing widths with
  | nil => exact h
  | cons row rows ih => exact ih (h.widen row)

/-- Every row fits in the end: it does when its turn comes, and later rows only widen. -/
theorem fit_foldl_widen {rows : List (List String)} (h : ∀ row ∈ rows, row.length = widths.length) :
    ∀ row ∈ rows, Fit row (rows.foldl TableResult.widen widths) := by
  induction rows generalizing widths with
  | nil => exact nofun
  | cons row rows ih =>
      intro row' hrow'
      rw [List.foldl_cons]
      rcases List.mem_cons.mp hrow' with rfl | hmem
      · exact (fit_widen (h _ List.mem_cons_self)).foldl_widen rows
      · refine ih (fun row'' hrow'' => ?_) row' hmem
        rw [length_widen]
        exact h row'' (List.mem_cons_of_mem _ hrow'')

theorem fit_columnNames (r : TableResult) : Fit r.columnNames r.widths := by
  refine Fit.foldl_widen ?_ _
  exact List.forall₂_map_right_iff.mpr (List.forall₂_same.mpr fun _ _ => Nat.le_refl _)

theorem length_widths (r : TableResult) : r.widths.length = r.columns.length := by
  rw [← (fit_columnNames r).length_eq, columnNames, List.length_map]

theorem Tabular.widths_ne_nil (h : r.Tabular) : r.widths ≠ [] := by
  intro hnil
  have hlength := length_widths r
  rw [hnil] at hlength
  exact h.columns (List.length_eq_zero_iff.mp hlength.symm)

theorem Tabular.fit (h : r.Tabular) {row : Row} (hrow : row ∈ r.rows) :
    Fit (row.map Cell.display) r.widths := by
  refine fit_foldl_widen (fun texts htexts => ?_) _ (List.mem_map_of_mem hrow)
  obtain ⟨row', hrow', rfl⟩ := List.mem_map.mp htexts
  rw [List.length_map, List.length_map, columnNames, List.length_map]
  exact h.cells row' hrow'

/-! ### Boundaries -/

/-- Where the boundary in front of a column stands, or behind all columns the last one: a column
takes its width, a blank on either side and a boundary. -/
def edge : List Nat → Nat → Nat
  | w :: widths, k + 1 => w + 3 + edge widths k
  | _, _ => 0

theorem edge_zero (widths : List Nat) : edge widths 0 = 0 := by
  cases widths <;> rfl

/-- What a line has between the boundaries of a column. -/
def slotAt (widths : List Nat) (k : Nat) (line : List Char) : List Char :=
  (line.drop (edge widths k + 1)).take (edge widths (k + 1) - (edge widths k + 1))

/-- A line that has a mark at every boundary, and ends at the last. -/
structure Bounded (widths : List Nat) (mark : Char) (l : List Char) : Prop where
  length : l.length = edge widths widths.length + 1
  mark : ∀ k ≤ widths.length, l[edge widths k]? = some mark

/-- A line with a plus at the boundaries and nowhere else. -/
structure IsBorder (widths : List Nat) (line : List Char) : Prop
    extends Bounded widths '+' line where
  dashes : ∀ k < widths.length, ∀ c ∈ slotAt widths k line, c = '-'

/-- A line with bars at the boundaries that shows each text in full in the column it is for, behind
one blank and in front of at least one. -/
structure Shows (widths : List Nat) (texts : List String) (line : List Char) : Prop
    extends Bounded widths '|' line where
  text : ∀ k text, texts[k]? = some text →
    ∃ blanks, slotAt widths k line = ' ' :: text.toList ++ List.replicate (blanks + 1) ' '

/-- Slots with a mark between them, in front and behind. -/
def framed (mark : Char) (slots : List (List Char)) : List Char :=
  mark :: slots.flatMap (· ++ [mark])

theorem toList_enclosed {s : String} (mark : Char) (hmark : s.toList = [mark])
    {texts : List String} (h : texts ≠ []) :
    (s ++ Text.join s texts ++ s).toList = framed mark (texts.map String.toList) := by
  have hlast : Text.join s texts ++ s = Text.join s (texts ++ [""]) := by
    unfold Text.join
    rw [String.intercalate_append_of_ne_nil h (List.cons_ne_nil _ _)]
    simp
  rw [String.append_assoc, hlast, String.toList_append, Text.join, String.toList_intercalate,
    hmark, framed, Text.flatMap_concat_eq_intercalate, List.map_append]
  rfl

/-- There is a slot for each column, with a blank on either side of what is as wide as it. -/
def Slots (slots : List (List Char)) (widths : List Nat) : Prop :=
  List.Forall₂ (fun slot w => slot.length = w + 2) slots widths

/-- Behind a boundary the line goes on as one that begins there. -/
theorem Slots.drop_edge (h : Slots slots widths) (mark : Char) (k : Nat) :
    (framed mark slots).drop (edge widths k) = framed mark (slots.drop k) := by
  induction h generalizing k with
  | nil => cases k <;> rfl
  | @cons slot w slots widths hslot _ ih =>
      cases k with
      | zero => rfl
      | succ k =>
          have hsplit : framed mark (slot :: slots) = (mark :: slot) ++ framed mark slots := by
            simp [framed]
          have hlength : (mark :: slot).length = w + 3 := by
            rw [List.length_cons, hslot]
          rw [edge, hsplit, ← List.drop_drop, List.drop_left' hlength, ih, List.drop_succ_cons]

theorem Slots.edge_succ (h : Slots slots widths) {k : Nat} {slot : List Char}
    (hslot : slots[k]? = some slot) :
    edge widths (k + 1) = edge widths k + (slot.length + 1) := by
  induction h generalizing k with
  | nil => cases hslot
  | @cons first w slots widths hfirst _ ih =>
      cases k with
      | zero =>
          obtain rfl := Option.some.inj hslot
          rw [edge, edge_zero, edge_zero, hfirst]
          omega
      | succ k =>
          rw [edge, edge, ih hslot]
          omega

theorem Slots.bounded (h : Slots slots widths) (mark : Char) :
    Bounded widths mark (framed mark slots) where
  length := by
    have hend := congrArg List.length (h.drop_edge mark widths.length)
    rw [← h.length_eq, List.drop_length, List.length_drop] at hend
    have hone : (framed mark []).length = 1 := rfl
    rw [← h.length_eq]
    omega
  mark k _ := by
    rw [← Nat.add_zero (edge widths k), ← List.getElem?_drop, h.drop_edge]
    rfl

theorem Slots.slotAt_framed (h : Slots slots widths) {k : Nat} {slot : List Char}
    (hslot : slots[k]? = some slot) : slotAt widths k (framed mark slots) = slot := by
  have hwidth : edge widths (k + 1) - (edge widths k + 1) = slot.length := by
    rw [h.edge_succ hslot]
    omega
  obtain ⟨hk, rfl⟩ := List.getElem?_eq_some_iff.mp hslot
  rw [slotAt, hwidth, ← List.drop_drop, h.drop_edge, List.drop_eq_getElem_cons hk, framed,
    List.drop_one, List.tail_cons, List.flatMap_cons, List.append_assoc, List.take_left]

/-! ### Lines -/

/-- A text behind a blank, filled up to the width of its column, with one more blank. -/
def slot (text : String) (w : Nat) : List Char :=
  ' ' :: text.toList ++ List.replicate (w - text.length + 1) ' '

theorem toList_pad (text : String) (w : Nat) : (" " ++ pad w text ++ " ").toList = slot text w := by
  simp [pad, slot, List.replicate_succ']

theorem Fit.slots_zipWith (h : Fit texts widths) :
    Slots (List.zipWith slot texts widths) widths := by
  induction h with
  | nil => exact .nil
  | @cons text w texts widths hfits _ ih =>
      refine .cons ?_ ih
      -- The width counts bytes and the blanks count characters.
      have hle := Nat.le_trans (Text.length_le_byteLength text) hfits
      rw [String.length_toList] at hle
      simp only [slot, List.length_cons, List.length_append, List.length_replicate,
        String.length_toList]
      omega

theorem Fit.toList_line (h : Fit texts widths) (hne : widths ≠ []) :
    (line widths texts).toList = framed '|' (List.zipWith slot texts widths) := by
  have hslots : (List.zipWith (fun cell w => " " ++ pad w cell ++ " ") texts widths).map
      String.toList = List.zipWith slot texts widths := by
    rw [List.map_zipWith]
    simp only [toList_pad]
  have hcells : List.zipWith (fun cell w => " " ++ pad w cell ++ " ") texts widths ≠ [] := by
    cases h with
    | nil => exact absurd rfl hne
    | cons _ _ => exact List.cons_ne_nil _ _
  rw [line, toList_enclosed '|' rfl hcells, hslots]

theorem Fit.shows (h : Fit texts widths) (hne : widths ≠ []) :
    Shows widths texts (line widths texts).toList := by
  rw [h.toList_line hne]
  refine ⟨h.slots_zipWith.bounded '|', fun k text htext => ?_⟩
  obtain ⟨hk, rfl⟩ := List.getElem?_eq_some_iff.mp htext
  have hwidth : k < widths.length := h.length_eq ▸ hk
  have hslot : (List.zipWith slot texts widths)[k]? = some (slot texts[k] widths[k]) := by
    rw [List.getElem?_zipWith, htext, List.getElem?_eq_getElem hwidth]
  exact ⟨_, h.slots_zipWith.slotAt_framed hslot⟩

theorem toList_border (hne : widths ≠ []) :
    (border widths).toList = framed '+' (widths.map fun w => List.replicate (w + 2) '-') := by
  rw [border, toList_enclosed '+' rfl (fun hnil => hne (List.map_eq_nil_iff.mp hnil)), List.map_map]
  exact congrArg _ (List.map_congr_left fun w _ => String.toList_ofList)

theorem isBorder_border (hne : widths ≠ []) : IsBorder widths (border widths).toList := by
  have hslots : Slots (widths.map fun w => List.replicate (w + 2) '-') widths :=
    List.forall₂_map_left_iff.mpr (List.forall₂_same.mpr fun w _ => List.length_replicate)
  rw [toList_border hne]
  refine ⟨hslots.bounded '+', fun k hk c hc => ?_⟩
  have hslot : (widths.map fun w => List.replicate (w + 2) '-')[k]?
      = some (List.replicate (widths[k] + 2) '-') := by
    rw [List.getElem?_map, List.getElem?_eq_getElem hk]
    rfl
  rw [hslots.slotAt_framed hslot] at hc
  exact List.eq_of_mem_replicate hc

/-! ### The listing -/

theorem notMem_framed {x : Char} (hmark : x ≠ mark) (h : ∀ slot ∈ slots, x ∉ slot) :
    x ∉ framed mark slots := by
  simp only [framed, List.mem_cons, List.mem_flatMap, List.mem_append, List.not_mem_nil, or_false,
    not_or, not_exists, not_and]
  exact ⟨hmark, fun slot hslot => ⟨h slot hslot, hmark⟩⟩

theorem notMem_border (hne : widths ≠ []) : '\n' ∉ (border widths).toList := by
  rw [toList_border hne]
  refine notMem_framed (by decide) fun slot hslot => ?_
  obtain ⟨w, -, rfl⟩ := List.mem_map.mp hslot
  simp

theorem Fit.notMem_line (h : Fit texts widths) (hne : widths ≠ [])
    (hunbroken : ∀ text ∈ texts, '\n' ∉ text.toList) : '\n' ∉ (line widths texts).toList := by
  rw [h.toList_line hne]
  refine notMem_framed (by decide) fun s hs => ?_
  rw [← List.map_uncurry_zip_eq_zipWith] at hs
  obtain ⟨⟨text, w⟩, hmem, rfl⟩ := List.mem_map.mp hs
  have htext := hunbroken text (List.of_mem_zip hmem).1
  simp [slot, htext]

theorem notMem_footer (n : Nat) : '\n' ∉ (toString n ++ " row(s) in set").toList := by
  have hrest : '\n' ∉ " row(s) in set".toList := by decide +kernel
  rw [String.toList_append, List.mem_append, not_or]
  refine ⟨fun hmem => ?_, hrest⟩
  rw [Nat.toString_eq_repr, Nat.toList_repr] at hmem
  exact absurd (Nat.isDigit_of_mem_toDigits (by decide) (by decide) hmem) (by decide)

theorem Tabular.splitOn_listing (h : r.Tabular) :
    r.listing.toList.splitOn '\n' = r.lines.map String.toList := by
  have hborder := notMem_border h.widths_ne_nil
  refine Text.splitOn_join (List.cons_ne_nil _ _) fun l hl => ?_
  simp only [lines, List.mem_append, List.mem_cons, List.not_mem_nil, or_false, displayed,
    List.mem_map] at hl
  rcases hl with ((rfl | rfl | rfl) | ⟨texts, ⟨row, hrow, rfl⟩, rfl⟩) | rfl | rfl
  · exact hborder
  · exact (fit_columnNames r).notMem_line h.widths_ne_nil h.names
  · exact hborder
  · refine (h.fit hrow).notMem_line h.widths_ne_nil fun text htext => ?_
    obtain ⟨cell, hcell, rfl⟩ := List.mem_map.mp htext
    exact h.texts row hrow cell hcell
  · exact hborder
  · exact notMem_footer _

/--
**Listings are aligned and complete.**  A listing has five lines more than rows: the header
between two borders, a line for each row, a border and a count.  All of them but the last end at
the same place and have their boundaries in the same places, bars or pluses, and between these
each name and each text is shown in full in its own column.
-/
theorem listing_aligned (r : TableResult) (h : r.Tabular) :
    ∃ border header rows,
      r.listing.toList.splitOn '\n'
          = [border, header, border] ++ rows
            ++ [border, (toString r.rows.length ++ " row(s) in set").toList]
        ∧ (r.listing.toList.splitOn '\n').length = r.rows.length + 5
        ∧ (∀ line ∈ (r.listing.toList.splitOn '\n').dropLast,
          line.length = edge r.widths r.columns.length + 1)
        ∧ r.widths.length = r.columns.length
        ∧ IsBorder r.widths border
        ∧ Shows r.widths r.columnNames header
        ∧ List.Forall₂ (fun row line => Shows r.widths (row.map Cell.display) line) r.rows
          rows := by
  have hborder := isBorder_border h.widths_ne_nil
  have hheader := (fit_columnNames r).shows h.widths_ne_nil
  have hrows : ∀ row ∈ r.rows,
      Shows r.widths (row.map Cell.display) (line r.widths (row.map Cell.display)).toList :=
    fun row hrow => (h.fit hrow).shows h.widths_ne_nil
  have hlines : r.listing.toList.splitOn '\n'
      = [(border r.widths).toList, (line r.widths r.columnNames).toList,
          (border r.widths).toList]
        ++ r.rows.map (fun row => (line r.widths (row.map Cell.display)).toList)
        ++ [(border r.widths).toList, (toString r.rows.length ++ " row(s) in set").toList] := by
    rw [h.splitOn_listing]
    simp [lines, displayed]
  refine ⟨_, _, _, hlines, ?_, fun l hl => ?_, length_widths r, hborder, hheader, ?_⟩
  · rw [hlines]
    simp
  · rw [hlines, List.dropLast_append_of_ne_nil (List.cons_ne_nil _ _)] at hl
    simp only [List.mem_append, List.mem_cons, List.not_mem_nil, or_false, List.mem_map,
      List.dropLast_cons_cons, List.dropLast_singleton] at hl
    rw [← length_widths r]
    rcases hl with ((rfl | rfl | rfl) | ⟨row, hrow, rfl⟩) | rfl
    · exact hborder.length
    · exact hheader.length
    · exact hborder.length
    · exact (hrows row hrow).length
    · exact hborder.length
  · exact List.forall₂_map_right_iff.mpr (List.forall₂_same.mpr hrows)

/-- Sizes of things, with names and texts of which some characters take more than one byte. -/
def sizes : TableResult :=
  .withRows [⟨"größe", "INT"⟩, ⟨"b", "STRING"⟩]
    [[.integer (-12), .text "漢|字"], [.null, .text "€"]]

theorem listing_aligned_sizes :
    sizes.listing
        = "+---------+---------+\n"
          ++ "| größe   | b       |\n"
          ++ "+---------+---------+\n"
          ++ "| -12     | 漢|字     |\n"
          ++ "| NULL    | €       |\n"
          ++ "+---------+---------+\n"
          ++ "2 row(s) in set"
      ∧ ∀ line ∈ (sizes.listing.toList.splitOn '\n').dropLast, line.length = 21 := by
  have htabular : sizes.Tabular := by
    refine ⟨by decide, by decide, by decide +kernel, by decide +kernel⟩
  obtain ⟨_, _, _, _, _, hlength, _⟩ := listing_aligned sizes htabular
  have hedge : edge sizes.widths sizes.columns.length = 20 := by decide +kernel
  rw [hedge] at hlength
  exact ⟨by decide +kernel, hlength⟩

end Stencil.TableResult
