import NativeExports.Text.Table
import Mathlib
/-!
Purpose: how a plain text table lines up its columns, with any terminal width library that
keeps its contract.

Below its title a table has one line per entry of `Table.lineCells`: the column names, then each
row's first cells, one per column, missing ones empty and each cut to the cell limit.  A line is
two spaces, then its cells joined by two spaces, every cell but the last padded to its column's
width, with the trailing spaces removed.  A column's width is the largest display width of its
name and its printed cells.

The widths come from a library (`CellWidths`), and what the layout needs of it is its contract
(`CellWidths.Lawful`): a space takes one cell, filling a text on the right adds the spaces it
lacks, and a text cut to a number of cells, with no tail or with "..." when that fits, takes at
most that many.  The linked library (`CellWidths.terminal`) counts widths cluster by cluster
(`Text.Width`); cutting there keeps whole clusters and never exceeds the limit
(`displayWidth_truncateTo_le`), which rests on the cutter deciding each cut from what it has read
so far (`clustersFrom_take`).

The width of a joined text is not always the sum of its parts' widths: with the linked library
a combining mark after a space joins the space's cluster.  Where the widths of a line's pieces
add up (`WidthsAddUp`), cell `i` starts at display column `2 + Σ_{j<i} (width_j + 2)` on every
line.

Main result: `table_lines_align`.
-/


namespace NativeExports.Text

/-! ### Widths of cut text -/

/-- The cells a list of characters takes, cluster by cluster. -/
def charsWidth (l : List Char) : Nat := ((clusters l).map clusterWidth).sum

theorem displayWidth_eq_charsWidth (s : String) : displayWidth s = charsWidth s.toList := rfl

/-- A character put at the end of a cluster adds at most its own cells. -/
theorem clusterWidth_append_le (g : List Char) (c : Char) :
    clusterWidth (g ++ [c]) ≤ clusterWidth g + charWidth c := by
  induction g with
  | nil => simp only [List.nil_append, clusterWidth]; split <;> omega
  | cons d rest ih =>
    simp only [List.cons_append, clusterWidth]
    split
    · exact ih
    · omega

theorem clustersFrom_snoc_width (s : ClusterState) (cur l : List Char) (c : Char) :
    ((clustersFrom s cur (l ++ [c])).map clusterWidth).sum ≤
      ((clustersFrom s cur l).map clusterWidth).sum + charWidth c := by
  induction l generalizing s cur with
  | nil =>
    simp only [List.nil_append, clustersFrom]
    split
    · simpa using clusterWidth_append_le cur.reverse c
    · have := clusterWidth_append_le [] c
      simp only [List.nil_append, clusterWidth] at this
      simp only [List.reverse_cons, List.reverse_nil, List.nil_append, List.map_cons, List.map_nil,
        List.sum_cons, List.sum_nil]
      simp only [clusterWidth] at this ⊢
      omega
  | cons d rest ih =>
    simp only [List.cons_append, clustersFrom]
    split
    · exact ih _ _
    · simp only [List.map_cons, List.sum_cons]
      have := ih (ClusterState.start (clusterRole d)) [d]
      omega

/-- Characters put at the end of a text add at most their own cells. -/
theorem charsWidth_append_le (l t : List Char) :
    charsWidth (l ++ t) ≤ charsWidth l + (t.map charWidth).sum := by
  induction t generalizing l with
  | nil => simp
  | cons c t ih =>
    have hone : charsWidth (l ++ [c]) ≤ charsWidth l + charWidth c := by
      cases l with
      | nil =>
        have := clusterWidth_append_le [] c
        simp only [List.nil_append, clusterWidth] at this
        simp [charsWidth, clusters, clustersFrom, clusterWidth]
        omega
      | cons d rest =>
        exact clustersFrom_snoc_width _ [d] rest c
    have := ih (l ++ [c])
    simp only [List.append_assoc, List.cons_append, List.nil_append] at this
    simp only [List.map_cons, List.sum_cons]
    omega

/-- The clusters taken within a room are a leading run of whole clusters that fits the room. -/
theorem takeClustersWithin_eq (room : Nat) (gs : List (List Char)) :
    ∃ k ≤ gs.length, takeClustersWithin room gs = (gs.take k).flatten ∧
      ((gs.take k).map clusterWidth).sum ≤ room := by
  induction gs generalizing room with
  | nil => exact ⟨0, Nat.le_refl _, rfl, by simp⟩
  | cons g rest ih =>
    simp only [takeClustersWithin]
    split
    · rename_i hfits
      obtain ⟨k, hk, htake, hsum⟩ := ih (room - clusterWidth g)
      refine ⟨k + 1, by simp; omega, by simp [htake], ?_⟩
      simp only [List.take_succ_cons, List.map_cons, List.sum_cons]
      omega
    · exact ⟨0, by simp, rfl, by simp⟩

/-- Cutting text into clusters loses and reorders nothing. -/
theorem flatten_clustersFrom (s : ClusterState) (cur l : List Char) :
    (clustersFrom s cur l).flatten = cur.reverse ++ l := by
  induction l generalizing s cur with
  | nil => simp [clustersFrom]
  | cons c rest ih =>
    simp only [clustersFrom]
    split
    · rw [ih]; simp
    · rw [List.flatten_cons, ih]; simp

/-- The leading clusters of a text are the clusters of the text they cover: the cutter decides
each cut from what it has read so far. -/
theorem clustersFrom_take (s : ClusterState) (cur l : List Char) (k : Nat) (hk : 0 < k)
    (hlt : k < (clustersFrom s cur l).length) :
    ∃ l₁ l₂, l = l₁ ++ l₂ ∧ clustersFrom s cur l₁ = (clustersFrom s cur l).take k := by
  induction l generalizing s cur k with
  | nil => simp [clustersFrom] at hlt; omega
  | cons c rest ih =>
    simp only [clustersFrom] at hlt ⊢
    split
    · rename_i hjoin
      simp only [hjoin, if_true] at hlt
      obtain ⟨l₁, l₂, rfl, hsame⟩ := ih _ _ k hk hlt
      refine ⟨c :: l₁, l₂, rfl, ?_⟩
      simp only [clustersFrom, hjoin, if_true]
      exact hsame
    · rename_i hjoin
      simp only [hjoin] at hlt
      rcases Nat.lt_or_ge k 2 with hsmall | hbig
      · -- the first cluster ends right here
        obtain rfl : k = 1 := by omega
        exact ⟨[], c :: rest, rfl, by simp [clustersFrom]⟩
      · obtain ⟨l₁, l₂, rfl, hsame⟩ := ih (ClusterState.start (clusterRole c)) [c] (k - 1) (by omega)
          (by simp at hlt; omega)
        refine ⟨c :: l₁, l₂, rfl, ?_⟩
        simp only [clustersFrom, hjoin]
        obtain ⟨j, rfl⟩ : ∃ j, k = j + 2 := ⟨k - 2, by omega⟩
        simp [List.take_succ_cons, hsame]


/-- The leading clusters that fit a room make a text no wider than the room: cut again, they
are the same clusters. -/
theorem charsWidth_takeClustersWithin_le (room : Nat) (l : List Char) :
    charsWidth (takeClustersWithin room (clusters l)) ≤ room := by
  obtain ⟨k, hk, htake, hsum⟩ := takeClustersWithin_eq room (clusters l)
  rw [htake]
  suffices hsame : clusters ((clusters l).take k).flatten = (clusters l).take k by
    rw [charsWidth, hsame]
    exact hsum
  cases l with
  | nil => simp [clusters]
  | cons c rest =>
    rcases Nat.eq_zero_or_pos k with rfl | hpos
    · simp [clusters]
    rcases Nat.lt_or_ge k (clusters (c :: rest)).length with hlt | hge
    · obtain ⟨l₁, l₂, -, hfront⟩ := clustersFrom_take _ [c] rest k hpos hlt
      have hflat := flatten_clustersFrom (ClusterState.start (clusterRole c)) [c] l₁
      simp only [clusters] at hfront ⊢
      rw [← hfront, hflat]
      rfl
    · have hflat := flatten_clustersFrom (ClusterState.start (clusterRole c)) [c] rest
      rw [List.take_of_length_le hge]
      simp only [clusters] at hflat ⊢
      rw [hflat]
      rfl

/-- A text cut to a width with a tail after the cut is no wider than the width, when the tail's
characters take no more cells together than the tail does and the tail fits. -/
theorem displayWidth_truncateTo_le (s : String) (width : Nat) (tail : String)
    (htail : (tail.toList.map charWidth).sum ≤ displayWidth tail)
    (hfits : displayWidth tail ≤ width) :
    displayWidth (truncateTo s width tail) ≤ width := by
  unfold truncateTo
  split
  · assumption
  · rw [displayWidth_eq_charsWidth, String.toList_append, String.toList_ofList]
    have hcut := charsWidth_takeClustersWithin_le (width - displayWidth tail) s.toList
    have hend := charsWidth_append_le
      (takeClustersWithin (width - displayWidth tail) (clusters s.toList)) tail.toList
    omega

/-- `k` spaces. -/
def spaces (k : Nat) : String := String.ofList (List.replicate k ' ')

theorem spaces_two : spaces 2 = "  " := by decide

/-- Spaces take one cell each. -/
theorem displayWidth_spaces (k : Nat) : displayWidth (spaces k) = k := by
  have hrole : clusterRole ' ' = .other := by decide +kernel
  have hwidth : clusterWidth [' '] = 1 := by decide +kernel
  have hapart : (ClusterState.start .other).joins .other = false := by decide
  -- every space starts a cluster of its own
  have hcut : ∀ n, clustersFrom (ClusterState.start .other) [' '] (List.replicate n ' ') =
      List.replicate (n + 1) [' '] := by
    intro n
    induction n with
    | zero => rfl
    | succ n ih =>
      simp only [List.replicate_succ, clustersFrom, hrole, hapart]
      simp [ih, List.replicate_succ]
  cases k with
  | zero => rfl
  | succ k =>
    simp only [displayWidth_eq_charsWidth, charsWidth, spaces, String.toList_ofList,
      List.replicate_succ, clusters, hrole]
    rw [hcut k]
    simp [hwidth]


/-! ### The contract of a width library -/

namespace CellWidths

/-- What the layout needs of a width library.  Each law stands for a documented behaviour of
the library the tool links. -/
structure Lawful (lib : CellWidths) : Prop where
  /-- Spaces take one cell each. -/
  width_spaces : ∀ k, lib.displayWidth (spaces k) = k
  /-- Filling a text on the right to `w` cells adds the spaces it lacks, none when it is as
  wide already. -/
  fillRight_eq : ∀ s w, lib.fillRight s w = s ++ spaces (w - lib.displayWidth s)
  /-- A text cut to `w` cells with nothing after the cut takes at most `w` cells. -/
  truncate_le : ∀ s w, lib.displayWidth (lib.truncateTo s w "") ≤ w
  /-- A text cut to `w` cells with "..." after the cut takes at most `w` cells when the dots
  fit. -/
  truncate_ellipsis_le : ∀ s w, 3 ≤ w → lib.displayWidth (lib.truncateTo s w "...") ≤ w

/-- Two spaces, the separator of cells, take two cells. -/
theorem Lawful.width_separator {lib : CellWidths} (hlib : lib.Lawful) :
    lib.displayWidth "  " = 2 := by
  rw [← spaces_two]
  exact hlib.width_spaces 2

/-- The linked widths keep the contract. -/
theorem terminal_lawful : terminal.Lawful where
  width_spaces := displayWidth_spaces
  fillRight_eq _ _ := rfl
  truncate_le s w := by
    have hnone : ("".toList.map charWidth).sum = 0 ∧ Text.displayWidth "" = 0 := by
      decide +kernel
    exact displayWidth_truncateTo_le s w "" (by omega) (by omega)
  truncate_ellipsis_le s w h := by
    have hdots : ("...".toList.map charWidth).sum = 3 ∧ Text.displayWidth "..." = 3 := by
      decide +kernel
    exact displayWidth_truncateTo_le s w "..." (by omega) (by omega)

end CellWidths

/-! ### Lines and column widths -/

section Layout

variable {lib : CellWidths}

/-- The lines of a table below its title, as cells: the column names, then each row's cells as
printed. -/
def Table.lineCells (lib : CellWidths) (t : Table) : List (List String) :=
  t.columns :: t.rows.map (t.rowCells lib)

/-- The table is its title and a blank line when it has a title, then one line per entry of
`lineCells`. -/
theorem Table.renderWith_eq (t : Table) :
    t.renderWith lib = (if t.title = "" then "" else t.title ++ "\n\n") ++
      String.join ((t.lineCells lib).map fun cells =>
        tableLine lib cells (t.columnWidths lib) ++ "\n") := by
  simp only [Table.renderWith, Table.lineCells, List.map_cons, List.map_map, String.join_cons,
    String.append_assoc]
  rfl

theorem Table.length_rowCells (t : Table) (row : List String) :
    (t.rowCells lib row).length = t.columns.length := by
  simp [Table.rowCells]

theorem Table.length_columnWidths (t : Table) :
    (t.columnWidths lib).length = t.columns.length := by
  simp [Table.columnWidths]

/-- Every line has one cell per column. -/
theorem Table.length_of_mem_lineCells {t : Table} {cells : List String}
    (h : cells ∈ t.lineCells lib) : cells.length = t.columns.length := by
  simp only [Table.lineCells, List.mem_cons, List.mem_map] at h
  rcases h with rfl | ⟨row, -, rfl⟩
  · rfl
  · exact t.length_rowCells row

/-! The largest of a start and a list. -/

theorem le_foldl_max_start (l : List Nat) (a : Nat) : a ≤ l.foldl max a := by
  induction l generalizing a with
  | nil => exact Nat.le_refl a
  | cons b l ih => exact Nat.le_trans (Nat.le_max_left a b) (ih (max a b))

theorem le_foldl_max_of_mem {l : List Nat} {b : Nat} (h : b ∈ l) (a : Nat) : b ≤ l.foldl max a := by
  induction l generalizing a with
  | nil => cases h
  | cons c l ih =>
    rcases List.mem_cons.1 h with rfl | hb
    · exact Nat.le_trans (Nat.le_max_right a b) (le_foldl_max_start l (max a b))
    · exact ih hb (max a c)

theorem foldl_max_eq_start_or_mem (l : List Nat) (a : Nat) : l.foldl max a = a ∨ l.foldl max a ∈ l := by
  induction l generalizing a with
  | nil => exact .inl rfl
  | cons b l ih =>
    rcases ih (max a b) with h | h
    · rw [List.foldl_cons, h]
      rcases Nat.le_total a b with hab | hab
      · exact .inr (by simp [Nat.max_eq_right hab])
      · exact .inl (Nat.max_eq_left hab)
    · exact .inr (List.mem_cons_of_mem b h)


/-- The width of column `i` is the largest display width of its name and its printed cells. -/
theorem Table.columnWidths_getD (t : Table) {i : Nat} (hi : i < t.columns.length) :
    (t.columnWidths lib).getD i 0 =
      (t.rows.map fun row => lib.displayWidth ((t.rowCells lib row).getD i "")).foldl max
        (lib.displayWidth (t.columns.getD i "")) := by
  simp [Table.columnWidths, List.getD_eq_getElem?_getD, hi]

theorem Table.le_columnWidths {t : Table} {cells : List String} (h : cells ∈ t.lineCells lib)
    {i : Nat} (hi : i < t.columns.length) :
    lib.displayWidth (cells.getD i "") ≤ (t.columnWidths lib).getD i 0 := by
  rw [t.columnWidths_getD hi]
  simp only [Table.lineCells, List.mem_cons, List.mem_map] at h
  rcases h with rfl | ⟨row, hrow, rfl⟩
  · exact le_foldl_max_start _ _
  · exact le_foldl_max_of_mem
      (List.mem_map_of_mem (f := fun row => lib.displayWidth ((t.rowCells lib row).getD i "")) hrow) _

theorem Table.columnWidths_attained (t : Table) {i : Nat} (hi : i < t.columns.length) :
    (t.columnWidths lib).getD i 0 = lib.displayWidth (t.columns.getD i "") ∨
      ∃ row ∈ t.rows, (t.columnWidths lib).getD i 0 = lib.displayWidth ((t.rowCells lib row).getD i "") := by
  rw [t.columnWidths_getD hi]
  rcases foldl_max_eq_start_or_mem
      (t.rows.map fun row => lib.displayWidth ((t.rowCells lib row).getD i ""))
      (lib.displayWidth (t.columns.getD i "")) with h | h
  · exact .inl h
  · obtain ⟨row, hrow, hw⟩ := List.mem_map.1 h
    exact .inr ⟨row, hrow, hw.symm⟩

/-! ### Where each cell of a line stands -/

/-- The pieces of a line before its cell `i`, after the indent: each earlier cell, the spaces
that pad it to its column, and the two spaces that separate it from the next. -/
def cellsBefore (lib : CellWidths) : List String → List Nat → Nat → List String
  | c :: rest, ws, i + 1 =>
    [c, spaces (ws.headD 0 - lib.displayWidth c), "  "] ++ cellsBefore lib rest ws.tail i
  | _, _, _ => []

/-- What comes before cell `i` of a line: the indent, then `cellsBefore`. -/
def piecesBefore (lib : CellWidths) (cells : List String) (widths : List Nat) (i : Nat) :
    List String :=
  "  " :: cellsBefore lib cells widths i

theorem padCells_cons_cons (c d : String) (rest : List String) (ws : List Nat) :
    padCells lib (c :: d :: rest) ws =
      lib.fillRight c (ws.headD 0) :: padCells lib (d :: rest) ws.tail := by
  cases ws <;> rfl

theorem padCells_cons_ne_nil (c : String) (rest : List String) (ws : List Nat) :
    padCells lib (c :: rest) ws ≠ [] := by
  cases rest with
  | nil => simp [padCells]
  | cons d rest => simp [padCells_cons_cons]

/-- Removing the spaces at the end of a text removes nothing else. -/
theorem trimRightSpaces_append_spaces (s : String) :
    ∃ k, trimRightSpaces s ++ spaces k = s := by
  refine ⟨(s.toList.reverse.takeWhile (· = ' ')).length, ?_⟩
  apply String.toList_injective
  have hsplit := List.takeWhile_append_dropWhile (p := fun c => decide (c = ' ')) (l := s.toList.reverse)
  have hspaces : s.toList.reverse.takeWhile (· = ' ') =
      List.replicate (s.toList.reverse.takeWhile (· = ' ')).length ' ' := by
    apply List.eq_replicate_iff.2
    refine ⟨rfl, fun c hc => ?_⟩
    simpa using List.all_eq_true.1 List.all_takeWhile c hc
  have hrev := congrArg List.reverse hsplit
  rw [List.reverse_append, List.reverse_reverse, hspaces, List.reverse_replicate] at hrev
  simp only [trimRightSpaces, spaces, String.toList_append, String.toList_ofList]
  exact hrev

/-- A text with its trailing spaces removed does not end in a space. -/
theorem getLast?_trimRightSpaces (s : String) : (trimRightSpaces s).toList.getLast? ≠ some ' ' := by
  simp only [trimRightSpaces, String.toList_ofList, List.getLast?_reverse]
  intro h
  have hne : s.toList.reverse.dropWhile (· = ' ') ≠ [] := by
    intro hnil
    simp [hnil] at h
  have hstop := List.head_dropWhile_not (fun c => decide (c = ' ')) hne
  rw [List.head?_eq_some_head hne] at h
  simp only [Option.some.injEq] at h
  simp [h] at hstop


/-- Widths add up over a list of texts: the text they make together is as wide as they are. -/
def WidthsAddUp (lib : CellWidths) (pieces : List String) : Prop :=
  lib.displayWidth (String.join pieces) = (pieces.map lib.displayWidth).sum

instance (lib : CellWidths) (pieces : List String) : Decidable (WidthsAddUp lib pieces) :=
  inferInstanceAs (Decidable (_ = _))

section Lawful

variable (hlib : lib.Lawful)
include hlib

/-- A cell cut to a positive limit is no wider than the limit. -/
theorem displayWidth_fitCell_le (maxWidth : Int) (v : String) (h : 0 < maxWidth) :
    lib.displayWidth (Table.fitCell lib maxWidth v) ≤ maxWidth.toNat := by
  unfold Table.fitCell
  rw [if_neg (by omega)]
  split
  · assumption
  · split
    · exact hlib.truncate_le v _
    · exact hlib.truncate_ellipsis_le v _ (by omega)

/-- Cell `i` of a line stands after the cells before it, each padded and followed by two
spaces. -/
theorem intercalate_padCells (cells : List String) (widths : List Nat) (i : Nat)
    (hi : i < cells.length) :
    ∃ R, String.intercalate "  " (padCells lib cells widths) =
      String.join (cellsBefore lib cells widths i) ++ cells.getD i "" ++ R := by
  induction cells generalizing widths i with
  | nil => cases hi
  | cons c rest ih =>
    cases rest with
    | nil =>
      obtain rfl : i = 0 := by simpa using hi
      exact ⟨"", by simp [padCells, cellsBefore]⟩
    | cons d rest =>
      obtain ⟨x, y, hxy⟩ := List.exists_cons_of_ne_nil (padCells_cons_ne_nil d rest widths.tail)
      rw [padCells_cons_cons, hxy, String.intercalate_cons_cons, ← hxy]
      cases i with
      | zero =>
        exact ⟨spaces (widths.headD 0 - lib.displayWidth c) ++ "  " ++
          String.intercalate "  " (padCells lib (d :: rest) widths.tail), by
            simp [cellsBefore, hlib.fillRight_eq, String.append_assoc]⟩
      | succ i =>
        obtain ⟨R, hR⟩ := ih widths.tail i (by simpa using hi)
        refine ⟨R, ?_⟩
        rw [hR]
        simp [cellsBefore, hlib.fillRight_eq, String.join_cons, String.append_assoc]

/-- The pieces before a cell take, together, the columns before it with two spaces after each. -/
theorem sum_cellsBefore (cells : List String) (widths : List Nat) (i : Nat)
    (hwide : ∀ j < i, lib.displayWidth (cells.getD j "") ≤ widths.getD j 0)
    (hi : i ≤ cells.length) (hw : i ≤ widths.length) :
    ((cellsBefore lib cells widths i).map lib.displayWidth).sum =
      ((widths.take i).map (· + 2)).sum := by
  induction cells generalizing widths i with
  | nil =>
    obtain rfl : i = 0 := by simpa using hi
    simp [cellsBefore]
  | cons c rest ih =>
    cases i with
    | zero => simp [cellsBefore]
    | succ i =>
      obtain ⟨w, ws, rfl⟩ :=
        List.exists_cons_of_ne_nil (List.ne_nil_of_length_pos (show 0 < widths.length by omega))
      have hfirst : lib.displayWidth c ≤ w := by simpa using hwide 0 (by omega)
      have hrest := ih ws i (fun j hj => by simpa using hwide (j + 1) (by omega))
        (by simpa using hi) (by simpa using hw)
      simp only [cellsBefore, List.headD_cons, List.tail_cons, List.map_append, List.sum_append,
        List.map_cons, List.map_nil, List.sum_cons, List.sum_nil, hlib.width_spaces,
        hlib.width_separator, hrest, List.take_succ_cons]
      omega

/-- Where the widths of what precedes a cell add up, the cell starts at display column two plus
the widths of the columns before it, each with two spaces. -/
theorem displayWidth_piecesBefore (cells : List String) (widths : List Nat) (i : Nat)
    (hadd : WidthsAddUp lib (piecesBefore lib cells widths i))
    (hwide : ∀ j < i, lib.displayWidth (cells.getD j "") ≤ widths.getD j 0)
    (hi : i ≤ cells.length) (hw : i ≤ widths.length) :
    lib.displayWidth (String.join (piecesBefore lib cells widths i)) =
      2 + ((widths.take i).map (· + 2)).sum := by
  rw [hadd, piecesBefore, List.map_cons, List.sum_cons,
    sum_cellsBefore hlib cells widths i hwide hi hw, hlib.width_separator]

/-- A printed line, with the spaces removed from its end put back, holds the pieces before its
cell `i`, then that cell. -/
theorem tableLine_cell (cells : List String) (widths : List Nat) (i : Nat)
    (hi : i < cells.length) :
    ∃ k R, tableLine lib cells widths ++ spaces k =
      String.join (piecesBefore lib cells widths i) ++ cells.getD i "" ++ R := by
  obtain ⟨R, hR⟩ := intercalate_padCells hlib cells widths i hi
  obtain ⟨k, hk⟩ :=
    trimRightSpaces_append_spaces (String.intercalate "  " (padCells lib cells widths))
  refine ⟨k, R, ?_⟩
  rw [tableLine, String.append_assoc, hk, hR, piecesBefore, String.join_cons]
  simp [String.append_assoc]

end Lawful

end Layout

/-! ### The table -/

/-- The layout of a table, with any width library that keeps its contract.  Below the title
come one line per entry of `lineCells`: the column names, and for each row its first cells, one
per column, missing ones empty, each cut to the limit (when there is one, to at most the
limit's width).  A column's width is the largest display width of its name and its cells.  A
line is two spaces and then text that does not end in a space; with its trailing spaces put
back it holds, before each cell `i`, the indent and each earlier cell padded to its column and
followed by two spaces, and where the widths of these pieces add up, cell `i` starts at display
column `2 + Σ_{j<i} (width_j + 2)`. -/
theorem table_lines_align (lib : CellWidths) (hlib : lib.Lawful) (t : Table) :
    t.renderWith lib = (if t.title = "" then "" else t.title ++ "\n\n") ++
        String.join ((t.lineCells lib).map fun cells =>
          tableLine lib cells (t.columnWidths lib) ++ "\n") ∧
      (∀ row, t.rowCells lib row =
        (List.range t.columns.length).map fun i => Table.fitCell lib t.maxWidth (row.getD i "")) ∧
      (0 < t.maxWidth → ∀ row, ∀ c ∈ t.rowCells lib row, lib.displayWidth c ≤ t.maxWidth.toNat) ∧
      (∀ i < t.columns.length,
        (∀ cells ∈ t.lineCells lib,
          lib.displayWidth (cells.getD i "") ≤ (t.columnWidths lib).getD i 0) ∧
        ((t.columnWidths lib).getD i 0 = lib.displayWidth (t.columns.getD i "") ∨
          ∃ row ∈ t.rows,
            (t.columnWidths lib).getD i 0 = lib.displayWidth ((t.rowCells lib row).getD i ""))) ∧
      ∀ cells ∈ t.lineCells lib,
        (∃ T, tableLine lib cells (t.columnWidths lib) = "  " ++ T ∧
          T.toList.getLast? ≠ some ' ') ∧
        ∀ i < t.columns.length, ∃ k R,
          tableLine lib cells (t.columnWidths lib) ++ spaces k =
            String.join (piecesBefore lib cells (t.columnWidths lib) i) ++ cells.getD i "" ++ R ∧
          (WidthsAddUp lib (piecesBefore lib cells (t.columnWidths lib) i) →
            lib.displayWidth (String.join (piecesBefore lib cells (t.columnWidths lib) i)) =
              2 + (((t.columnWidths lib).take i).map (· + 2)).sum) := by
  refine ⟨t.renderWith_eq, fun row => rfl, ?_, fun i hi => ⟨fun cells h => t.le_columnWidths h hi,
    t.columnWidths_attained hi⟩, ?_⟩
  · intro hlimit row c hc
    simp only [Table.rowCells, List.mem_map, List.mem_range] at hc
    obtain ⟨i, -, rfl⟩ := hc
    exact displayWidth_fitCell_le hlib t.maxWidth _ hlimit
  · intro cells hcells
    have hlength := Table.length_of_mem_lineCells hcells
    refine ⟨⟨_, rfl, getLast?_trimRightSpaces _⟩, fun i hi => ?_⟩
    obtain ⟨k, R, hline⟩ := tableLine_cell hlib cells (t.columnWidths lib) i (by omega)
    refine ⟨k, R, hline, fun hadd => ?_⟩
    exact displayWidth_piecesBefore hlib cells (t.columnWidths lib) i hadd
      (fun j hj => t.le_columnWidths hcells (by omega)) (by omega)
      (by rw [t.length_columnWidths]; omega)

/-- A table with a wide cell: `日本` takes four cells. -/
def wideCellTable : Table := ⟨"", ["A", "B"], [["日本", "x"], ["ab", "y"]], 0⟩

/-- With the linked widths the first column of `wideCellTable` is four cells wide, and on the line
of `日本` the widths of the pieces before the second cell add up, which starts at display
column 8. -/
theorem wide_cells_align :
    WidthsAddUp CellWidths.terminal (piecesBefore CellWidths.terminal
        (wideCellTable.rowCells CellWidths.terminal ["日本", "x"])
        (wideCellTable.columnWidths CellWidths.terminal) 1) ∧
      displayWidth (String.join (piecesBefore CellWidths.terminal
        (wideCellTable.rowCells CellWidths.terminal ["日本", "x"])
        (wideCellTable.columnWidths CellWidths.terminal) 1)) = 8 := by
  have hadd : WidthsAddUp CellWidths.terminal (piecesBefore CellWidths.terminal
      (wideCellTable.rowCells CellWidths.terminal ["日本", "x"])
      (wideCellTable.columnWidths CellWidths.terminal) 1) := by
    decide +kernel
  have hline : wideCellTable.rowCells CellWidths.terminal ["日本", "x"] ∈
      wideCellTable.lineCells CellWidths.terminal := by
    simp [Table.lineCells, wideCellTable]
  obtain ⟨-, -, -, -, hlines⟩ :=
    table_lines_align CellWidths.terminal CellWidths.terminal_lawful wideCellTable
  obtain ⟨k, R, -, hcolumn⟩ := (hlines _ hline).2 1 (by decide)
  refine ⟨hadd, ?_⟩
  rw [show displayWidth = CellWidths.terminal.displayWidth from rfl, hcolumn hadd]
  decide +kernel

end NativeExports.Text
