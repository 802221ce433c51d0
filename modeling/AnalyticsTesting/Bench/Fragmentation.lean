import AnalyticsTesting.Lib.Blocks

set_option autoImplicit false

/-! # The layouts of the fragmentation benchmark

`bench/track_a.py`, `test2_fragmentation`: one dataset is written in several layouts, under the
labels `1_files` to `1000_files`; each `PARTITION_BY` a column `part` computed from the row number.
What DuckDB does with the partitions (the files it writes, and reading them back) is left out.

Rows are numbered from 1, so the partition of the quotient 0 has one row less than the others and
the last row is a partition of its own. `labelledLayout_iff`: a layout of several rows a file always
has one file more than its label says. -/

namespace AnalyticsTesting.Bench

/-- `per`. -/
def rowsPerPart (rows files : Nat) : Nat := max 1 (rows / files)

/-- The column `(row_number() OVER ()) // per`: row numbers start at 1. -/
def partColumn (rows files : Nat) : List Nat :=
  (List.range' 1 rows).map fun rowNumber => rowNumber / rowsPerPart rows files

/-- The partitions of a layout: the distinct values of the column. -/
def layoutParts (rows files : Nat) : List Nat := (partColumn rows files).dedup

/-- How many rows a partition has. -/
def rowsInPart (rows files part : Nat) : Nat := (partColumn rows files).count part

/-! ## When a layout has the labelled number of files -/

/-- The layout has the number of parts in its label, of equally many rows. -/
def LabelledLayout (rows files : Nat) : Prop :=
  (layoutParts rows files).length = files ∧
    ∀ part ∈ layoutParts rows files, rowsInPart rows files part = rows / files

variable {rows files : Nat}

theorem partColumn_eq_labels (rows files : Nat) :
    partColumn rows files = Blocks.labels 1 rows (rowsPerPart rows files) := rfl

theorem rowsPerPart_pos (rows files : Nat) : 0 < rowsPerPart rows files :=
  Nat.lt_of_lt_of_le Nat.one_pos (Nat.le_max_left _ _)

/-- The number of parts, for all sizes. -/
theorem length_layoutParts (hrows : 0 < rows) :
    (layoutParts rows files).length
      = rows / rowsPerPart rows files + 1 - 1 / rowsPerPart rows files := by
  rw [layoutParts, partColumn_eq_labels, Blocks.length_dedup_labels hrows (rowsPerPart_pos _ _),
    Nat.add_sub_cancel_left]

/-- The rows of a part, for all sizes. -/
theorem rowsInPart_eq (part : Nat) :
    rowsInPart rows files part
      = min (1 + rows) (part * rowsPerPart rows files + rowsPerPart rows files)
        - max 1 (part * rowsPerPart rows files) := by
  rw [rowsInPart, partColumn_eq_labels, Blocks.count_labels (rowsPerPart_pos _ _)]

/-- Where the files divide the rows, a part has `rows / files` of them by intention. -/
theorem rowsPerPart_of_dvd (hfiles : 1 ≤ files) (hle : files ≤ rows) :
    rowsPerPart rows files = rows / files :=
  max_eq_right (Nat.div_pos hle hfiles)

/-- One row a file: nothing is shifted. -/
theorem labelledLayout_self (hfiles : 1 ≤ files) : LabelledLayout files files := by
  have hper : rowsPerPart files files = 1 := by
    rw [rowsPerPart_of_dvd hfiles le_rfl, Nat.div_self hfiles]
  refine ⟨?_, ?_⟩
  · rw [length_layoutParts hfiles, hper]
    simp
  · intro part hpart
    have hpos : part ∈ layoutParts files files ↔ 1 ≤ part ∧ part ≤ files := by
      rw [layoutParts, List.mem_dedup, partColumn_eq_labels, hper,
        Blocks.mem_labels_iff hfiles Nat.one_pos]
      simp
    rw [rowsInPart_eq, hper, Nat.div_self hfiles]
    have hin := hpos.1 hpart
    omega

/-- **Several rows a file: one part more than the label says.** -/
theorem length_layoutParts_of_lt (hfiles : 1 ≤ files) (hlt : files < rows) (hdvd : files ∣ rows) :
    (layoutParts rows files).length = files + 1 := by
  obtain ⟨per, rfl⟩ := hdvd
  have hper : rowsPerPart (files * per) files = per := by
    rw [rowsPerPart_of_dvd hfiles hlt.le, Nat.mul_div_cancel_left per hfiles]
  have hone : 1 < per := by
    by_contra hle
    have hmul : files * per ≤ files * 1 := Nat.mul_le_mul_left files (not_lt.1 hle)
    omega
  rw [length_layoutParts (by omega), hper, Nat.mul_div_cancel _ (by omega),
    Nat.div_eq_of_lt hone, Nat.sub_zero]

/-- **When the label is right**: of the layouts whose files divide the rows, exactly those of one
    row a file have the parts their label says, each with its share of the rows. -/
theorem labelledLayout_iff (hfiles : 1 ≤ files) (hle : files ≤ rows) (hdvd : files ∣ rows) :
    LabelledLayout rows files ↔ files = rows := by
  constructor
  · rintro ⟨hlength, -⟩
    by_contra hne
    have hmore := length_layoutParts_of_lt hfiles (lt_of_le_of_ne hle hne) hdvd
    omega
  · rintro rfl
    exact labelledLayout_self hfiles

theorem labelledLayout_iff_thousand :
    (1 ≤ 1000 ∧ 1000 ≤ 1000 ∧ 1000 ∣ 1000) ∧ LabelledLayout 1000 1000 :=
  ⟨⟨by decide, by decide, by decide⟩,
    (labelledLayout_iff (by decide) (by decide) (by decide)).2 rfl⟩

/-- A million rows under the label `10_files` are eleven partitions. -/
theorem not_labelledLayout_million :
    ¬ ∀ rows files : Nat, 1 ≤ files → files ≤ rows → files ∣ rows → LabelledLayout rows files := by
  intro hall
  have hlabel := (hall 1000000 10 (by omega) (by omega) (by omega)).1
  rw [length_layoutParts_of_lt (by omega) (by omega) (by omega)] at hlabel
  omega

end AnalyticsTesting.Bench
