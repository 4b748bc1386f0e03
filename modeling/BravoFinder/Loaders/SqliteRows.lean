import BravoFinder.Core.Domain
import BravoFinder.Library.SortedIndex
import Mathlib.Data.List.TakeWhile
import Mathlib.Data.Prod.Basic

namespace BravoFinder

/-!
# Rows of SQLite tables

A table is the list of its rows, a query filters it, and `ORDER BY` sorts it
stably by the columns it names.  A text column is read up to its first NUL and
without the blanks around it.
-/

/-- `ColumnText`. -/
def columnText (column : Text) : Text :=
  (((column.takeWhile (· != 0)).dropWhile (· == 32)).reverse.dropWhile (· == 32)).reverse

/-- `ColumnText` of a column that may be null. -/
def nullableText (column : Option Text) : Text :=
  columnText (column.getD [])

/-- `ColumnInt`: the low 32 bits of an integer, and 0 for null. -/
def columnInt (column : Option Int) : Int :=
  (column.map fun value => value.bmod (2 ^ 32)).getD 0

/-- What was read is read again. -/
theorem columnInt_columnInt (column : Option Int) : columnInt (some (columnInt column)) = columnInt column := by
  cases column with
  | none => rfl
  | some value => exact Int.bmod_bmod

/-- `ColumnDouble`, whose 0 has no bits set. -/
def columnDouble (column : Option UInt64) : UInt64 :=
  column.getD 0

/-- `=` of two columns: null equals nothing. -/
def columnsEqual (first second : Option Int) : Bool :=
  first.isSome && first == second

/-- Null comes first. -/
instance strictTotalOrder_nullsFirst {K : Type} {before : K -> K -> Prop} [order : IsStrictTotalOrder K before] :
    IsStrictTotalOrder (Option K) (Option.lt before) where
  trichotomous first second forwards backwards := by
    cases first <;> cases second
    · rfl
    · exact absurd trivial forwards
    · exact absurd trivial backwards
    · exact congrArg some (SortedIndex.eq_of_not_before forwards backwards)
  irrefl column := by
    cases column
    · exact id
    · exact order.toIsStrictOrder.toIrrefl.irrefl _
  trans first second third step next := by
    cases first <;> cases second <;> cases third
    all_goals first
      | exact trivial
      | exact absurd step id
      | exact absurd next id
      | exact order.toIsStrictOrder.toIsTrans.trans _ _ _ step next

/-- The order of a column that may be null. -/
instance decidableLT_column {K : Type} [LT K] [DecidableLT K] : DecidableLT (Option K) :=
  inferInstanceAs (DecidableRel (Option.lt (· < ·)))

instance strictTotalOrder_column {K : Type} [LT K] [order : IsStrictTotalOrder K (· < ·)] :
    IsStrictTotalOrder (Option K) (· < ·) :=
  inferInstanceAs (IsStrictTotalOrder (Option K) (Option.lt (· < ·)))

theorem columnText_sublist (column : Text) : List.Sublist (columnText column) (column.takeWhile (· != 0)) := by
  have trimmed : List.Sublist ((column.takeWhile (· != 0)).dropWhile (· == 32)) (column.takeWhile (· != 0)) :=
    List.dropWhile_sublist _
  refine List.Sublist.trans ?_ trimmed
  rw [columnText]
  exact List.Sublist.trans (List.reverse_sublist.mpr (List.dropWhile_sublist _)) (List.reverse_reverse _ ▸ List.Sublist.refl _)

/-- What is read has no NUL. -/
theorem takeWhile_columnText (column : Text) : (columnText column).takeWhile (· != 0) = columnText column := by
  refine List.takeWhile_eq_self_iff.mpr fun byte member => ?_
  have kept : byte ∈ column.takeWhile (· != 0) := (columnText_sublist column).mem member
  exact List.mem_takeWhile_imp (p := fun byte => byte != 0) kept

/-- `ORDER BY` one column. -/
def orderBy {Row K : Type} [LT K] [DecidableLT K] (column : Row -> K) (rows : List Row) : List Row :=
  SortedIndex.sort column (· < ·) rows

/-- `ORDER BY` two columns. -/
def orderBy2 {Row K L : Type} [DecidableEq K] [LT K] [DecidableLT K] [LT L] [DecidableLT L] (first : Row -> K)
    (second : Row -> L) (rows : List Row) : List Row :=
  SortedIndex.sort (fun row => (first row, second row)) (Prod.Lex (· < ·) (· < ·)) rows

end BravoFinder
