import Campus.Proofs.Data.ByteOrder
import Campus.Proofs.Dataset.Comparison
import Campus.Proofs.Data.Sorting.Stability
import Campus.Query.Ordering
/-!
# Rows in order

A row comes before another if the first column in which they differ says so: there a missing value
comes before any other, numbers stand by value and texts by their bytes. When every order column
holds texts only or numbers other than NaN only, sorting gives the rows in this order, or in the
opposite one for a downward order, and rows that differ in no order column keep their order either
way.
-/

namespace Campus

namespace OrderSpec

/-- One value comes before another in a column. -/
inductive ValuePrecedes : Option Scalar → Option Scalar → Prop
  | missing (value : Scalar) : ValuePrecedes none (some value)
  | numbers {x y : Binary64} (less : x.less y = true) :
    ValuePrecedes (some (.number x)) (some (.number y))
  | texts {s t : String} (less : Bytes.ofText s < Bytes.ofText t) :
    ValuePrecedes (some (.text s)) (some (.text t))

/-- Two values do not differ in a column: both are missing, or numerically equal, or one text. -/
inductive ValuesLevel : Option Scalar → Option Scalar → Prop
  | missing : ValuesLevel none none
  | numbers {x y : Binary64} (equal : x.equals y = true) :
    ValuesLevel (some (.number x)) (some (.number y))
  | texts (s : String) : ValuesLevel (some (.text s)) (some (.text s))

/-- One row comes before another by columns: they do not differ in the first ones, and in the next
its value comes before. -/
def RowPrecedes (columns : List String) (left right : Record) : Prop :=
  ∃ front column back, columns = front ++ column :: back ∧
    (∀ earlier ∈ front, ValuesLevel (left.get? earlier) (right.get? earlier)) ∧
    ValuePrecedes (left.get? column) (right.get? column)

/-- Two rows differ in no column. -/
def RowsLevel (columns : List String) (left right : Record) : Prop :=
  ∀ column ∈ columns, ValuesLevel (left.get? column) (right.get? column)

/-- One row comes before another in an order: by its columns, the other way round if downward. -/
def Precedes (order : OrderSpec) (left right : Record) : Prop :=
  match order.direction with
  | .up => RowPrecedes order.columns left right
  | .down => RowPrecedes order.columns right left

/-- The values that rows have in a column. -/
def columnValues (rows : List Record) (column : String) : Set Scalar :=
  {value | ∃ row ∈ rows, row.get? column = some value}

/-- No row comes before another by no columns. -/
theorem not_rowPrecedes_nil (left right : Record) : ¬RowPrecedes [] left right := by
  rintro ⟨front, column, back, same, _⟩
  simp at same

/-- The first column decides unless the rows do not differ in it. -/
theorem rowPrecedes_cons_iff {column : String} {rest : List String} {left right : Record} :
    RowPrecedes (column :: rest) left right ↔
      ValuePrecedes (left.get? column) (right.get? column) ∨
        ValuesLevel (left.get? column) (right.get? column) ∧ RowPrecedes rest left right := by
  constructor
  · rintro ⟨front, decisive, back, same, level, precedes⟩
    cases front with
    | nil =>
      obtain ⟨rfl, rfl⟩ := List.cons.inj same
      exact .inl precedes
    | cons first others =>
      obtain ⟨rfl, rfl⟩ := List.cons.inj same
      obtain ⟨levelFirst, levelOthers⟩ := List.forall_mem_cons.1 level
      exact .inr ⟨levelFirst, others, decisive, back, rfl, levelOthers, precedes⟩
  · rintro (precedes | ⟨levelFirst, front, decisive, back, rfl, level, precedes⟩)
    · exact ⟨[], column, rest, rfl, by simp, precedes⟩
    · exact ⟨column :: front, decisive, back, rfl, List.forall_mem_cons.2 ⟨levelFirst, level⟩,
        precedes⟩

section

variable {values : Set Scalar} {left right : Option Scalar}

/-- The comparison of values turns around with its sides. -/
theorem compareValues_swap (left right : Option Scalar) :
    compareValues left right = (compareValues right left).swap := by
  cases left with
  | none => cases right <;> rfl
  | some x =>
    cases right with
    | none => rfl
    | some y => exact Scalar.compare_swap x y

/-- Among values of one class the comparison puts before what comes before. -/
theorem compareValues_eq_lt_iff (uniform : Scalar.IsUniform values)
    (first : ∀ value ∈ left, value ∈ values) (second : ∀ value ∈ right, value ∈ values) :
    compareValues left right = .lt ↔ ValuePrecedes left right := by
  constructor
  · intro less
    cases left with
    | none =>
      cases right with
      | none => cases less
      | some value => exact .missing value
    | some a =>
      cases right with
      | none => cases less
      | some b =>
        have compared : a.compare b = .lt := less
        rcases uniform.pair (first a rfl) (second b rfl) with
          ⟨s, t, rfl, rfl⟩ | ⟨x, y, rfl, rfl, _, _⟩
        · rw [Scalar.compare_text_left] at compared
          exact .texts (Bytes.ofText_lt_iff.2 (compare_lt_iff_lt.1 compared))
        · exact .numbers (Scalar.compare_number_eq_lt_iff.1 compared)
  · intro precedes
    cases precedes with
    | missing => rfl
    | numbers less => exact Scalar.compare_number_eq_lt_iff.2 less
    | @texts s t less =>
      show Ord.compare s t = .lt
      exact compare_lt_iff_lt.2 (Bytes.ofText_lt_iff.1 less)

/-- Among values of one class the comparison is level where there is no difference. -/
theorem compareValues_eq_eq_iff (uniform : Scalar.IsUniform values)
    (first : ∀ value ∈ left, value ∈ values) (second : ∀ value ∈ right, value ∈ values) :
    compareValues left right = .eq ↔ ValuesLevel left right := by
  cases left with
  | none =>
    cases right with
    | none => exact iff_of_true rfl .missing
    | some b => exact iff_of_false (by simp [compareValues]) (by rintro ⟨⟩)
  | some a =>
    cases right with
    | none => exact iff_of_false (by simp [compareValues]) (by rintro ⟨⟩)
    | some b =>
      show a.compare b = .eq ↔ _
      rcases uniform.pair (first a rfl) (second b rfl) with
        ⟨s, t, rfl, rfl⟩ | ⟨x, y, rfl, rfl, someX, someY⟩
      · rw [Scalar.compare_text_left]
        show Ord.compare s t = .eq ↔ _
        rw [compare_eq_iff_eq]
        constructor
        · rintro rfl
          exact .texts s
        · rintro ⟨⟩
          rfl
      · rw [Scalar.compare_number_eq_eq_iff_equals someX someY]
        constructor
        · exact .numbers
        · intro level
          cases level with
          | numbers equal => exact equal

/-- Among values of one class the comparison is lawful. -/
theorem compareValues_isLE_trans (uniform : Scalar.IsUniform values) {middle : Option Scalar}
    (first : ∀ value ∈ left, value ∈ values) (second : ∀ value ∈ middle, value ∈ values)
    (third : ∀ value ∈ right, value ∈ values) (ahead : (compareValues left middle).isLE)
    (behind : (compareValues middle right).isLE) : (compareValues left right).isLE := by
  cases left with
  | none => cases right <;> rfl
  | some a =>
    cases middle with
    | none => cases ahead
    | some b =>
      cases right with
      | none => cases behind
      | some c =>
        rw [Ordering.isLE_iff_ne_gt] at ahead behind ⊢
        exact uniform.isCoherent.isPreordered a (first a rfl) b (second b rfl) c (third c rfl)
          ahead behind

end

section

variable {rows : List Record} {columns : List String} {left right : Record}

/-- The values of a row are among those of its column. -/
theorem mem_columnValues (member : left ∈ rows) (column : String) :
    ∀ value ∈ left.get? column, value ∈ columnValues rows column :=
  fun _ found => ⟨left, member, found⟩

/-- Rows compare as the first column in which they differ. -/
theorem compareBy_cons (column : String) (rest : List String) (left right : Record) :
    compareBy (column :: rest) left right =
      (compareValues (left.get? column) (right.get? column)).then (compareBy rest left right) := by
  rw [compareBy]
  cases compareValues (left.get? column) (right.get? column) <;> rfl

/-- The comparison of rows turns around with its sides. -/
theorem compareBy_swap (columns : List String) (left right : Record) :
    (compareBy columns left right).swap = compareBy columns right left := by
  induction columns with
  | nil => rfl
  | cons column rest ih =>
    rw [compareBy_cons, compareBy_cons, Ordering.swap_then, ih, ← compareValues_swap]

/-- A row is on a level with itself. -/
theorem compareBy_self (columns : List String) (row : Record) :
    compareBy columns row row = .eq := by
  have turned := compareBy_swap columns row row
  cases compared : compareBy columns row row with
  | eq => rfl
  | lt | gt =>
    rw [compared] at turned
    cases turned

/-- The comparison of rows puts before what comes before by the columns. -/
theorem compareBy_eq_lt_iff
    (uniform : ∀ column ∈ columns, Scalar.IsUniform (columnValues rows column))
    (first : left ∈ rows) (second : right ∈ rows) :
    compareBy columns left right = .lt ↔ RowPrecedes columns left right := by
  induction columns with
  | nil => exact iff_of_false (by simp [compareBy]) (not_rowPrecedes_nil left right)
  | cons column rest ih =>
    obtain ⟨here, later⟩ := List.forall_mem_cons.1 uniform
    have mine := mem_columnValues first column
    have other := mem_columnValues second column
    rw [compareBy_cons, rowPrecedes_cons_iff, Ordering.then_eq_lt,
      compareValues_eq_lt_iff here mine other, compareValues_eq_eq_iff here mine other, ih later]

/-- The comparison of rows is level where they differ in no column. -/
theorem compareBy_eq_eq_iff
    (uniform : ∀ column ∈ columns, Scalar.IsUniform (columnValues rows column))
    (first : left ∈ rows) (second : right ∈ rows) :
    compareBy columns left right = .eq ↔ RowsLevel columns left right := by
  induction columns with
  | nil => exact iff_of_true rfl (by simp [RowsLevel])
  | cons column rest ih =>
    obtain ⟨here, later⟩ := List.forall_mem_cons.1 uniform
    have mine := mem_columnValues first column
    have other := mem_columnValues second column
    rw [compareBy_cons, Ordering.then_eq_eq, compareValues_eq_eq_iff here mine other, ih later,
      RowsLevel, RowsLevel, List.forall_mem_cons]

/-- The comparison of rows is lawful if every column holds values of one class. -/
theorem transCmp_compareBy
    (uniform : ∀ column ∈ columns, Scalar.IsUniform (columnValues rows column)) :
    Std.TransCmp fun left right : {row // row ∈ rows} => compareBy columns left.1 right.1 := by
  induction columns with
  | nil =>
    refine @Std.TransCmp.mk _ _ ⟨rfl⟩ fun _ _ => rfl
  | cons column rest ih =>
    obtain ⟨here, later⟩ := List.forall_mem_cons.1 uniform
    have others := ih later
    have byColumn : Std.TransCmp fun left right : {row // row ∈ rows} =>
        compareValues (left.1.get? column) (right.1.get? column) := by
      refine @Std.TransCmp.mk _ _ ⟨compareValues_swap _ _⟩ ?_
      intro left middle right ahead behind
      exact compareValues_isLE_trans here (mem_columnValues left.2 column)
        (mem_columnValues middle.2 column) (mem_columnValues right.2 column) ahead behind
    have both : Std.TransCmp (compareLex
        (fun left right : {row // row ∈ rows} =>
          compareValues (left.1.get? column) (right.1.get? column))
        fun left right => compareBy rest left.1 right.1) := inferInstance
    simp only [compareBy_cons]
    exact both

end

section

variable {order : OrderSpec} {rows : List Record}

/-- What the comparison of rows in an order puts before is what comes before in it. -/
theorem compareRows_eq_lt_iff
    (uniform : ∀ column ∈ order.columns, Scalar.IsUniform (columnValues rows column))
    {left right : Record} (first : left ∈ rows) (second : right ∈ rows) :
    (order.compareRows left right == .lt) = true ↔ order.Precedes left right := by
  rw [beq_iff_eq, compareRows, Precedes]
  cases order.direction with
  | up => exact compareBy_eq_lt_iff uniform first second
  | down =>
    rw [compareBy_swap]
    exact compareBy_eq_lt_iff uniform second first

/-- What comes before in an order is a strict weak order of the rows. -/
theorem isWeakOrder_compareRows
    (uniform : ∀ column ∈ order.columns, Scalar.IsUniform (columnValues rows column)) :
    StableSort.IsWeakOrderOn (fun left right => order.compareRows left right == .lt) rows := by
  have lawful := transCmp_compareBy uniform
  have upward := StableSort.isWeakOrder_of_transCmp
    fun left right : {row // row ∈ rows} => compareBy order.columns left.1 right.1
  unfold compareRows
  cases order.direction with
  | up => exact upward
  | down =>
    simp only [compareBy_swap]
    exact upward.flip

/-- Of rows on a level with one row none comes before another in either direction. -/
theorem compareRows_eq_lt_of_level
    (uniform : ∀ column ∈ order.columns, Scalar.IsUniform (columnValues rows column))
    {row left right : Record} (third : row ∈ rows) (first : left ∈ rows) (second : right ∈ rows)
    (alike : compareBy order.columns row left = .eq)
    (other : compareBy order.columns row right = .eq) :
    (order.compareRows left right == .lt) = false := by
  have lawful := transCmp_compareBy uniform
  have through : compareBy order.columns row right = compareBy order.columns left right :=
    lawful.congr_left (a := ⟨row, third⟩) (b := ⟨left, first⟩) (c := ⟨right, second⟩) alike
  have level : compareBy order.columns left right = .eq := by rw [← through, other]
  rw [compareRows, level]
  cases order.direction <;> rfl

/-- If every order column holds texts only or numbers other than NaN only, then rows can be sorted.
Sorted rows are the rows, each as often as before, no row stands after one that it comes before in
the order, and rows that differ in no order column keep their order, also when the order is
downward. -/
theorem sort_isStable (order : OrderSpec) (rows : List Record)
    (uniform : ∀ column ∈ order.columns, Scalar.IsUniform (columnValues rows column)) :
    ∃ sorted, order.sort rows = some sorted ∧ sorted.Perm rows ∧
      (sorted.Pairwise fun earlier later => ¬order.Precedes later earlier) ∧
      ∀ tied : List Record, tied.Sublist rows → tied.Pairwise (RowsLevel order.columns) →
        tied.Sublist sorted := by
  have weak := isWeakOrder_compareRows uniform
  obtain ⟨sorted, found⟩ := Option.isSome_iff_exists.1 (StableSort.isSome_sort_of_mem (.inr weak))
  have perm : sorted.Perm rows := StableSort.perm_sort found
  refine ⟨sorted, found, perm, ?_, fun tied within level => ?_⟩
  · apply (StableSort.pairwise_sort_of_mem weak found).imp_of_mem
    intro earlier later first second notLess
    have compared := compareRows_eq_lt_iff uniform (perm.mem_iff.1 second) (perm.mem_iff.1 first)
    rw [← compared, notLess]
    exact Bool.false_ne_true
  · cases tied with
    | nil => exact List.nil_sublist _
    | cons row others =>
      -- All tied rows are on a level with the first, and no row passes another on this level.
      have member : ∀ other ∈ row :: others, other ∈ rows := fun _ => within.mem
      have mine : row ∈ rows := member row List.mem_cons_self
      let alike (other : Record) : Bool := compareBy order.columns row other == .eq
      have kept : sorted.filter alike = rows.filter alike := by
        apply StableSort.filter_sort_of_mem weak found
        intro left first right second one two
        exact compareRows_eq_lt_of_level uniform mine first second (eq_of_beq one) (eq_of_beq two)
      have all : (row :: others).filter alike = row :: others := by
        refine List.filter_eq_self.2 fun other listed => beq_iff_eq.2 ?_
        rcases List.mem_cons.1 listed with rfl | later
        · exact compareBy_self _ _
        · exact (compareBy_eq_eq_iff uniform mine (member other listed)).2
            ((List.pairwise_cons.1 level).1 other later)
      have moved := within.filter alike
      rw [all, ← kept] at moved
      exact moved.trans List.filter_sublist

end

/-- A row with a number of seats. -/
def seatsRow (seats : Binary64) : Record := (∅ : Record).insert "rooms_seats" (.number seats)

/-- The most seats first. -/
def mostSeats : OrderSpec := .keys .down ["rooms_seats"]

/-- Rows with both zeros keep their order behind the row with one seat. -/
theorem sort_isStable_seats :
    (∀ column ∈ mostSeats.columns, Scalar.IsUniform (columnValues
      [seatsRow 0, seatsRow (.ofMagnitude true 0), seatsRow (.ofNat 1)] column)) ∧
    ∃ sorted, mostSeats.sort
        [seatsRow 0, seatsRow (.ofMagnitude true 0), seatsRow (.ofNat 1)] = some sorted ∧
      [seatsRow 0, seatsRow (.ofMagnitude true 0)].Sublist sorted := by
  have found (seats : Binary64) : (seatsRow seats).get? "rooms_seats" = some (.number seats) :=
    Keyed.get?_insert ..
  have uniform : ∀ column ∈ mostSeats.columns, Scalar.IsUniform (columnValues
      [seatsRow 0, seatsRow (.ofMagnitude true 0), seatsRow (.ofNat 1)] column) := by
    intro column member
    obtain rfl : column = "rooms_seats" := List.mem_singleton.1 member
    right
    rintro value ⟨row, listed, has⟩
    simp only [List.mem_cons, List.not_mem_nil, or_false] at listed
    rcases listed with rfl | rfl | rfl <;> rw [found] at has <;> cases has
    · exact ⟨_, rfl, by decide⟩
    · exact ⟨_, rfl, by decide⟩
    · exact ⟨_, rfl, by decide +kernel⟩
  obtain ⟨sorted, succeeded, _, _, stable⟩ := sort_isStable mostSeats _ uniform
  refine ⟨uniform, sorted, succeeded, stable _ (by simp) ?_⟩
  refine List.pairwise_pair.2 fun column member => ?_
  obtain rfl : column = "rooms_seats" := List.mem_singleton.1 member
  rw [found, found]
  exact .numbers (by decide)

end OrderSpec
end Campus
