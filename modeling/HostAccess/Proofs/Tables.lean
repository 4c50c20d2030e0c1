import HostAccess.Store.Table

/-! # Legal tables

A table is legal when its rows keep what is declared of them. Starting from a legal table a write is
accepted exactly if what it leaves is legal again, so that later arguments speak of the rows that
are there and not of the order in which they were looked at. -/
namespace HostAccess.Table

variable {ρ : Type}

/-- A table with other rows under the same declarations. -/
def withRows (t : Table ρ) (rows : List ρ) : Table ρ := { t with rows := rows }

@[simp] theorem withRows_rows (t : Table ρ) (rows : List ρ) : (t.withRows rows).rows = rows := rfl

@[simp] theorem withRows_withRows (t : Table ρ) (rows more : List ρ) :
    (t.withRows rows).withRows more = t.withRows more := rfl

@[simp] theorem withRows_self (t : Table ρ) : t.withRows t.rows = t := rfl

/-- Where rows differ in a key, looking for a key that is there finds its row. -/
theorem find?_key {κ : Type} [BEq κ] [LawfulBEq κ] {key : ρ → κ} {rows : List ρ} {row : ρ}
    (apart : rows.Pairwise fun a b => key a ≠ key b) (present : row ∈ rows) :
    rows.find? (key · == key row) = some row := by
  induction rows with
  | nil => exact absurd present List.not_mem_nil
  | cons first rest ih =>
    obtain ⟨differ, apart⟩ := List.pairwise_cons.mp apart
    rcases List.mem_cons.mp present with rfl | later
    · exact List.find?_cons_of_pos (by simp)
    -- The first row has another key, so the search passes it by.
    · rw [List.find?_cons_of_neg (by simpa using differ row later)]
      exact ih apart later

section Keys

variable {κ : Type} [BEq κ] [LawfulBEq κ] {key : ρ → κ} {rows : List ρ}

theorem of_find?_key {k : κ} {row : ρ} (hit : rows.find? (key · == k) = some row) :
    row ∈ rows ∧ key row = k :=
  ⟨List.mem_of_find?_eq_some hit, by simpa using List.find?_some hit⟩

variable (apart : rows.Pairwise fun a b => key a ≠ key b)

include apart

theorem find?_key_eq_some_iff {k : κ} {row : ρ} :
    rows.find? (key · == k) = some row ↔ row ∈ rows ∧ key row = k := by
  constructor
  · exact of_find?_key
  · rintro ⟨present, rfl⟩
    exact find?_key apart present

theorem eq_of_key {a b : ρ} (first : a ∈ rows) (second : b ∈ rows) (same : key a = key b) :
    a = b := by
  have found := find?_key apart first
  rw [same, find?_key apart second] at found
  exact (Option.some.inj found).symm

end Keys

variable [Row ρ]

/-- A row meets the conditions on all fields. -/
def Fits (t : Table ρ) (row : ρ) : Prop := ∀ field ∈ t.fields, meets row field = true

/-- Two rows differ in the key of every unique index, and have no record id in common. -/
def Apart (t : Table ρ) (a b : ρ) : Prop :=
  (∀ index ∈ t.indexes, index.unique = true → sameKey index a b = false) ∧
    ∀ id, Row.id a = some id → Row.id b ≠ some id

structure Legal (t : Table ρ) : Prop where
  fits : ∀ row ∈ t.rows, t.Fits row
  apart : t.rows.Pairwise t.Apart

/-! ## Keys and conditions -/

theorem sameKey_iff {index : Index} {a b : ρ} :
    sameKey index a b = true ↔ ∀ column ∈ index.columns, Row.cell a column = Row.cell b column := by
  simp [sameKey, List.all_eq_true]

theorem sameKey_comm (index : Index) (a b : ρ) : sameKey index a b = sameKey index b a := by
  rw [Bool.eq_iff_iff, sameKey_iff, sameKey_iff]
  exact ⟨fun same column member => (same column member).symm,
    fun same column member => (same column member).symm⟩

theorem brokenField?_eq_none_iff {t : Table ρ} {row : ρ} :
    t.brokenField? row = none ↔ t.Fits row := by
  simp [brokenField?, Fits, List.find?_eq_none]

theorem takenIndex?_eq_none_iff {t : Table ρ} {row : ρ} :
    t.takenIndex? row = none ↔
      ∀ other ∈ t.rows, ∀ index ∈ t.indexes, index.unique = true → sameKey index other row = false := by
  -- The search asks about each index for all rows, the statement about each row for all indexes.
  simp only [takenIndex?, List.find?_eq_none, Bool.and_eq_true, List.any_eq_true, not_and,
    not_exists, Bool.not_eq_true, sameKey_comm _ row]
  exact ⟨fun free other present index member unique => free index member unique other present,
    fun free index member unique other present => free other present index member unique⟩

theorem hasId_iff {t : Table ρ} {id : String} :
    t.hasId id = true ↔ ∃ row ∈ t.rows, Row.id row = some id := by
  simp [hasId, List.any_eq_true]

private theorem filter_hasId_eq_none_iff {t : Table ρ} {row : ρ} :
    (Row.id row).filter t.hasId = none ↔
      ∀ other ∈ t.rows, ∀ id, Row.id other = some id → Row.id row ≠ some id := by
  simp only [Option.filter_eq_none_iff, Bool.not_eq_true]
  constructor
  · intro free other present id named taken
    have used : t.hasId id = true := hasId_iff.mpr ⟨other, present, named⟩
    simp [free id taken] at used
  · intro free id named
    rw [← Bool.not_eq_true, hasId_iff]
    rintro ⟨other, present, taken⟩
    exact free other present id taken named

/-! ## Parts of a legal table -/

theorem legal_nil {t : Table ρ} : (t.withRows []).Legal :=
  ⟨fun _ member => absurd member List.not_mem_nil, .nil⟩

theorem legal_append_iff {t : Table ρ} {old new : List ρ} :
    (t.withRows (old ++ new)).Legal ↔
      (t.withRows old).Legal ∧ (t.withRows new).Legal ∧ ∀ a ∈ old, ∀ b ∈ new, t.Apart a b := by
  constructor
  · rintro ⟨fits, apart⟩
    obtain ⟨oldApart, newApart, across⟩ := List.pairwise_append.mp apart
    exact ⟨⟨fun row member => fits row (List.mem_append_left _ member), oldApart⟩,
      ⟨fun row member => fits row (List.mem_append_right _ member), newApart⟩, across⟩
  · rintro ⟨oldLegal, newLegal, across⟩
    refine ⟨fun row member => ?_, List.pairwise_append.mpr ⟨oldLegal.apart, newLegal.apart, across⟩⟩
    rcases List.mem_append.mp member with member | member
    · exact oldLegal.fits row member
    · exact newLegal.fits row member

theorem legal_singleton_iff {t : Table ρ} {row : ρ} : (t.withRows [row]).Legal ↔ t.Fits row :=
  ⟨fun legal => legal.fits row (List.mem_singleton_self row),
    fun fits => ⟨fun _ member => List.mem_singleton.mp member ▸ fits, List.pairwise_singleton _ _⟩⟩

/-- One more row is fine if it fits and is apart from those that are there. -/
theorem legal_concat_iff {t : Table ρ} {rows : List ρ} (legal : (t.withRows rows).Legal) {row : ρ} :
    (t.withRows (rows ++ [row])).Legal ↔ t.Fits row ∧ ∀ other ∈ rows, t.Apart other row := by
  rw [legal_append_iff, legal_singleton_iff, and_iff_right legal]
  simp only [List.mem_singleton, forall_eq]

theorem Legal.sublist {t : Table ρ} (legal : t.Legal) {rows : List ρ} (kept : rows.Sublist t.rows) :
    (t.withRows rows).Legal :=
  ⟨fun row member => legal.fits row (kept.subset member), legal.apart.sublist kept⟩

/-! ## Insertion -/

/-- A row is taken exactly if it fits and is apart from the rows that are there. -/
theorem insert_eq_ok_iff {t t' : Table ρ} {row : ρ} :
    t.insert row = .ok t' ↔
      (t.Fits row ∧ ∀ other ∈ t.rows, t.Apart other row) ∧ t' = t.withRows (t.rows ++ [row]) := by
  -- No complaint about a field, an index or an id: this is all that is asked of a row.
  have admitted : (t.Fits row ∧ ∀ other ∈ t.rows, t.Apart other row) ↔
      t.brokenField? row = none ∧ t.takenIndex? row = none ∧
        (Row.id row).filter t.hasId = none := by
    rw [brokenField?_eq_none_iff, takenIndex?_eq_none_iff, filter_hasId_eq_none_iff]
    exact and_congr_right fun _ => ⟨fun apart => ⟨fun other present => (apart other present).1,
      fun other present => (apart other present).2⟩,
      fun ⟨keys, ids⟩ other present => ⟨keys other present, ids other present⟩⟩
  rw [admitted]
  unfold insert
  cases t.brokenField? row <;> cases t.takenIndex? row <;> cases (Row.id row).filter t.hasId <;>
    simp [withRows, eq_comm]

theorem insert_eq_ok_iff_legal {t t' : Table ρ} (legal : t.Legal) {row : ρ} :
    t.insert row = .ok t' ↔ t' = t.withRows (t.rows ++ [row]) ∧ t'.Legal := by
  rw [insert_eq_ok_iff, and_comm]
  refine and_congr_right fun same => ?_
  rw [same, legal_concat_iff legal]

/-- A list of rows is taken exactly if each of them fits and is apart from the rows that are there,
and they are apart from each other. The rows that are there need not fit themselves. -/
theorem insertAll_eq_ok_iff {t t' : Table ρ} {rows : List ρ} :
    t.insertAll rows = .ok t' ↔
      ((∀ row ∈ rows, t.Fits row ∧ ∀ other ∈ t.rows, t.Apart other row) ∧ rows.Pairwise t.Apart) ∧
        t' = t.withRows (t.rows ++ rows) := by
  induction rows generalizing t with
  | nil => simp [insertAll, eq_comm]
  -- The table grows with every row, and the hypothesis speaks of all tables.
  | cons row rest ih =>
    simp only [insertAll, bind, Except.bind, List.forall_mem_cons, List.pairwise_cons]
    cases inserted : t.insert row with
    | error refusal =>
      simp only [reduceCtorEq, false_iff]
      rintro ⟨⟨⟨admitted, -⟩, -⟩, -⟩
      have taken := insert_eq_ok_iff.mpr ⟨admitted, rfl⟩
      simp [inserted] at taken
    | ok next =>
      obtain ⟨admitted, rfl⟩ := insert_eq_ok_iff.mp inserted
      dsimp only
      rw [ih, withRows_rows, withRows_withRows, List.append_assoc, List.singleton_append]
      refine and_congr_left fun _ => ?_
      constructor
      · rintro ⟨others, apart⟩
        refine ⟨⟨admitted, fun other later => ?_⟩, fun other later => ?_, apart⟩
        · exact ⟨(others other later).1,
            fun old present => (others other later).2 old (List.mem_append_left _ present)⟩
        · exact (others other later).2 row (List.mem_append_right _ (List.mem_singleton_self row))
      · rintro ⟨⟨-, others⟩, fromRow, apart⟩
        refine ⟨fun other later => ⟨(others other later).1, fun old present => ?_⟩, apart⟩
        rcases List.mem_append.mp present with present | new
        · exact (others other later).2 old present
        · exact List.mem_singleton.mp new ▸ fromRow other later

/-! ## Revision -/

theorem revise_eq_ok_iff {t t' : Table ρ} {chosen : ρ → Bool} {edit : ρ → ρ} :
    t.revise chosen edit = .ok t' ↔
      (∀ row ∈ t.rows, chosen row = true → t.Fits (edit row)) ∧
        t' = t.withRows (t.rows.map fun row => if chosen row then edit row else row) := by
  have accepted : ((t.rows.filter chosen).map edit).findSome? t.brokenField? = none ↔
      ∀ row ∈ t.rows, chosen row = true → t.Fits (edit row) := by
    simp only [List.findSome?_eq_none_iff, List.mem_map, List.mem_filter, brokenField?_eq_none_iff]
    exact ⟨fun fits row present taken => fits _ ⟨row, ⟨present, taken⟩, rfl⟩,
      fun fits _ ⟨row, ⟨present, taken⟩, same⟩ => same ▸ fits row present taken⟩
  rw [← accepted]
  unfold revise
  split
  next field broken => simp [broken]
  next unbroken =>
    rw [Except.ok.injEq]
    exact ⟨fun same => ⟨unbroken, same.symm⟩, fun same => same.2.symm⟩

/-- A revision that leaves ids and the columns of unique indexes alone keeps a table legal. -/
theorem Legal.revise {t t' : Table ρ} (legal : t.Legal) {chosen : ρ → Bool} {edit : ρ → ρ}
    (sameId : ∀ row, Row.id (edit row) = Row.id row)
    (sameCells : ∀ index ∈ t.indexes, index.unique = true → ∀ column ∈ index.columns, ∀ row,
      Row.cell (edit row) column = Row.cell row column)
    (revised : t.revise chosen edit = .ok t') : t'.Legal := by
  obtain ⟨accepted, rfl⟩ := revise_eq_ok_iff.mp revised
  -- Rows that are not chosen stay, and chosen rows keep their keys: no key changes at all.
  have ids (row : ρ) : Row.id (if chosen row then edit row else row) = Row.id row := by
    split
    · exact sameId row
    · rfl
  refine ⟨?_, List.pairwise_map.mpr (legal.apart.imp fun {a b} apart => ⟨?_, ?_⟩)⟩
  · intro row present
    obtain ⟨old, member, rfl⟩ := List.mem_map.mp present
    split
    next taken => exact accepted old member taken
    next => exact legal.fits old member
  · intro index member unique
    have differ := apart.1 index member unique
    have cells (row : ρ) : ∀ column ∈ index.columns,
        Row.cell (if chosen row then edit row else row) column = Row.cell row column := by
      intro column listed
      split
      · exact sameCells index member unique column listed row
      · rfl
    rw [← Bool.not_eq_true, sameKey_iff] at differ ⊢
    intro same
    refine differ fun column listed => ?_
    rw [← cells a column listed, ← cells b column listed]
    exact same column listed
  · rw [ids a, ids b]
    exact apart.2

end HostAccess.Table
