import ShiftReduce.Data.Sorted
import ShiftReduce.Grammar.Symbol

/-!
# Ascending lists of symbols

Sets of symbols, and entries under symbols, are kept in ascending order. So a set has no
repetitions and is unchanged by what it holds, and an entry is found under its symbol.

## Main definitions

* `SymbolSet.Ascending` — a set in ascending order
* `Sorted.Ascending` — entries in ascending order of their symbols

## Main results

* `SymbolSet.union_eq_or_lt` — a union is the first set or has more symbols
* `Sorted.lookup_insert` — what is found after an entry was put
* `Sorted.Ascending.mem_iff_lookup` — every entry is found
-/

namespace ShiftReduce

namespace Symbol

variable {left middle right : Symbol}

@[simp] theorem not_precedes_self (symbol : Symbol) : ¬ symbol.precedes symbol := by
  cases symbol <;> simp [precedes]

theorem ne_of_precedes (before : left.precedes right) : left ≠ right := by
  rintro rfl
  exact not_precedes_self left before

theorem precedes_trans (first : left.precedes middle) (second : middle.precedes right) :
    left.precedes right := by
  cases left <;> cases middle <;> cases right <;>
    simp only [precedes, decide_eq_true_eq, Bool.false_eq_true] at first second ⊢ <;>
    exact Nat.lt_trans first second

/-- Of two symbols one precedes the other. -/
theorem precedes_of_ne (differ : left ≠ right) (not_before : ¬ left.precedes right) :
    right.precedes left := by
  cases left with
  | terminal first =>
    cases right with
    | terminal second =>
      have le : second ≤ first := by simpa [precedes] using not_before
      exact decide_eq_true (Nat.lt_of_le_of_ne le fun same => differ (congrArg terminal same.symm))
    | rule second => exact absurd rfl not_before
  | rule first =>
    cases right with
    | terminal second => rfl
    | rule second =>
      have le : second ≤ first := by simpa [precedes] using not_before
      exact decide_eq_true (Nat.lt_of_le_of_ne le fun same => differ (congrArg rule same.symm))

end Symbol

/-! ### Sets -/

namespace SymbolSet

/-- A set in ascending order. -/
def Ascending (symbols : SymbolSet) : Prop :=
  symbols.Pairwise fun left right => left.precedes right

variable {added symbol : Symbol} {symbols left right : SymbolSet}

theorem Ascending.nodup (ascending : symbols.Ascending) : symbols.Nodup := by
  refine List.Pairwise.imp ?_ ascending
  rintro first _ before rfl
  exact Symbol.not_precedes_self first before

/-- Sets in ascending order are equal if they hold the same symbols. -/
theorem Ascending.eq_of_mem_iff (ascendingLeft : left.Ascending) (ascendingRight : right.Ascending)
    (same : ∀ symbol, symbol ∈ left ↔ symbol ∈ right) : left = right := by
  have permuted : left.Perm right :=
    (List.perm_ext_iff_of_nodup ascendingLeft.nodup ascendingRight.nodup).mpr same
  refine permuted.eq_of_pairwise ?_ ascendingLeft ascendingRight
  intro first second _ _ before after
  exact absurd (Symbol.precedes_trans before after) (Symbol.not_precedes_self first)

theorem Ascending.insert (ascending : symbols.Ascending) :
    Ascending (SymbolSet.insert added symbols) := by
  induction symbols with
  | nil => exact List.pairwise_singleton ..
  | cons first rest ih =>
    obtain ⟨least, later⟩ := List.pairwise_cons.mp ascending
    unfold SymbolSet.insert
    split
    · exact ascending
    · split
      · rename_i before
        refine List.pairwise_cons.mpr ⟨?_, ascending⟩
        rintro other (_ | ⟨_, present⟩)
        · exact before
        · exact Symbol.precedes_trans before (least other present)
      · rename_i differ not_before
        refine List.pairwise_cons.mpr ⟨fun other present => ?_, ih later⟩
        obtain rfl | present := mem_insert.mp present
        · exact Symbol.precedes_of_ne differ not_before
        · exact least other present

/-- A set stays as it is when one of its symbols is added. -/
theorem Ascending.insert_eq_self (ascending : symbols.Ascending) (present : added ∈ symbols) :
    SymbolSet.insert added symbols = symbols := by
  induction symbols with
  | nil => cases present
  | cons first rest ih =>
    obtain ⟨least, later⟩ := List.pairwise_cons.mp ascending
    unfold SymbolSet.insert
    split
    · rfl
    · rename_i differ
      have inRest : added ∈ rest := (List.mem_cons.mp present).resolve_left differ
      split
      · rename_i before
        exact absurd (Symbol.precedes_trans before (least added inRest))
          (Symbol.not_precedes_self added)
      · rw [ih later inRest]

theorem length_insert_of_notMem (missing : added ∉ symbols) :
    (insert added symbols).length = symbols.length + 1 := by
  induction symbols with
  | nil => rfl
  | cons first rest ih =>
    rw [List.mem_cons, not_or] at missing
    unfold insert
    rw [if_neg missing.1]
    split
    · rfl
    · exact congrArg (· + 1) (ih missing.2)

theorem ascending_ofList (symbols : List Symbol) : Ascending (ofList symbols) := by
  induction symbols with
  | nil => exact .nil
  | cons first rest ih => exact ih.insert

theorem Ascending.union (ascending : left.Ascending) : Ascending (SymbolSet.union left right) := by
  unfold SymbolSet.union
  induction right generalizing left with
  | nil => exact ascending
  | cons first rest ih => exact ih ascending.insert

/-- A union is the first of the sets, or it has more symbols. -/
theorem union_eq_or_lt (ascending : left.Ascending) :
    union left right = left ∨ left.length < (union left right).length := by
  unfold union
  induction right generalizing left with
  | nil => exact .inl rfl
  | cons first rest ih =>
    rw [List.foldl_cons]
    by_cases present : first ∈ left
    · rw [ascending.insert_eq_self present]
      exact ih ascending
    · right
      have longer := length_insert_of_notMem present
      obtain same | more := ih (ascending.insert : Ascending (insert first left))
      · rw [same]
        omega
      · omega

/-- Uniting sets one after the other gathers the symbols of all of them. -/
theorem mem_foldl_union {sets : List SymbolSet} {start : SymbolSet} :
    symbol ∈ sets.foldl union start ↔ symbol ∈ start ∨ ∃ set ∈ sets, symbol ∈ set := by
  induction sets generalizing start with
  | nil => simp
  | cons first rest ih => simp [ih, or_assoc]

theorem Ascending.foldl_union {sets : List SymbolSet} {start : SymbolSet}
    (ascending : start.Ascending) : Ascending (sets.foldl SymbolSet.union start) := by
  induction sets generalizing start with
  | nil => exact ascending
  | cons first rest ih => exact ih ascending.union

end SymbolSet

/-! ### Entries -/

namespace Sorted

theorem lookup_cons_eq {κ α : Type} [DecidableEq κ] {key other : κ} {value : α}
    {entries : List (κ × α)} : ((key, value) :: entries).lookup other =
      if other = key then some value else entries.lookup other := by
  rw [List.lookup_cons]
  by_cases same : other = key
  · simp [same]
  · rw [if_neg same, beq_eq_false_iff_ne.mpr same]

/-- Every entry is the one found under its key, where no two have the same. -/
theorem mem_iff_lookup_of_distinct {κ α : Type} [DecidableEq κ] {key : κ} {value : α}
    {entries : List (κ × α)} (distinct : entries.Pairwise fun left right => left.1 ≠ right.1) :
    (key, value) ∈ entries ↔ entries.lookup key = some value := by
  induction entries with
  | nil => simp
  | cons entry rest ih =>
    obtain ⟨first, held⟩ := entry
    obtain ⟨alone, later⟩ := List.pairwise_cons.mp distinct
    rw [lookup_cons_eq, List.mem_cons]
    by_cases same : key = first
    · subst same
      have missing : (key, value) ∉ rest := fun present => alone _ present rfl
      simp [missing, eq_comm]
    · simp [same, ih later]

/-- What is found under a key does not depend on the order of entries with different keys. -/
theorem lookup_eq_of_perm {κ α : Type} [DecidableEq κ] {entries others : List (κ × α)}
    (distinct : entries.Pairwise fun left right => left.1 ≠ right.1)
    (perm : others.Perm entries) (key : κ) : others.lookup key = entries.lookup key := by
  have otherDistinct := distinct.perm perm.symm Ne.symm
  refine Option.ext fun value => ?_
  rw [← mem_iff_lookup_of_distinct distinct, ← mem_iff_lookup_of_distinct otherDistinct,
    perm.mem_iff]

/-- An entry under a new key joins those that are there. -/
theorem perm_insert {κ α : Type} [DecidableEq κ] {precedes : κ → κ → Bool} {key : κ} {value : α}
    {entries : List (κ × α)} (new : ∀ entry ∈ entries, entry.1 ≠ key) :
    (insert precedes key value entries).Perm ((key, value) :: entries) := by
  induction entries with
  | nil => exact .refl _
  | cons entry rest ih =>
    obtain ⟨first, held⟩ := entry
    rw [List.forall_mem_cons] at new
    unfold insert
    rw [if_neg (Ne.symm new.1)]
    split
    · exact .refl _
    · exact ((ih new.2).cons _).trans (.swap ..)

/-- Entries with new and different keys join those that are there. -/
theorem perm_foldl_insert {κ α : Type} [DecidableEq κ] {precedes : κ → κ → Bool}
    {kept entries : List (κ × α)}
    (distinct : (kept ++ entries).Pairwise fun left right => left.1 ≠ right.1) :
    (entries.foldl (fun sorted (key, value) => insert precedes key value sorted) kept).Perm
      (kept ++ entries) := by
  induction entries generalizing kept with
  | nil => rw [List.append_nil, List.foldl_nil]
  | cons entry rest ih =>
    have new : ∀ other ∈ kept, other.1 ≠ entry.1 := fun other present =>
      (List.pairwise_append.mp distinct).2.2 other present entry List.mem_cons_self
    have joined : (insert precedes entry.1 entry.2 kept ++ rest).Perm (kept ++ entry :: rest) :=
      ((perm_insert new).append_right rest).trans List.perm_middle.symm
    exact (ih (distinct.perm joined.symm Ne.symm)).trans joined

/-- Of entries with different keys, all are kept. -/
theorem perm_ofList {κ α : Type} [DecidableEq κ] {precedes : κ → κ → Bool}
    {entries : List (κ × α)} (distinct : entries.Pairwise fun left right => left.1 ≠ right.1) :
    (ofList precedes entries).Perm entries :=
  perm_foldl_insert (by rwa [List.nil_append])

variable {α : Type} {key other : Symbol} {value : α} {entries : List (Symbol × α)}

/-- Entries in ascending order of their symbols. -/
def Ascending (entries : List (Symbol × α)) : Prop :=
  entries.Pairwise fun left right => left.1.precedes right.1

/-- An entry that is put under a symbol is the one found there; elsewhere nothing changes. -/
theorem lookup_insert :
    (insert Symbol.precedes key value entries).lookup other =
      if other = key then some value else entries.lookup other := by
  induction entries with
  | nil => exact lookup_cons_eq
  | cons entry rest ih =>
    obtain ⟨first, held⟩ := entry
    unfold insert
    split
    · rename_i same
      subst same
      rw [lookup_cons_eq, lookup_cons_eq]
      split <;> rfl
    · split
      · exact lookup_cons_eq
      · rename_i differ _
        rw [lookup_cons_eq, ih, lookup_cons_eq]
        by_cases found : other = first
        · rw [if_pos found, if_pos found, if_neg fun same => differ (same.symm.trans found)]
        · rw [if_neg found, if_neg found]

theorem fst_mem_insert {entry : Symbol × α}
    (present : entry ∈ insert Symbol.precedes key value entries) :
    entry.1 = key ∨ entry ∈ entries := by
  induction entries with
  | nil => exact .inl (congrArg Prod.fst (List.mem_singleton.mp present))
  | cons first rest ih =>
    unfold insert at present
    split at present
    · obtain rfl | later := List.mem_cons.mp present
      · exact .inl rfl
      · exact .inr (List.mem_cons_of_mem _ later)
    · split at present
      · obtain rfl | later := List.mem_cons.mp present
        · exact .inl rfl
        · exact .inr later
      · obtain rfl | later := List.mem_cons.mp present
        · exact .inr List.mem_cons_self
        · exact (ih later).imp_right (List.mem_cons_of_mem _)

theorem Ascending.insert (ascending : Ascending entries) :
    Ascending (Sorted.insert Symbol.precedes key value entries) := by
  induction entries with
  | nil => exact List.pairwise_singleton ..
  | cons entry rest ih =>
    obtain ⟨first, held⟩ := entry
    obtain ⟨least, later⟩ := List.pairwise_cons.mp ascending
    unfold Sorted.insert
    split
    · rename_i same
      subst same
      exact List.pairwise_cons.mpr ⟨least, later⟩
    · split
      · rename_i before
        refine List.pairwise_cons.mpr ⟨?_, ascending⟩
        rintro other (_ | ⟨_, present⟩)
        · exact before
        · exact Symbol.precedes_trans before (least other present)
      · rename_i differ not_before
        refine List.pairwise_cons.mpr ⟨fun other present => ?_, ih later⟩
        obtain same | present := fst_mem_insert present
        · rw [same]
          exact Symbol.precedes_of_ne differ not_before
        · exact least other present

theorem Ascending.distinct (ascending : Ascending entries) :
    entries.Pairwise fun left right => left.1 ≠ right.1 :=
  ascending.imp Symbol.ne_of_precedes

/-- Every entry is the one found under its symbol. -/
theorem Ascending.mem_iff_lookup (ascending : Ascending entries) :
    (key, value) ∈ entries ↔ entries.lookup key = some value :=
  mem_iff_lookup_of_distinct ascending.distinct

end Sorted

end ShiftReduce
