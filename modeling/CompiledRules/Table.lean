/-!
# Tables keyed by text

A table lists its entries in increasing order of key, so that each key stands once and two tables that answer
every look-up alike are the same. Entries without that promise are looked up and changed by the same
functions.
-/

namespace CompiledRules

namespace Entries

variable {α : Type}

/-- Each key is smaller than all behind it. -/
def Increasing (entries : List (String × α)) : Prop := entries.Pairwise fun a b => a.1 < b.1

/-- The value under a key. -/
def find? : List (String × α) → String → Option α
  | [], _ => none
  | (k, v) :: rest, key => if key = k then some v else find? rest key

/-- Puts a value under a key, in place of the value there or in front of the first greater key. -/
def insert : List (String × α) → String → α → List (String × α)
  | [], key, value => [(key, value)]
  | (k, v) :: rest, key, value =>
      if key = k then (key, value) :: rest
      else if key < k then (key, value) :: (k, v) :: rest
      else (k, v) :: insert rest key value

/-- Removes what is under a key. -/
def erase (entries : List (String × α)) (key : String) : List (String × α) :=
  entries.filter fun entry => entry.1 ≠ key

theorem lt_of_not_lt {a b : String} (hne : a ≠ b) (h : ¬ a < b) : b < a := by
  by_cases hb : b < a
  · exact hb
  · exact absurd (String.le_antisymm (String.not_lt.1 hb) (String.not_lt.1 h)) hne

theorem mem_insert {entries : List (String × α)} {key : String} {value : α} {x : String × α}
    (h : x ∈ insert entries key value) : x = (key, value) ∨ x ∈ entries := by
  induction entries with
  | nil => exact Or.inl (by simpa [insert] using h)
  | cons entry rest ih =>
      rw [insert] at h
      split at h
      · rcases List.mem_cons.1 h with h | h
        · exact Or.inl h
        · exact Or.inr (List.mem_cons_of_mem _ h)
      · split at h
        · exact List.mem_cons.1 h
        · rcases List.mem_cons.1 h with rfl | h
          · exact Or.inr List.mem_cons_self
          · exact (ih h).imp_right (List.mem_cons_of_mem _)

theorem Increasing.insert {entries : List (String × α)} (h : Increasing entries) (key : String) (value : α) :
    Increasing (Entries.insert entries key value) := by
  induction entries with
  | nil => exact List.pairwise_singleton _ _
  | cons entry rest ih =>
      obtain ⟨hhead, hrest⟩ := List.pairwise_cons.1 h
      rw [Entries.insert]
      split
      · rename_i heq
        exact List.pairwise_cons.2 ⟨fun x hx => heq ▸ hhead x hx, hrest⟩
      · rename_i hne
        split
        · rename_i hlt
          refine List.pairwise_cons.2 ⟨fun x hx => ?_, h⟩
          rcases List.mem_cons.1 hx with rfl | hx
          · exact hlt
          · exact String.lt_trans hlt (hhead x hx)
        · rename_i hlt
          refine List.pairwise_cons.2 ⟨fun x hx => ?_, ih hrest⟩
          rcases mem_insert hx with rfl | hx
          · exact lt_of_not_lt hne hlt
          · exact hhead x hx

theorem Increasing.erase {entries : List (String × α)} (h : Increasing entries) (key : String) :
    Increasing (Entries.erase entries key) :=
  List.Pairwise.filter _ h

end Entries

/-- Entries in increasing order of key. -/
structure Table (α : Type) where
  entries : List (String × α)
  increasing : Entries.Increasing entries

namespace Table

variable {α : Type}

/-- The table without entries. -/
def empty : Table α := ⟨[], List.Pairwise.nil⟩

instance : Inhabited (Table α) := ⟨empty⟩

/-- The value kept under a key. -/
def find? (table : Table α) (key : String) : Option α := Entries.find? table.entries key

/-- Keeps a value under a key, in place of any value kept there before. -/
def insert (table : Table α) (key : String) (value : α) : Table α :=
  ⟨Entries.insert table.entries key value, table.increasing.insert key value⟩

/-- Removes what is kept under a key. -/
def erase (table : Table α) (key : String) : Table α :=
  ⟨Entries.erase table.entries key, table.increasing.erase key⟩

/-- Whether something is kept under a key. -/
def has (table : Table α) (key : String) : Bool := (table.find? key).isSome

/-- The keys, in increasing order. -/
def keys (table : Table α) : List String := table.entries.map Prod.fst

/-- The values, in increasing order of their keys. -/
def values (table : Table α) : List α := table.entries.map Prod.snd

/-- The number of entries. -/
def size (table : Table α) : Nat := table.entries.length

/-- The table of a list of entries, a later entry replacing an earlier one of the same key. -/
def ofEntries (entries : List (String × α)) : Table α :=
  entries.foldl (fun table entry => table.insert entry.1 entry.2) empty

end Table

end CompiledRules
