import CompiledRules.Table
import Mathlib

/-!
# Laws of tables

What a look-up finds after an insertion and a removal. Entries in increasing order are a table as they stand.
-/

namespace CompiledRules

variable {α : Type}

namespace Entries

theorem find?_insert (entries : List (String × α)) (key : String) (value : α) (k : String) :
    find? (insert entries key value) k = if k = key then some value else find? entries k := by
  induction entries with
  | nil => rfl
  | cons entry rest ih =>
      simp only [insert]
      split
      · rename_i heq
        subst heq
        simp only [find?]
        split <;> rfl
      · split
        · rfl
        · simp only [find?, ih]
          split
          · rename_i hne _ hk
            rw [if_neg fun h => hne (h.symm.trans hk)]
          · rfl

theorem find?_erase (entries : List (String × α)) (key k : String) :
    find? (erase entries key) k = if k = key then none else find? entries k := by
  induction entries with
  | nil => simp [erase, find?]
  | cons entry rest ih =>
      simp only [erase] at ih ⊢
      by_cases h : entry.1 = key
      · rw [List.filter_cons_of_neg (by simpa using h), ih]
        subst h
        simp only [find?]
        split <;> rfl
      · rw [List.filter_cons_of_pos (by simpa using h)]
        simp only [find?, ih]
        split
        · rename_i hk
          rw [if_neg fun h' => h (hk ▸ h')]
        · rfl

theorem find?_isSome (entries : List (String × α)) (key : String) :
    (find? entries key).isSome = true ↔ key ∈ entries.map Prod.fst := by
  induction entries with
  | nil => simp [find?]
  | cons entry rest ih =>
      simp only [find?, List.map_cons, List.mem_cons]
      split
      · rename_i h
        simp [h]
      · rename_i h
        simp [h, ih]

theorem mem_of_find? {entries : List (String × α)} {key : String} {value : α} (h : find? entries key = some value) :
    (key, value) ∈ entries := by
  induction entries with
  | nil => cases h
  | cons entry rest ih =>
      simp only [find?] at h
      split at h
      · rename_i hk
        cases h
        rw [hk]
        exact List.mem_cons_self
      · exact List.mem_cons_of_mem _ (ih h)

theorem Increasing.find?_of_mem {entries : List (String × α)} (hi : Increasing entries) {key : String} {value : α}
    (h : (key, value) ∈ entries) : find? entries key = some value := by
  induction entries with
  | nil => cases h
  | cons entry rest ih =>
      obtain ⟨hhead, hrest⟩ := List.pairwise_cons.mp hi
      simp only [find?]
      rcases List.mem_cons.mp h with rfl | h
      · simp
      · rw [if_neg fun hk => String.ne_of_lt (hhead _ h) hk.symm, ih hrest h]

theorem find?_of_forall_lt {entries : List (String × α)} {key : String} (h : ∀ entry ∈ entries, key < entry.1) :
    find? entries key = none := by
  cases hfind : find? entries key with
  | none => rfl
  | some value => exact absurd (h _ (mem_of_find? hfind)) (String.lt_irrefl key)

theorem Increasing.head_le {entry : String × α} {rest : List (String × α)} (h : Increasing (entry :: rest))
    {key : String} (hkey : (find? (entry :: rest) key).isSome = true) : entry.1 ≤ key := by
  obtain ⟨found, hfound, rfl⟩ := List.mem_map.mp ((find?_isSome _ key).mp hkey)
  rcases List.mem_cons.mp hfound with rfl | hfound
  · exact String.le_refl _
  · exact String.not_lt.mp (String.lt_asymm ((List.pairwise_cons.mp h).1 found hfound))

theorem insert_ne_nil (entries : List (String × α)) (key : String) (value : α) : insert entries key value ≠ [] := by
  cases entries with
  | nil => simp [insert]
  | cons entry rest =>
      simp only [insert]
      split
      · simp
      · split <;> simp

/-- A key above all others goes to the end. -/
theorem insert_last {entries : List (String × α)} {key : String} (h : ∀ entry ∈ entries, entry.1 < key) (value : α) :
    insert entries key value = entries ++ [(key, value)] := by
  induction entries with
  | nil => rfl
  | cons entry rest ih =>
      have hlt : entry.1 < key := h entry List.mem_cons_self
      simp only [insert]
      rw [if_neg (String.ne_of_lt hlt).symm, if_neg (String.lt_asymm hlt),
        ih fun x hx => h x (List.mem_cons_of_mem _ hx), List.cons_append]

end Entries

namespace Table

@[ext] theorem ext {a b : Table α} (h : a.entries = b.entries) : a = b := by
  cases a
  cases b
  cases h
  rfl

@[simp] theorem find?_empty (key : String) : (empty : Table α).find? key = none := rfl

@[simp] theorem find?_insert (table : Table α) (key : String) (value : α) (k : String) :
    (table.insert key value).find? k = if k = key then some value else table.find? k :=
  Entries.find?_insert table.entries key value k

@[simp] theorem find?_erase (table : Table α) (key k : String) :
    (table.erase key).find? k = if k = key then none else table.find? k :=
  Entries.find?_erase table.entries key k

theorem has_iff_mem_keys (table : Table α) (key : String) : table.has key = true ↔ key ∈ table.keys :=
  Entries.find?_isSome table.entries key

theorem nodup_keys (table : Table α) : table.keys.Nodup :=
  List.pairwise_map.mpr (table.increasing.imp fun h => String.ne_of_lt h)

theorem find?_eq_some_iff (table : Table α) (key : String) (value : α) :
    table.find? key = some value ↔ (key, value) ∈ table.entries :=
  ⟨Entries.mem_of_find?, table.increasing.find?_of_mem⟩

theorem nodup_entries (table : Table α) : table.entries.Nodup :=
  table.increasing.imp fun hlt heq => String.ne_of_lt hlt (congrArg Prod.fst heq)

/-- A new key comes beside the others. -/
theorem insert_perm {table : Table α} {key : String} (h : table.find? key = none) (value : α) :
    (table.insert key value).entries.Perm ((key, value) :: table.entries) := by
  refine (List.perm_ext_iff_of_nodup (nodup_entries _) ?_).mpr fun entry => ?_
  · refine List.nodup_cons.mpr ⟨fun hmem => ?_, table.nodup_entries⟩
    rw [(table.find?_eq_some_iff key value).mpr hmem] at h
    cases h
  · obtain ⟨k, v⟩ := entry
    rw [← find?_eq_some_iff, find?_insert, List.mem_cons, ← find?_eq_some_iff, Prod.mk.injEq]
    by_cases hk : k = key
    · subst hk
      simp [h, eq_comm]
    · simp [hk]

theorem size_insert {table : Table α} {key : String} (h : table.find? key = none) (value : α) :
    (table.insert key value).size = table.size + 1 := (insert_perm h value).length_eq

theorem ofEntries_concat (entries : List (String × α)) (entry : String × α) :
    ofEntries (entries ++ [entry]) = (ofEntries entries).insert entry.1 entry.2 := by
  rw [ofEntries, List.foldl_append]
  rfl

end Table

end CompiledRules
