/-
  Tables: values under names, in the order of the names.

  Key definitions include:
    * `Table.find?`, `Table.insert` and `Table.erase`
    * `Table.ofList`, in which a later value replaces an earlier one

  What each operation does to the value under a name is stated by
  `Table.find?_insert` and `Table.find?_erase`.
-/

namespace Automation

abbrev Table (α : Type) := List (String × α)

namespace Table

variable {α : Type}

def find? :
    Table α → String → Option α
  | [], _ => none
  | (k, v) :: rest, key => if key = k then some v else find? rest key

/- Put a value under a name, in the place the name has among the others. -/
def insert
    (key : String)
    (value : α) :
    Table α → Table α
  | [] => [(key, value)]
  | (k, v) :: rest =>
      if key = k then (key, value) :: rest
      else if key < k then (key, value) :: (k, v) :: rest
      else (k, v) :: insert key value rest

/- Remove every value under a name. -/
def erase
    (table : Table α)
    (key : String) :
    Table α :=
  table.filter fun entry => entry.1 ≠ key

def ofList
    (entries : List (String × α)) :
    Table α :=
  entries.foldl (fun table entry => insert entry.1 entry.2 table) []

/- A value put under a name is found there, and nothing else changes. -/
theorem find?_insert
    (table : Table α)
    (key : String)
    (value : α)
    (other : String) :
    find? (insert key value table) other =
      if other = key then some value else find? table other := by
  induction table with
  | nil => simp [insert, find?]
  | cons entry rest ih =>
      obtain ⟨k, v⟩ := entry
      by_cases hKey : key = k
      · subst hKey
        by_cases hOther : other = key <;>
          simp [insert, find?, hOther]
      · by_cases hLess : key < k
        · simp [insert, find?, hKey, hLess]
        · by_cases hOther : other = k
          · subst hOther
            have hNe : ¬ other = key := fun h => hKey h.symm
            simp [insert, find?, hKey, hLess, hNe]
          · simp [insert, find?, hKey, hLess, hOther, ih]

/- An erased name has no value, and nothing else changes. -/
theorem find?_erase
    (table : Table α)
    (key other : String) :
    find? (erase table key) other =
      if other = key then none else find? table other := by
  induction table with
  | nil => simp [erase, find?]
  | cons entry rest ih =>
      obtain ⟨k, v⟩ := entry
      by_cases hKey : k = key
      · subst hKey
        by_cases hOther : other = k
        · simpa [erase, find?, hOther] using ih
        · simpa [erase, find?, hOther] using ih
      · by_cases hOther : other = k
        · subst hOther
          simp [erase, find?, hKey]
        · simpa [erase, find?, hKey, hOther] using ih

/- A mapped value is found in the place of the value. -/
theorem find?_map
    {β : Type}
    (f : α → β)
    (table : Table α)
    (key : String) :
    find? (table.map fun entry => (entry.1, f entry.2)) key =
      (find? table key).map f := by
  induction table with
  | nil => rfl
  | cons entry rest ih =>
      obtain ⟨k, v⟩ := entry
      by_cases hKey : key = k
      · simp [find?, hKey]
      · simpa [find?, hKey] using ih

/- A value that is found is in the table. -/
theorem mem_of_find?
    {table : Table α}
    {key : String}
    {value : α}
    (hFind : find? table key = some value) :
    (key, value) ∈ table := by
  induction table with
  | nil => cases hFind
  | cons entry rest ih =>
      rw [find?] at hFind
      split at hFind
      · rename_i hKey
        cases hFind
        subst hKey
        exact List.mem_cons_self
      · exact List.mem_cons_of_mem _ (ih hFind)

theorem mem_of_mem_insert
    {table : Table α}
    {key : String}
    {value : α}
    {entry : String × α}
    (hEntry : entry ∈ insert key value table) :
    entry = (key, value) ∨ entry ∈ table := by
  induction table with
  | nil => exact Or.inl (List.mem_singleton.mp hEntry)
  | cons first rest ih =>
      obtain ⟨k, v⟩ := first
      simp only [insert] at hEntry
      split at hEntry
      · rcases List.mem_cons.mp hEntry with hNew | hRest
        · exact Or.inl hNew
        · exact Or.inr (List.mem_cons_of_mem _ hRest)
      · split at hEntry
        · exact List.mem_cons.mp hEntry
        · rcases List.mem_cons.mp hEntry with rfl | hRest
          · exact Or.inr List.mem_cons_self
          · rcases ih hRest with hNew | hRest
            · exact Or.inl hNew
            · exact Or.inr (List.mem_cons_of_mem _ hRest)

/- A table holds nothing but the entries it is made of. -/
theorem mem_of_mem_ofList
    {entries : List (String × α)}
    {entry : String × α}
    (hEntry : entry ∈ ofList entries) :
    entry ∈ entries := by
  have hFrom :
      ∀ table : Table α,
        entry ∈ entries.foldl
            (fun table entry => insert entry.1 entry.2 table)
            table →
          entry ∈ table ∨ entry ∈ entries := by
    clear hEntry
    induction entries with
    | nil =>
        intro table hEntry
        exact Or.inl hEntry
    | cons first rest ih =>
        intro table hEntry
        rcases ih _ hEntry with hTable | hRest
        · rcases mem_of_mem_insert hTable with rfl | hTable
          · exact Or.inr List.mem_cons_self
          · exact Or.inl hTable
        · exact Or.inr (List.mem_cons_of_mem _ hRest)
  rcases hFrom [] hEntry with hNone | hEntry
  · cases hNone
  · exact hEntry

end Table

end Automation
