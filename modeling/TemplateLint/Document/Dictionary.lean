/-! Dictionaries that keep their keys in order. -/

namespace TemplateLint

/-- Values under distinct keys, in the order of the keys. -/
structure Dictionary (α : Type) where
  entries : List (String × α)
  sorted : entries.Pairwise (·.1 < ·.1)

namespace Dictionary

variable {α : Type}

/-- A dictionary with nothing in it. -/
def empty : Dictionary α :=
  ⟨[], .nil⟩

instance : Inhabited (Dictionary α) :=
  ⟨empty⟩

/-- The keys in order. -/
def keys (dictionary : Dictionary α) : List String :=
  dictionary.entries.map (·.1)

/-- The value under a key. -/
def find? (dictionary : Dictionary α) (key : String) : Option α :=
  dictionary.entries.lookup key

/-- Entries in which the value under a key is replaced, or put in its place if there is none. -/
def alterEntries (key : String) (change : Option α → α) : List (String × α) → List (String × α)
  | [] => [(key, change none)]
  | (other, value) :: later =>
    if key < other then (key, change none) :: (other, value) :: later
    else if key = other then (key, change (some value)) :: later
    else (other, value) :: alterEntries key change later

/-- Replacing one entry brings in no key but its own. -/
theorem key_of_mem_alterEntries {key : String} {change : Option α → α}
    {entries : List (String × α)} {entry : String × α}
    (member : entry ∈ alterEntries key change entries) :
    entry.1 = key ∨ ∃ old ∈ entries, old.1 = entry.1 := by
  induction entries with
  | nil =>
    simp only [alterEntries, List.mem_singleton] at member
    exact .inl (by rw [member])
  | cons head later ih =>
    rcases head with ⟨other, value⟩
    simp only [alterEntries] at member
    -- Before a greater key a new entry is put in, at the same key the old one is changed, and
    -- behind a smaller one the search goes on.
    split at member
    · rcases List.mem_cons.mp member with same | old
      · exact .inl (by rw [same])
      · exact .inr ⟨entry, old, rfl⟩
    · split at member
      · rcases List.mem_cons.mp member with same | old
        · exact .inl (by rw [same])
        · exact .inr ⟨entry, List.mem_cons_of_mem _ old, rfl⟩
      · rcases List.mem_cons.mp member with same | old
        · exact .inr ⟨(other, value), List.mem_cons_self, by rw [same]⟩
        · rcases ih old with named | ⟨stored, place, named⟩
          · exact .inl named
          · exact .inr ⟨stored, List.mem_cons_of_mem _ place, named⟩

/-- Replacing one entry keeps the keys in order. -/
theorem sorted_alterEntries {key : String} {change : Option α → α}
    {entries : List (String × α)} (sorted : entries.Pairwise (·.1 < ·.1)) :
    (alterEntries key change entries).Pairwise (·.1 < ·.1) := by
  induction entries with
  | nil => simp [alterEntries]
  | cons head later ih =>
    rcases head with ⟨other, value⟩
    have parts := List.pairwise_cons.mp sorted
    simp only [alterEntries]
    split
    · rename_i before
      -- The new key precedes the first key and so all others.
      refine List.pairwise_cons.mpr ⟨?_, sorted⟩
      intro entry member
      rcases List.mem_cons.mp member with same | old
      · rw [same]; exact before
      · exact String.lt_trans before (parts.1 entry old)
    · split
      · rename_i same
        exact List.pairwise_cons.mpr ⟨fun entry member => same ▸ parts.1 entry member, parts.2⟩
      · rename_i notBefore different
        refine List.pairwise_cons.mpr ⟨?_, ih parts.2⟩
        intro entry member
        rcases key_of_mem_alterEntries member with named | ⟨stored, place, named⟩
        · -- A key that neither precedes nor equals the first one follows it.
          have atMost := String.not_lt.mp notBefore
          refine Decidable.byContradiction fun notAfter => different ?_
          rw [named] at notAfter
          exact String.le_antisymm (String.not_lt.mp notAfter) atMost
        · rw [← named]; exact parts.1 stored place

/-- The dictionary with the value under a key replaced, or put there if there is none. -/
def alter (dictionary : Dictionary α) (key : String) (change : Option α → α) : Dictionary α :=
  ⟨alterEntries key change dictionary.entries, sorted_alterEntries dictionary.sorted⟩

/-- The dictionary with a value under a key. -/
def insert (dictionary : Dictionary α) (key : String) (value : α) : Dictionary α :=
  dictionary.alter key fun _ => value

/-- The dictionary of entries, of which the last under a key counts. -/
def ofList (entries : List (String × α)) : Dictionary α :=
  entries.foldl (fun dictionary entry => dictionary.insert entry.1 entry.2) empty

end Dictionary

end TemplateLint
