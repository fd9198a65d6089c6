import TemplateLint.Document.Dictionary

/-! What a dictionary holds under each key, before and after one of its entries is altered. -/

namespace TemplateLint

namespace Dictionary

variable {α : Type}

/-- An entry under another key is passed over. -/
theorem lookup_cons_of_ne {key other : String} (apart : other ≠ key) (value : α)
    (entries : List (String × α)) :
    ((key, value) :: entries).lookup other = entries.lookup other := by
  rw [List.lookup_cons, beq_eq_false_iff_ne.mpr apart]

/-- Before the first of ordered entries there is no key. -/
theorem lookup_of_before {key : String} {entries : List (String × α)}
    (before : ∀ entry ∈ entries, key < entry.1) : entries.lookup key = none := by
  rw [List.lookup_eq_none_iff]
  intro entry member
  rw [bne_iff_ne]
  intro same
  exact String.lt_irrefl _ (same ▸ before entry member)

/-- Under its own key an altered entry is as changed. -/
theorem lookup_alterEntries_self {key : String} {change : Option α → α}
    {entries : List (String × α)} (sorted : entries.Pairwise (·.1 < ·.1)) :
    (alterEntries key change entries).lookup key = some (change (entries.lookup key)) := by
  induction entries with
  | nil => simp [alterEntries]
  | cons head later ih =>
    obtain ⟨first, value⟩ := head
    obtain ⟨follow, ordered⟩ := List.pairwise_cons.mp sorted
    unfold alterEntries
    split
    · -- The key precedes the first one, and so all others: nothing stood under it.
      rename_i before
      have absent : ((first, value) :: later).lookup key = none := by
        refine lookup_of_before fun entry member => ?_
        rcases List.mem_cons.mp member with rfl | beyond
        · exact before
        · exact String.lt_trans before (follow entry beyond)
      rw [absent, List.lookup_cons_self]
    · split
      · rename_i same
        rw [same, List.lookup_cons_self, List.lookup_cons_self]
      · rename_i apart
        rw [lookup_cons_of_ne apart, lookup_cons_of_ne apart, ih ordered]

/-- Under other keys than that of an altered entry nothing changes. -/
theorem lookup_alterEntries_of_ne {key other : String} (apart : other ≠ key)
    {change : Option α → α} (entries : List (String × α)) :
    (alterEntries key change entries).lookup other = entries.lookup other := by
  induction entries with
  | nil => rw [alterEntries, lookup_cons_of_ne apart]
  | cons head later ih =>
    obtain ⟨first, value⟩ := head
    unfold alterEntries
    split
    · exact lookup_cons_of_ne apart _ _
    · split
      · rename_i same
        rw [← same, lookup_cons_of_ne apart, lookup_cons_of_ne apart]
      · -- The first entry stays, and the altered one is among the later ones.
        rw [List.lookup_cons, List.lookup_cons, ih]

/-- An altered dictionary holds the changed value under its key, and under others what it held. -/
theorem find?_alter (dictionary : Dictionary α) (key : String) (change : Option α → α)
    (other : String) :
    (dictionary.alter key change).find? other =
      if other = key then some (change (dictionary.find? key)) else dictionary.find? other := by
  split
  · rename_i same
    rw [same]
    exact lookup_alterEntries_self dictionary.sorted
  · rename_i apart
    exact lookup_alterEntries_of_ne apart dictionary.entries

/-- The keys are those under which something stands. -/
theorem mem_keys_iff {dictionary : Dictionary α} {key : String} :
    key ∈ dictionary.keys ↔ (dictionary.find? key).isSome = true := by
  rw [keys, find?, List.mem_map, List.lookup_isSome_iff]
  constructor
  · rintro ⟨entry, member, rfl⟩
    exact ⟨entry, member, beq_self_eq_true _⟩
  · rintro ⟨entry, member, same⟩
    exact ⟨entry, member, (beq_iff_eq.mp same).symm⟩

/-- Altering an entry brings in its own key and leaves all others. -/
theorem mem_keys_alter {dictionary : Dictionary α} {key other : String}
    {change : Option α → α} :
    other ∈ (dictionary.alter key change).keys ↔ other ∈ dictionary.keys ∨ other = key := by
  rw [mem_keys_iff, mem_keys_iff, find?_alter]
  by_cases same : other = key <;> simp [same]

end Dictionary

end TemplateLint
