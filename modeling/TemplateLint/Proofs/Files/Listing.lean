import TemplateLint.Proofs.Files.Appearance

/-! What a directory lists once a file has appeared in it, or in another directory. -/

namespace TemplateLint

namespace FileSystem

/-- Names in which one more is put are that name and the others. -/
theorem mem_insertName {name other : String} {names : List String} :
    other ∈ insertName name names ↔ other = name ∨ other ∈ names := by
  -- The name is put before the first that is greater, wherever that is.
  induction names with
  | nil => simp [insertName]
  | cons first later ih =>
    simp only [insertName]
    split
    · simp
    · simp only [List.mem_cons, ih]
      exact or_left_comm

/-- A name that is put in its place keeps the names in order. -/
theorem sorted_insertName {names : List String} (sorted : names.Pairwise (· ≤ ·))
    (name : String) : (insertName name names).Pairwise (· ≤ ·) := by
  induction names with
  | nil => simp [insertName]
  | cons first later ih =>
    obtain ⟨least, rest⟩ := List.pairwise_cons.mp sorted
    simp only [insertName]
    -- The new name stands before the first one, or among those after it.
    split
    · rename_i before
      refine List.pairwise_cons.mpr ⟨?_, sorted⟩
      intro other member
      rcases List.mem_cons.mp member with rfl | inside
      · exact before
      · exact String.le_trans before (least other inside)
    · rename_i after
      refine List.pairwise_cons.mpr ⟨?_, ih rest⟩
      intro other member
      rcases mem_insertName.mp member with rfl | inside
      · exact (String.le_total other first).resolve_left after
      · exact least other inside

/-- A name that comes before all others is put first. -/
theorem insertName_of_least {name : String} {names : List String}
    (least : ∀ other ∈ names, name ≤ other) : insertName name names = name :: names := by
  cases names with
  | nil => rfl
  | cons first later => rw [insertName, if_pos (least first List.mem_cons_self)]

/-- Some of the names in order are in order with a name put among them. -/
theorem filter_insertName {names : List String} (sorted : names.Pairwise (· ≤ ·)) (name : String)
    (keep : String → Bool) :
    (insertName name names).filter keep =
      if keep name then insertName name (names.filter keep) else names.filter keep := by
  induction names with
  | nil => cases kept : keep name <;> simp [insertName, kept]
  | cons first later ih =>
    obtain ⟨least, rest⟩ := List.pairwise_cons.mp sorted
    by_cases before : name ≤ first
    · -- The name comes first, also among those that are kept.
      have beforeAll : ∀ other ∈ (first :: later).filter keep, name ≤ other := by
        intro other member
        rcases List.mem_cons.mp (List.mem_filter.mp member).1 with rfl | inside
        · exact before
        · exact String.le_trans before (least other inside)
      rw [insertName, if_pos before, insertName_of_least beforeAll]
      cases kept : keep name with
      | true => rw [List.filter_cons_of_pos kept, if_pos rfl]
      | false => rw [List.filter_cons_of_neg (by simp [kept]), if_neg (by simp)]
    · -- The name comes later, whether or not the first one is kept.
      rw [insertName, if_neg before]
      cases kept : keep first with
      | true =>
        rw [List.filter_cons_of_pos kept, List.filter_cons_of_pos kept, ih rest]
        split
        · rw [insertName, if_neg before]
        · rfl
      | false =>
        rw [List.filter_cons_of_neg (by simp [kept]), List.filter_cons_of_neg (by simp [kept]),
          ih rest]

/-- Names put one after another into nothing are in order. -/
theorem sorted_foldr_insertName (names : List String) :
    (names.foldr insertName []).Pairwise (· ≤ ·) := by
  induction names with
  | nil => exact .nil
  | cons name later ih => exact sorted_insertName ih name

/-- Some of the names in order are these names in order. -/
theorem filter_foldr_insertName (names : List String) (keep : String → Bool) :
    (names.foldr insertName []).filter keep = (names.filter keep).foldr insertName [] := by
  -- Names are put in place from the last one on, so the last ones are in order already.
  induction names with
  | nil => rfl
  | cons name later ih =>
    rw [List.foldr_cons, filter_insertName (sorted_foldr_insertName later), ih]
    cases kept : keep name with
    | true => rw [List.filter_cons_of_pos kept, List.foldr_cons, if_pos rfl]
    | false => rw [List.filter_cons_of_neg (by simp [kept]), if_neg (by simp)]

/-- The name that an entry has in a directory. -/
def nameIn? (location : Location) (stored : Location × Entry) : Option String :=
  if stored.1.dropLast = location ∧ stored.1 ≠ [] then stored.1.getLast? else none

/-- A directory lists the names that entries have in it, in order. -/
theorem listing_eq (files : FileSystem) (location : Location) :
    files.listing location = (files.entries.filterMap (nameIn? location)).foldr insertName [] :=
  rfl

/-- The entry of a location has no name but its own, in no directory but its own. -/
theorem nameIn?_eq_some {location : Location} {stored : Location × Entry} {name : String} :
    nameIn? location stored = some name ↔ stored.1 = location ++ [name] := by
  simp only [nameIn?]
  -- A location is its directory with its last name.
  constructor
  · intro named
    split at named
    · rename_i inside
      obtain ⟨before, same⟩ := List.getLast?_eq_some_iff.mp named
      rw [same, List.dropLast_concat] at inside
      rw [same, inside.1]
    · simp at named
  · intro same
    rw [same]
    simp

end FileSystem

namespace Appears

open FileSystem

variable {name : String} {spot : Location} {files others : FileSystem}

/-- The spot has the file's name at its end. -/
theorem spot_eq (appears : Appears name spot files others) : spot = spot.dropLast ++ [name] := by
  obtain ⟨before, same⟩ := List.getLast?_eq_some_iff.mp appears.named
  rw [same, List.dropLast_concat]

/-- No entry is stored at a location where nothing stands. -/
theorem not_stored (appears : Appears name spot files others) :
    ∀ stored ∈ files.entries, stored.1 ≠ spot := by
  intro stored member same
  -- The lookup of a location that is stored would find something.
  have free := appears.free
  rw [entry?_of_ne_nil (nonroot_of_free free)] at free
  rw [List.lookup_eq_none_iff] at free
  have apart := free stored member
  simp [same] at apart

/-- The file is stored after all that was stored. -/
theorem entries_eq (appears : Appears name spot files others) :
    ∃ content executable, others.entries = files.entries ++ [(spot, .file content executable)] := by
  obtain ⟨content, executable, rfl⟩ := appears.made
  refine ⟨content, executable, ?_⟩
  -- Nothing was stored at the spot, so nothing is taken away.
  rw [put, List.filter_eq_self.mpr]
  intro stored member
  simpa using appears.not_stored stored member

/-- Another directory lists what it listed. -/
theorem listing_elsewhere (appears : Appears name spot files others) {location : Location}
    (elsewhere : location ≠ spot.dropLast) : others.listing location = files.listing location := by
  obtain ⟨content, executable, same⟩ := appears.entries_eq
  -- The file is in one directory only, the one above the spot.
  have outside : nameIn? location (spot, .file content executable) = none := by
    rw [Option.eq_none_iff_forall_ne_some]
    intro other named
    have place : spot = location ++ [other] := nameIn?_eq_some.mp named
    exact elsewhere (by rw [place, List.dropLast_concat])
  rw [listing_eq, listing_eq, same, List.filterMap_append, List.filterMap_cons_none outside,
    List.filterMap_nil, List.append_nil]

/-- The directory of the file lists it beside what it listed. -/
theorem listing_beside (appears : Appears name spot files others) :
    (others.listing spot.dropLast).filter (· ≠ name) = files.listing spot.dropLast := by
  obtain ⟨content, executable, same⟩ := appears.entries_eq
  have own : nameIn? spot.dropLast (spot, .file content executable) = some name :=
    nameIn?_eq_some.mpr appears.spot_eq
  have without : (files.entries.filterMap (nameIn? spot.dropLast)).filter (· ≠ name) =
      files.entries.filterMap (nameIn? spot.dropLast) := by
    refine List.filter_eq_self.mpr ?_
    intro other member
    obtain ⟨stored, inside, named⟩ := List.mem_filterMap.mp member
    simp only [ne_eq, decide_not, Bool.not_eq_eq_eq_not, Bool.not_true, decide_eq_false_iff_not]
    rintro rfl
    -- An entry of the name would be stored at the spot.
    have place := nameIn?_eq_some.mp named
    exact appears.not_stored stored inside (place.trans appears.spot_eq.symm)
  rw [listing_eq, listing_eq, same, List.filterMap_append, List.filterMap_cons_some own,
    List.filterMap_nil, filter_foldr_insertName, List.filter_append, without]
  simp

end Appears

end TemplateLint
