import CallScript.NameMap
import Mathlib.Data.List.Basic

/-!
# Laws of maps from names

Looking a name up behind an insertion needs nothing of the map.  The map lists
its names in increasing order from the empty map on, and insertions keep that.
In a map with this order the list of bindings and the look-up say the same, no
name is listed twice, and the list gives the map again.
-/

namespace CallScript.NameMap

variable
    {α : Type}

/-- The names are listed in strictly increasing order. -/
def IsOrdered (map : NameMap α) : Prop :=
  map.entries.Pairwise fun left right => left.1 < right.1

def names (map : NameMap α) : List String :=
  map.entries.map Prod.fst

theorem find?_insertEntry
    (name other : String)
    (value : α)
    (entries : List (String × α)) :
    (insertEntry name value entries).find? (fun entry => entry.1 == other) =
      if other = name then some (name, value)
      else entries.find? fun entry => entry.1 == other := by
  induction entries with
  | nil =>
      by_cases same : other = name
      · simp [insertEntry, same]
      · simp [insertEntry, same, Ne.symm same]
  | cons entry entries ih =>
      rcases entry with ⟨first, held⟩
      rw [insertEntry]
      by_cases less : name < first
      · rw [if_pos less]
        by_cases same : other = name
        · simp [same]
        · simp [same, Ne.symm same]
      · rw [if_neg less]
        by_cases equal : name = first
        · subst equal
          by_cases same : other = name
          · simp [same]
          · simp [same, Ne.symm same]
        · rw [if_neg equal, List.find?_cons, List.find?_cons, ih]
          by_cases same : other = name
          · subst same
            rw [if_pos rfl, if_pos rfl, beq_false_of_ne (Ne.symm equal)]
          · rw [if_neg same, if_neg same]

theorem get?_cons
    (name other : String)
    (value : α)
    (entries : List (String × α)) :
    get? ⟨(name, value) :: entries⟩ other =
      if other = name then some value else get? ⟨entries⟩ other := by
  by_cases same : other = name
  · simp [get?, same]
  · simp [get?, same, Ne.symm same]

theorem get?_eq_none_iff
    (map : NameMap α)
    (name : String) :
    map.get? name = none ↔ name ∉ map.names := by
  rw [get?, Option.map_eq_none_iff, List.find?_eq_none, names, List.mem_map]
  constructor
  · rintro unlisted ⟨entry, listed, rfl⟩
    exact unlisted entry listed (beq_self_eq_true _)
  · intro unlisted entry listed same
    exact unlisted ⟨entry, listed, eq_of_beq same⟩

/-- An insertion binds its name, and leaves the other ones as they are. -/
theorem get?_insert
    (map : NameMap α)
    (name other : String)
    (value : α) :
    (map.insert name value).get? other =
      if other = name then some value else map.get? other := by
  rw [get?, insert, find?_insertEntry]
  split_ifs
  · rfl
  · rfl

theorem mem_insertEntry
    {name : String}
    {value : α}
    {entry : String × α}
    {entries : List (String × α)}
    (listed : entry ∈ insertEntry name value entries) :
    entry = (name, value) ∨ entry ∈ entries := by
  induction entries with
  | nil => exact .inl (List.mem_singleton.1 listed)
  | cons first entries ih =>
      rcases first with ⟨first, held⟩
      rw [insertEntry] at listed
      split_ifs at listed
      · exact List.mem_cons.1 listed
      · rcases List.mem_cons.1 listed with here | behind
        · exact .inl here
        · exact .inr (List.mem_cons_of_mem _ behind)
      · rcases List.mem_cons.1 listed with here | behind
        · exact .inr (here ▸ List.mem_cons_self)
        · rcases ih behind with new | old
          · exact .inl new
          · exact .inr (List.mem_cons_of_mem _ old)

theorem isOrdered_empty :
    IsOrdered (empty : NameMap α) := by
  exact List.Pairwise.nil

/-- The new name stands behind every smaller one and before every larger one. -/
theorem pairwise_insertEntry
    (name : String)
    (value : α)
    {entries : List (String × α)}
    (ordered : entries.Pairwise fun left right => left.1 < right.1) :
    (insertEntry name value entries).Pairwise fun left right => left.1 < right.1 := by
  induction ordered with
  | nil => exact List.pairwise_singleton _ _
  | @cons first entries before ordered ih =>
      rcases first with ⟨first, held⟩
      rw [insertEntry]
      split_ifs with less equal
      · constructor
        · intro entry listed
          rcases List.mem_cons.1 listed with rfl | behind
          · exact less
          · exact String.lt_trans less (before entry behind)
        · exact ordered.cons before
      · subst equal
        exact ordered.cons before
      · constructor
        · intro entry listed
          rcases mem_insertEntry listed with rfl | old
          · exact Std.lt_of_le_of_ne (String.not_lt.1 less) (Ne.symm equal)
          · exact before entry old
        · exact ih

theorem IsOrdered.insert
    {map : NameMap α}
    (ordered : map.IsOrdered)
    (name : String)
    (value : α) :
    (map.insert name value).IsOrdered := by
  exact pairwise_insertEntry name value ordered

/-- A name that is larger than all others is inserted at the end. -/
theorem insertEntry_of_forall_lt
    {name : String}
    {entries : List (String × α)}
    (larger : ∀ entry ∈ entries, entry.1 < name)
    (value : α) :
    insertEntry name value entries = entries ++ [(name, value)] := by
  induction entries with
  | nil => rfl
  | cons entry entries ih =>
      rcases entry with ⟨other, held⟩
      rw [List.forall_mem_cons] at larger
      have notBefore : ¬name < other := String.lt_asymm larger.1
      have notSame : name ≠ other := (String.ne_of_lt larger.1).symm
      rw [insertEntry, if_neg notBefore, if_neg notSame, ih larger.2, List.cons_append]

/-- Bindings in order, inserted one after another, are listed as they are. -/
theorem foldl_insert_of_pairwise
    (front back : List (String × α))
    (ordered : (front ++ back).Pairwise fun left right => left.1 < right.1) :
    back.foldl (fun map entry => NameMap.insert map entry.1 entry.2) ⟨front⟩ = ⟨front ++ back⟩ := by
  induction back generalizing front with
  | nil => rw [List.append_nil, List.foldl_nil]
  | cons entry back ih =>
      have larger : ∀ other ∈ front, other.1 < entry.1 := fun other listed =>
        (List.pairwise_append.1 ordered).2.2 other listed entry List.mem_cons_self
      have next := insertEntry_of_forall_lt larger entry.2
      rw [List.append_cons] at ordered
      rw [List.foldl_cons, insert, next, ih _ ordered, ← List.append_cons]

/-- A map is made again from its own bindings. -/
theorem IsOrdered.ofList_entries
    {map : NameMap α}
    (ordered : map.IsOrdered) :
    ofList map.entries = map := by
  exact foldl_insert_of_pairwise [] map.entries ordered

/-- Every list of bindings gives a map in order. -/
theorem isOrdered_ofList
    (entries : List (String × α)) :
    (ofList entries).IsOrdered := by
  have kept (map : NameMap α) (ordered : map.IsOrdered) :
      (entries.foldl (fun map entry => NameMap.insert map entry.1 entry.2) map).IsOrdered := by
    induction entries generalizing map with
    | nil => exact ordered
    | cons entry entries ih => exact ih _ (ordered.insert entry.1 entry.2)
  exact kept empty isOrdered_empty

/-- What the map lists is what it finds. -/
theorem IsOrdered.mem_entries_iff
    {map : NameMap α}
    (ordered : map.IsOrdered)
    (name : String)
    (value : α) :
    (name, value) ∈ map.entries ↔ map.get? name = some value := by
  constructor
  · intro listed
    have found :
        map.entries.find? (fun entry => entry.1 == name) = some (name, value) := by
      rcases List.append_of_mem listed with ⟨front, back, entries⟩
      rw [IsOrdered, entries, List.pairwise_append] at ordered
      rw [entries, List.find?_append]
      -- The names in front are smaller, so the search passes them over.
      have absent : front.find? (fun entry => entry.1 == name) = none := by
        rw [List.find?_eq_none]
        intro entry inFront same
        have less : entry.1 < name := ordered.2.2 entry inFront (name, value) List.mem_cons_self
        exact String.ne_of_lt less (eq_of_beq same)
      simp [absent]
    rw [get?, found]
    rfl
  · intro bound
    rcases Option.map_eq_some_iff.1 bound with ⟨entry, found, rfl⟩
    have same : entry.1 = name := by simpa using List.find?_some found
    rw [← same]
    exact List.mem_of_find?_eq_some found

/-- A bound name is listed once, and no other name is listed. -/
theorem IsOrdered.count_names
    {map : NameMap α}
    (ordered : map.IsOrdered)
    (name : String) :
    map.names.count name = if map.contains name then 1 else 0 := by
  have nodup : map.names.Nodup := by
    rw [names, List.nodup_iff_pairwise_ne, List.pairwise_map]
    exact ordered.imp String.ne_of_lt
  have listed : name ∈ map.names ↔ map.contains name = true := by
    rw [contains, ← Option.ne_none_iff_isSome, ne_eq, get?_eq_none_iff, not_not]
  rw [nodup.count]
  exact if_congr listed rfl rfl

end CallScript.NameMap
