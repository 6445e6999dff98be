import CallScript.Files.Access
import Mathlib.Data.List.Basic

/-!
# Saving a file in a tree

Before a file is saved, missing directories are made along its path.  This only
grows the tree: what stood somewhere still stands there.  The path then leads
where the directories were made, also when it goes through outer directories,
because every place on the way is below directories.

A saved file is read back from its path, and no other file is touched.
`Tree.read?_of_save` says the one, `Tree.entry?_of_save` and
`Tree.read?_of_save_of_ne` say the other.
-/

namespace CallScript.Files

namespace Tree

/-! ## Entries -/

theorem entry?_put
    (tree : Tree)
    {place : Place}
    (inside : place.names ≠ [])
    (entry : Entry)
    (other : Place) :
    Tree.entry? (tree.put place entry) other =
      if other = place then some entry else tree.entry? other := by
  by_cases same : other = place
  · subst same
    simp [put, entry?, inside]
  · simp [put, entry?, same, Ne.symm same]

theorem isDirectory_iff
    (tree : Tree)
    (place : Place) :
    tree.isDirectory place = true ↔ tree.entry? place = some .directory := by
  rw [isDirectory]
  cases tree.entry? place with
  | none => simp
  | some entry => cases entry <;> simp [Entry.isDirectory]

theorem isDirectory_put_file
    (tree : Tree)
    {place : Place}
    (inside : place.names ≠ [])
    (vacant : tree.isDirectory place = false)
    (contents : ByteArray)
    {other : Place}
    (directory : tree.isDirectory other = true) :
    (tree.put place (.file contents)).isDirectory other = true := by
  have apart : other ≠ place := by
    rintro rfl
    rw [directory] at vacant
    cases vacant
  rw [isDirectory_iff] at directory ⊢
  rw [entry?_put tree inside, if_neg apart, directory]

/-! ## Growing -/

/-- The other tree has the same entries, and perhaps further directories. -/
def Grows (tree grown : Tree) : Prop :=
  ∀ place,
    grown.entry? place = tree.entry? place ∨
      tree.entry? place = none ∧ grown.entry? place = some .directory

theorem Grows.refl
    (tree : Tree) :
    tree.Grows tree := by
  intro place
  exact .inl rfl

theorem Grows.trans
    {tree middle grown : Tree}
    (first : tree.Grows middle)
    (later : middle.Grows grown) :
    tree.Grows grown := by
  intro place
  rcases later place with kept | ⟨absent, made⟩
  · rw [kept]
    exact first place
  · rcases first place with kept | ⟨-, made⟩
    · exact .inr ⟨kept ▸ absent, made⟩
    · rw [made] at absent
      cases absent

theorem Grows.isDirectory
    {tree grown : Tree}
    (grows : tree.Grows grown)
    {place : Place}
    (directory : tree.isDirectory place = true) :
    grown.isDirectory place = true := by
  rw [isDirectory_iff] at directory ⊢
  rcases grows place with kept | ⟨-, made⟩
  · rw [kept, directory]
  · exact made

theorem Grows.entry?_eq_file_iff
    {tree grown : Tree}
    (grows : tree.Grows grown)
    (place : Place)
    (contents : ByteArray) :
    grown.entry? place = some (.file contents) ↔ tree.entry? place = some (.file contents) := by
  rcases grows place with kept | ⟨absent, made⟩
  · rw [kept]
  · simp [absent, made]

theorem grows_put_directory
    {tree : Tree}
    {place : Place}
    (inside : place.names ≠ [])
    (absent : tree.entry? place = none) :
    tree.Grows (tree.put place .directory) := by
  intro other
  rw [entry?_put tree inside]
  split_ifs with same
  · exact .inr ⟨same ▸ absent, rfl⟩
  · exact .inl rfl

/-! ## Following names -/

/-- The place and all places around it on the way from its base are directories. -/
def Reaches (tree : Tree) (place : Place) : Prop :=
  ∀ count, tree.isDirectory { place with names := place.names.take count } = true

theorem Reaches.isDirectory
    {tree : Tree}
    {place : Place}
    (reaches : tree.Reaches place) :
    tree.isDirectory place = true := by
  have whole := reaches place.names.length
  rwa [List.take_length] at whole

theorem Reaches.grows
    {tree grown : Tree}
    {place : Place}
    (reaches : tree.Reaches place)
    (grows : tree.Grows grown) :
    grown.Reaches place := by
  intro count
  exact grows.isDirectory (reaches count)

theorem reaches_start
    (tree : Tree)
    (path : String) :
    tree.Reaches (.start path) := by
  intro count
  simp [isDirectory_iff, Place.start, entry?]

theorem Reaches.parent
    {tree : Tree}
    {place : Place}
    (reaches : tree.Reaches place) :
    tree.Reaches place.parent := by
  intro count
  rw [Place.parent]
  split
  · rename_i atBase
    have bare : place.names = [] := List.isEmpty_iff.1 atBase
    cases place.base with
    | root => exact reaches count
    | above levels => simp [isDirectory_iff, entry?]
  · rw [List.dropLast_eq_take, List.take_take]
    exact reaches _

theorem Reaches.child
    {tree : Tree}
    {place : Place}
    (reaches : tree.Reaches place)
    {name : List Char}
    (directory : tree.isDirectory (place.child name) = true) :
    tree.Reaches (place.child name) := by
  intro count
  by_cases short : count ≤ place.names.length
  · have inner := reaches count
    rwa [Place.child, List.take_append_of_le_length short]
  · rwa [List.take_of_length_le (by simp [Place.child]; omega)]

/-- Names still lead to the same place when every directory is kept. -/
theorem follow?_of_isDirectory
    {tree other : Tree}
    (keeps : ∀ {place}, tree.isDirectory place = true → other.isDirectory place = true)
    {place reached : Place}
    {names : List (List Char)}
    (leads : tree.follow? place names = some reached) :
    other.follow? place names = some reached := by
  induction names generalizing place with
  | nil => exact leads
  | cons name names ih =>
      by_cases outer : name = outwards
      · rw [follow?, if_pos outer] at leads ⊢
        cases directory : tree.isDirectory place with
        | false => simp [directory] at leads
        | true =>
            rw [if_pos directory] at leads
            rw [if_pos (keeps directory)]
            exact ih leads
      · rw [follow?, if_neg outer] at leads ⊢
        cases usable : isUsableName name with
        | false => simp [usable] at leads
        | true =>
            rw [if_pos usable] at leads
            rw [if_pos rfl]
            exact ih leads

theorem follow?_append
    (tree : Tree)
    (place : Place)
    (front back : List (List Char)) :
    tree.follow? place (front ++ back) =
      (tree.follow? place front).bind fun reached => tree.follow? reached back := by
  induction front generalizing place with
  | nil => rfl
  | cons name front ih =>
      rw [List.cons_append, follow?, follow?]
      split_ifs
      · exact ih _
      · rfl
      · exact ih _
      · rfl

/-- Making directories grows the tree, and then the names lead to the last one. -/
theorem makeAlong_eq_some
    {tree prepared : Tree}
    {place reached : Place}
    {names : List (List Char)}
    (reaches : tree.Reaches place)
    (made : tree.makeAlong place names = (prepared, some reached)) :
    tree.Grows prepared ∧ prepared.follow? place names = some reached := by
  -- The names are followed in the last tree, so each step needs that the later ones only grow it.
  induction names generalizing tree place with
  | nil =>
      cases made
      exact ⟨.refl _, rfl⟩
  | cons name names ih =>
      by_cases outer : name = outwards
      · rw [makeAlong, if_pos outer] at made
        have later := ih reaches.parent made
        rw [follow?, if_pos outer, if_pos (later.1.isDirectory reaches.isDirectory)]
        exact later
      · rw [makeAlong, if_neg outer] at made
        cases usable : isUsableName name with
        | false => simp [usable] at made
        | true =>
            rw [follow?, if_neg outer, if_pos usable]
            simp only [usable, Bool.not_true, Bool.false_eq_true, if_false] at made
            cases here : tree.entry? (place.child name) with
            | none =>
                have inside : (place.child name).names ≠ [] := by simp [Place.child]
                have grows := grows_put_directory inside here
                have directory :
                    (tree.put (place.child name) .directory).isDirectory (place.child name) =
                      true := by
                  rw [isDirectory_iff, entry?_put tree inside, if_pos rfl]
                simp only [here] at made
                have later := ih ((reaches.grows grows).child directory) made
                exact ⟨grows.trans later.1, later.2⟩
            | some entry =>
                cases entry with
                | file contents => simp [here] at made
                | directory =>
                    simp only [here] at made
                    exact ih (reaches.child ((tree.isDirectory_iff _).2 here)) made

/-! ## Saving -/

/-- What has to hold for a file to be written in the directory at a place. -/
theorem writeIn?_eq_some
    {tree written : Tree}
    {place : Place}
    {name : List Char}
    {contents : ByteArray}
    (done : tree.writeIn? place name contents = some written) :
    name ≠ outwards ∧
      isUsableName name = true ∧
      tree.isDirectory (place.child name) = false ∧
      written = tree.put (place.child name) (.file contents) := by
  rw [writeIn?] at done
  split_ifs at done with refused
  · simp only [Bool.or_eq_true, decide_eq_true_eq, not_or, Bool.not_eq_true,
      Bool.not_eq_false', and_assoc] at refused
    exact ⟨refused.1, refused.2.1, refused.2.2, (Option.some.inj done).symm⟩

/-- The steps of a successful save. -/
theorem save_eq_true
    {tree saved : Tree}
    {path : String}
    {contents : ByteArray}
    (done : tree.save path contents = (saved, true)) :
    ∃ prepared place name,
      tree.makeAlong (.start path) (names path).dropLast = (prepared, some place) ∧
        isUsablePath path = true ∧
        asksForDirectory path = false ∧
        (names path).getLast? = some name ∧
        prepared.writeIn? place name contents = some saved := by
  rw [save] at done
  split at done
  · cases done
  · split at done
    · cases done
    · rename_i prepared place made
      simp only at done
      split at done
      · rename_i written wrote
        cases done
        split_ifs at wrote with refused
        simp only [Bool.or_eq_true, Bool.not_eq_eq_eq_not, Bool.not_true, not_or,
          Bool.not_eq_false, Bool.not_eq_true] at refused
        rcases Option.bind_eq_some_iff.1 wrote with ⟨name, last, written⟩
        exact ⟨prepared, place, name, made, refused.1, refused.2, last, written⟩
      · cases done

/--
A successful save grows the tree and then puts the file at a place that is no
directory, and that the path names afterwards.
-/
theorem exists_place_of_save
    {tree saved : Tree}
    {path : String}
    {contents : ByteArray}
    (done : tree.save path contents = (saved, true)) :
    ∃ prepared place,
      tree.Grows prepared ∧
        prepared.isDirectory place = false ∧
        place.names ≠ [] ∧
        saved = prepared.put place (.file contents) ∧
        saved.place? path = some place ∧
        asksForDirectory path = false := by
  rcases save_eq_true done with ⟨prepared, outer, name, made, usable, ending, last, written⟩
  rcases makeAlong_eq_some (tree.reaches_start path) made with ⟨grows, leads⟩
  rcases writeIn?_eq_some written with ⟨inwards, nameUsable, vacant, rfl⟩
  have inside : (outer.child name).names ≠ [] := by simp [Place.child]
  refine ⟨prepared, outer.child name, grows, vacant, inside, rfl, ?_, ending⟩
  have whole : (names path).dropLast ++ [name] = names path :=
    List.dropLast_append_getLast? name last
  have nonempty : path.isEmpty = false := by
    cases empty : path.isEmpty with
    | false => rfl
    | true =>
        rw [String.isEmpty_iff.1 empty] at last
        cases last
  have stillLeads :=
    follow?_of_isDirectory (prepared.isDirectory_put_file inside vacant contents) leads
  rw [place?, nonempty, usable, ← whole, follow?_append, stillLeads]
  simp [follow?, inwards, nameUsable]

/-! ## What a save changes -/

/-- A path reads a file that stands at its place, provided that it does not ask for a directory. -/
theorem read?_eq_some_iff
    (tree : Tree)
    (path : String)
    (contents : ByteArray) :
    tree.read? path = some contents ↔
      ∃ place,
        tree.place? path = some place ∧
          tree.entry? place = some (.file contents) ∧
          asksForDirectory path = false := by
  rw [read?, lookup?]
  cases leads : tree.place? path with
  | none => simp
  | some place =>
      cases there : tree.entry? place with
      | none => simp [there]
      | some entry =>
          cases entry with
          | directory => simp [there, Entry.isDirectory]
          | file held =>
              cases ending : asksForDirectory path with
              | false => simp [there]
              | true => simp [there, Entry.isDirectory]

theorem hasEntry_of_read?
    {tree : Tree}
    {path : String}
    {contents : ByteArray}
    (reads : tree.read? path = some contents) :
    tree.hasEntry path = true := by
  rcases (tree.read?_eq_some_iff path contents).1 reads with ⟨place, leads, there, ending⟩
  simp [hasEntry, lookup?, leads, there, ending]

section Save

variable
    {tree saved : Tree}
    {path : String}
    {contents : ByteArray}
    (done : tree.save path contents = (saved, true))

include done

/-- A saved file is read back from its path. -/
theorem read?_of_save :
    saved.read? path = some contents := by
  rcases exists_place_of_save done with ⟨prepared, place, -, -, inside, rfl, leads, ending⟩
  rw [read?_eq_some_iff]
  exact ⟨place, leads, by rw [entry?_put prepared inside, if_pos rfl], ending⟩

/-- At any other place there is a file exactly if there was one, with the same contents. -/
theorem entry?_of_save
    {other : Place}
    (elsewhere : saved.place? path ≠ some other)
    (held : ByteArray) :
    saved.entry? other = some (.file held) ↔ tree.entry? other = some (.file held) := by
  rcases exists_place_of_save done with ⟨prepared, place, grows, -, inside, rfl, leads, -⟩
  have apart : other ≠ place := by
    rintro rfl
    exact elsewhere leads
  rw [entry?_put prepared inside, if_neg apart]
  exact grows.entry?_eq_file_iff other held

theorem place?_of_save
    {other : String}
    {place : Place}
    (leads : tree.place? other = some place) :
    saved.place? other = some place := by
  rcases exists_place_of_save done with ⟨prepared, written, grows, vacant, inside, rfl, -, -⟩
  rw [place?] at leads ⊢
  split_ifs at leads ⊢
  exact follow?_of_isDirectory
    (fun directory => prepared.isDirectory_put_file inside vacant contents
      (grows.isDirectory directory))
    leads

/-- A path that does not name the saved file still reads what it read. -/
theorem read?_of_save_of_ne
    {other : String}
    {held : ByteArray}
    (elsewhere : saved.place? other ≠ saved.place? path)
    (reads : tree.read? other = some held) :
    saved.read? other = some held := by
  rw [read?_eq_some_iff] at reads ⊢
  rcases reads with ⟨place, leads, there, ending⟩
  have stillLeads := place?_of_save done leads
  rw [stillLeads] at elsewhere
  exact ⟨place, stillLeads, (entry?_of_save done (Ne.symm elsewhere) held).2 there, ending⟩

end Save

end Tree

/-! ## Access to a tree -/

namespace Access

theorem run_hasEntry
    (tree : Tree)
    (path : String) :
    (Access.tree.hasEntry path).run tree = (tree.hasEntry path, tree) := by
  rfl

theorem run_readText?
    (tree : Tree)
    (path : String) :
    (Access.tree.readText? path).run tree =
      ((tree.read? path).bind String.fromUTF8?, tree) := by
  rfl

theorem run_save
    (tree : Tree)
    (path : String)
    (contents : ByteArray) :
    (Access.tree.save path contents).run tree =
      ((tree.save path contents).2, (tree.save path contents).1) := by
  rw [Access.tree]
  simp only [StateT.run_modifyGet]
  rfl

end Access

end CallScript.Files
