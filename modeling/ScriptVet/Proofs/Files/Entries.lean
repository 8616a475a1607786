import ScriptVet.Proofs.Files.Folders

/-!
# What is in a folder

What is found in a folder is listed there. Taking entries away changes nothing elsewhere, and a
folder that holds nothing but files goes on to do so when files are written.
-/

namespace ScriptVet.Disk

theorem mem_entriesIn_iff {disk : Disk} {place : Place} {name : String} {entry : Entry} :
    (name, entry) ∈ disk.entriesIn place ↔ (place ++ [name], entry) ∈ disk.entries := by
  rw [entriesIn, List.mem_filterMap]
  constructor
  · rintro ⟨⟨there, found⟩, listed, named⟩
    cases last : there.getLast? with
    | none => simp [last] at named
    | some name' =>
        simp only [last] at named
        split at named
        · next same =>
          cases named
          obtain ⟨before, rfl⟩ := List.getLast?_eq_some_iff.mp last
          rw [List.dropLast_concat] at same
          rwa [← same]
        · cases named
  · intro listed
    exact ⟨_, listed, by simp⟩

/-- What is found in a folder is listed there. -/
theorem mem_entriesIn_of_found {disk : Disk} {place : Place} {name : String} {entry : Entry}
    (there : disk.entry? (place ++ [name]) = some entry) :
    (name, entry) ∈ disk.entriesIn place := by
  unfold entry? at there
  rw [if_neg (by simp)] at there
  obtain ⟨before, after, split, -⟩ := List.lookup_eq_some_iff.mp there
  rw [mem_entriesIn_iff, split]
  simp

theorem entry?_drop (disk : Disk) {place : Place} (hp : place ≠ []) (q : Place) :
    entry? (disk.drop place) q = if q = place then none else disk.entry? q := by
  unfold entry? drop
  by_cases root : q = []
  · rw [root, if_neg (Ne.symm hp)]
    rfl
  · have named : ¬ q.isEmpty = true := by simpa using root
    rw [if_neg named, if_neg named, Keyed.lookup_filter (· != place)]
    by_cases same : q = place <;> simp [same]

/-- The disk without the entries at some places. -/
def dropAll (disk : Disk) (places : List Place) : Disk :=
  places.foldl drop disk

theorem entry?_dropAll (disk : Disk) {places : List Place} (proper : [] ∉ places) (q : Place) :
    entry? (disk.dropAll places) q = if q ∈ places then none else disk.entry? q := by
  induction places generalizing disk with
  | nil => rfl
  | cons place places ih =>
      rw [List.mem_cons, not_or] at proper
      rw [dropAll, List.foldl_cons, ← dropAll, ih _ proper.2, entry?_drop disk (Ne.symm proper.1)]
      by_cases later : q ∈ places <;> by_cases first : q = place <;> simp [later, first]

theorem working_dropAll (disk : Disk) (places : List Place) :
    (disk.dropAll places).working = disk.working := by
  induction places generalizing disk with
  | nil => rfl
  | cons place places ih => exact ih (disk.drop place)

theorem entries_dropAll_subset (disk : Disk) (places : List Place) :
    (disk.dropAll places).entries ⊆ disk.entries := by
  induction places generalizing disk with
  | nil => exact List.Subset.refl _
  | cons place places ih =>
      exact List.Subset.trans (ih (disk.drop place)) List.filter_sublist.subset

/-- A folder holds nothing but files. -/
def HoldsFiles (disk : Disk) (place : Place) : Prop :=
  ∀ name, (name, Entry.folder) ∉ disk.entriesIn place

theorem HoldsFiles.not_folder {disk : Disk} {place : Place} (h : disk.HoldsFiles place)
    (name : String) : disk.entry? (place ++ [name]) ≠ some .folder :=
  fun there => h name (mem_entriesIn_of_found there)

theorem HoldsFiles.write {disk disk' : Disk} {place : Place} (h : disk.HoldsFiles place)
    {p : Path} {content : List UInt8} (written : disk.write p content = .ok disk') :
    disk'.HoldsFiles place := by
  obtain ⟨there, executable, -, -, rfl⟩ := put_of_write written
  intro name folder
  rcases Keyed.mem_put (mem_entriesIn_iff.mp folder) with new | old
  · cases (Prod.mk.inj new).2
  · exact h name (mem_entriesIn_iff.mpr old)

end ScriptVet.Disk
