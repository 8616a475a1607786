import ScriptVet.Proofs.Files.Contents

/-!
# What work on files may change

Work on files is described by the places that it may write to. Everywhere else it changes nothing,
except that folders may be made where nothing was. So a file that is written once stays as it is
through all later work that writes to other places.
-/

namespace ScriptVet.Disk

variable {disk disk' disk'' : Disk} {p : Path} {place : Place} {content : List UInt8}

/-- The place that a path leads to if there are folders on the way. -/
def placeOf (disk : Disk) (p : Path) : Place :=
  target (disk.start p) p.parts

theorem placeOf_of_resolve (resolved : disk.resolve p = .ok place) : place = disk.placeOf p := by
  obtain ⟨-, walked⟩ := resolve_eq_ok_iff.mp resolved
  exact (walk_eq_ok_iff.mp walked).1

theorem placeOf_congr (working : disk'.working = disk.working) (p : Path) :
    disk'.placeOf p = disk.placeOf p := by
  rw [placeOf, placeOf, start, start, working]

theorem placeOf_child (disk : Disk) (folder : Path) {name : String} (h : IsStepName name) :
    disk.placeOf (folder.child name) = disk.placeOf folder ++ [name] := by
  rw [Path.child_of_isStepName folder h, placeOf, target, List.foldl_append]
  exact stepTo_of_isStepName _ h

/-- The second disk is the first after files were written at some of the places. Folders may have
been made anywhere. -/
structure WritesAt (places : Place → Prop) (disk disk' : Disk) : Prop where
  working : disk'.working = disk.working
  entries : ∀ q, disk'.entry? q = disk.entry? q ∨
    (disk.entry? q = none ∧ disk'.entry? q = some .folder) ∨
    (places q ∧ disk.entry? q ≠ some .folder ∧
      ∃ content executable, disk'.entry? q = some (.file content executable))

namespace WritesAt

variable {places places' : Place → Prop}

theorem refl (places : Place → Prop) (disk : Disk) : disk.WritesAt places disk :=
  ⟨rfl, fun _ => .inl rfl⟩

theorem mono (h : disk.WritesAt places disk') (more : ∀ q, places q → places' q) :
    disk.WritesAt places' disk' where
  working := h.working
  entries q := (h.entries q).imp_right fun changed =>
    changed.imp_right fun written => ⟨more q written.1, written.2⟩

theorem trans (h : disk.WritesAt places disk') (h' : disk'.WritesAt places disk'') :
    disk.WritesAt places disk'' where
  working := h'.working.trans h.working
  entries q := by
    rcases h.entries q with same | ⟨missing, added⟩ | ⟨inside, noFolder, written⟩
    · have later := h'.entries q
      rw [same] at later
      exact later
    · rcases h'.entries q with same' | ⟨missing', -⟩ | ⟨-, noFolder', -⟩
      · exact .inr (.inl ⟨missing, same'.trans added⟩)
      · cases missing'.symm.trans added
      · exact absurd added noFolder'
    · rcases h'.entries q with same' | ⟨missing', -⟩ | ⟨-, -, written'⟩
      · exact .inr (.inr ⟨inside, noFolder, by rwa [same']⟩)
      · obtain ⟨content, executable, there⟩ := written
        cases missing'.symm.trans there
      · exact .inr (.inr ⟨inside, noFolder, written'⟩)

/-- No folder is lost. -/
theorem keepsFolders (h : disk.WritesAt places disk') : disk.KeepsFolders disk' where
  working := h.working
  folders q folder := by
    rcases h.entries q with same | ⟨-, added⟩ | ⟨-, noFolder, -⟩
    · exact same.trans folder
    · exact added
    · exact absurd folder noFolder

/-- A file elsewhere is as it was before, and there are no others. -/
theorem file_iff (h : disk.WritesAt places disk') {q : Place} (outside : ¬ places q)
    {executable : Bool} :
    disk'.entry? q = some (.file content executable) ↔
      disk.entry? q = some (.file content executable) := by
  rcases h.entries q with same | ⟨missing, added⟩ | ⟨inside, -, -⟩
  · rw [same]
  · simp [missing, added]
  · exact absurd inside outside

end WritesAt

theorem AddsFolders.writesAt (h : disk.AddsFolders disk') (places : Place → Prop) :
    disk.WritesAt places disk' where
  working := h.working
  entries q := (h.entries q).imp_right .inl

theorem writesAt_put (noFolder : disk.entry? place ≠ some .folder) (content : List UInt8)
    (executable : Bool) :
    disk.WritesAt (· = place) (disk.put place (.file content executable)) where
  working := rfl
  entries q := by
    rw [entry?_put disk (ne_nil_of_not_folder noFolder)]
    by_cases same : q = place
    · rw [if_pos same]
      exact .inr (.inr ⟨same, same ▸ noFolder, content, executable, rfl⟩)
    · rw [if_neg same]
      exact .inl rfl

theorem writesAt_of_write (written : disk.write p content = .ok disk') :
    disk.WritesAt (· = disk.placeOf p) disk' := by
  obtain ⟨place, executable, resolved, noFolder, rfl⟩ := put_of_write written
  obtain rfl := placeOf_of_resolve resolved
  exact writesAt_put noFolder content executable

/-- The path leads to a file with the octets. -/
structure HoldsAt (disk : Disk) (p : Path) (content : List UInt8) : Prop where
  resolves : disk.resolve p = .ok (disk.placeOf p)
  file : ∃ executable, disk.entry? (disk.placeOf p) = some (.file content executable)

theorem holdsAt_iff_read : disk.HoldsAt p content ↔ disk.read p = .ok content := by
  rw [read_eq_ok_iff]
  constructor
  · rintro ⟨resolves, executable, there⟩
    exact ⟨_, executable, resolves, there⟩
  · rintro ⟨place, executable, resolved, there⟩
    obtain rfl := placeOf_of_resolve resolved
    exact ⟨resolved, executable, there⟩

/-- Later work that writes to other places leaves the file. -/
theorem HoldsAt.of_writesAt {places : Place → Prop} (h : disk.HoldsAt p content)
    (writes : disk.WritesAt places disk') (outside : ¬ places (disk.placeOf p)) :
    disk'.HoldsAt p content := by
  have place := placeOf_congr writes.working p
  obtain ⟨executable, there⟩ := h.file
  refine ⟨?_, executable, ?_⟩
  · rw [place]
    exact writes.keepsFolders.resolve h.resolves
  · rw [place]
    exact (writes.file_iff outside).mpr there

theorem holdsAt_put (noFolder : disk.entry? (disk.placeOf p) ≠ some .folder)
    (resolves : disk.resolve p = .ok (disk.placeOf p)) (executable : Bool) :
    HoldsAt (disk.put (disk.placeOf p) (.file content executable)) p content where
  resolves := (keepsFolders_put noFolder _).resolve resolves
  file := by
    refine ⟨executable, ?_⟩
    rw [placeOf_congr (working_put disk _ _) p, entry?_put disk (ne_nil_of_not_folder noFolder)]
    exact if_pos rfl

theorem holdsAt_of_write (written : disk.write p content = .ok disk') :
    disk'.HoldsAt p content := by
  obtain ⟨place, executable, resolved, noFolder, rfl⟩ := put_of_write written
  obtain rfl := placeOf_of_resolve resolved
  exact holdsAt_put noFolder resolved executable

/-- To let a file be run as a program is to write it as it is. -/
theorem HoldsAt.makeExecutable (h : disk.HoldsAt p content)
    (made : disk.makeExecutable p = .ok disk') :
    disk.WritesAt (· = disk.placeOf p) disk' ∧ disk'.HoldsAt p content := by
  obtain ⟨executable, there⟩ := h.file
  have noFolder : disk.entry? (disk.placeOf p) ≠ some .folder := by
    rw [there]
    exact nofun
  have same : disk' = disk.put (disk.placeOf p) (.file content true) := by
    rw [Disk.makeExecutable, find, h.resolves, Result.ok_bind, there] at made
    exact (Except.ok.inj made).symm
  rw [same]
  exact ⟨writesAt_put noFolder content true, holdsAt_put noFolder h.resolves true⟩

end ScriptVet.Disk
