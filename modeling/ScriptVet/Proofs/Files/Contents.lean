import ScriptVet.Proofs.Files.Folders

/-!
# What is read from a file

A file that is put where a path leads is read from that path. Making folders and writing another
file in the same folder do not change what is read.
-/

namespace ScriptVet

/-- A name that leads one step down and nowhere else. -/
structure IsStepName (name : String) : Prop where
  slash : '/' ∉ name.toList
  empty : name ≠ ""
  dot : name ≠ "."
  double : name ≠ ".."

/-- A name that holds no slash is read as it is, unless it means nothing. -/
theorem Path.ofString_of_name {name : String} (slash : '/' ∉ name.toList) (empty : name ≠ "")
    (dot : name ≠ ".") : Path.ofString name = ⟨0, [name]⟩ := by
  have single : splitNames name = [name] := by
    rw [splitNames, List.splitOn_eq_singleton slash, List.map_singleton, String.ofList_toList]
  have relative : keptSlashes name.toList = 0 := by
    rw [keptSlashes]
    cases hn : name.toList with
    | nil => rfl
    | cons c cs =>
        have hc : (c == '/') = false := by
          rw [beq_eq_false_iff_ne]
          intro h
          exact slash (hn ▸ h ▸ List.mem_cons_self)
        rw [List.takeWhile_cons, hc]
        rfl
  rw [ofString, relative, single]
  simp [empty, dot]

theorem Path.child_of_isStepName (folder : Path) {name : String} (h : IsStepName name) :
    folder.child name = ⟨folder.slashes, folder.parts ++ [name]⟩ := by
  rw [child, ofString_of_name h.slash h.empty h.dot]
  rfl

namespace Disk

variable {disk disk' : Disk} {p : Path} {content : List UInt8}

theorem stepTo_of_isStepName (place : Place) {name : String} (h : IsStepName name) :
    stepTo place name = place ++ [name] := by
  rw [stepTo, if_neg h.double, if_neg]
  simp [h.dot, h.empty]

/-- A file is below the place that its folder leads to. -/
theorem place_of_resolve_child {folder : Path} {name : String} (h : IsStepName name) {place : Place}
    (resolved : disk.resolve (folder.child name) = .ok place) :
    place = target (disk.start folder) folder.parts ++ [name] := by
  rw [Path.child_of_isStepName folder h] at resolved
  obtain ⟨-, walked⟩ := resolve_eq_ok_iff.mp resolved
  rw [(walk_eq_ok_iff.mp walked).1, target, List.foldl_append]
  exact stepTo_of_isStepName _ h

theorem read_eq_ok_iff :
    disk.read p = .ok content ↔ ∃ place executable, disk.resolve p = .ok place ∧
      disk.entry? place = some (.file content executable) := by
  rw [read, find]
  cases resolved : disk.resolve p with
  | error e => simp
  | ok place =>
      cases there : disk.entry? place with
      | none => simp [there]
      | some entry =>
          cases entry with
          | folder => simp [there]
          | file found executable => cases executable <;> simp [there]

/-- A path leads where it led before, as long as entries are put where no folder is. -/
theorem read_put {place : Place} (noFolder : disk.entry? place ≠ some .folder) {executable : Bool}
    (resolved : disk.resolve p = .ok place) :
    (disk.put place (.file content executable)).read p = .ok content := by
  refine read_eq_ok_iff.mpr ⟨place, executable, ?_, ?_⟩
  · exact (keepsFolders_put noFolder _).resolve resolved
  · rw [entry?_put disk (ne_nil_of_not_folder noFolder), if_pos rfl]

/-- Making folders leaves all files. -/
theorem read_of_addsFolders (adds : disk.AddsFolders disk') (given : disk.read p = .ok content) :
    disk'.read p = .ok content := by
  obtain ⟨place, executable, resolved, there⟩ := read_eq_ok_iff.mp given
  exact read_eq_ok_iff.mpr
    ⟨place, executable, adds.keepsFolders.resolve resolved, adds.file_iff.mpr there⟩

/-- Writing one file in a folder leaves the others. -/
theorem read_of_write_other {folder : Path} {name other : String} (h : IsStepName name)
    (h' : IsStepName other) (apart : other ≠ name) {otherContent : List UInt8}
    (given : disk.read (folder.child name) = .ok content)
    (written : disk.write (folder.child other) otherContent = .ok disk') :
    disk'.read (folder.child name) = .ok content := by
  obtain ⟨place, executable, resolved, there⟩ := read_eq_ok_iff.mp given
  obtain ⟨place', executable', resolved', noFolder, rfl⟩ := put_of_write written
  refine read_eq_ok_iff.mpr ⟨place, executable, ?_, ?_⟩
  · exact (keepsFolders_put noFolder _).resolve resolved
  · have ne : place ≠ place' := by
      rw [place_of_resolve_child h resolved, place_of_resolve_child h' resolved']
      simpa using apart.symm
    rw [entry?_put disk (ne_nil_of_not_folder noFolder), if_neg ne, there]

end Disk

end ScriptVet
