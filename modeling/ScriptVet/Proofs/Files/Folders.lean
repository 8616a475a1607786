import ScriptVet.Proofs.Files.Walk
import ScriptVet.Proofs.Result

/-!
# Making folders

Making a folder with all that are missing above it adds folders and changes nothing else, and
afterwards the path leads through folders to a folder. Whether it can be done does not depend on
which folders there are: it can unless a file is in the way or the path is none that the system
takes.
-/

namespace ScriptVet.Disk

/-- The second disk is the first with more folders. -/
structure AddsFolders (disk disk' : Disk) : Prop where
  working : disk'.working = disk.working
  entries : ∀ q, disk'.entry? q = disk.entry? q ∨
    (disk.entry? q = none ∧ disk'.entry? q = some .folder)

theorem AddsFolders.refl (disk : Disk) : disk.AddsFolders disk :=
  ⟨rfl, fun _ => .inl rfl⟩

theorem AddsFolders.trans {disk disk' disk'' : Disk} (h : disk.AddsFolders disk')
    (h' : disk'.AddsFolders disk'') : disk.AddsFolders disk'' where
  working := h'.working.trans h.working
  entries q := by
    rcases h.entries q with same | ⟨missing, added⟩
    · rcases h'.entries q with same' | ⟨missing', added'⟩
      · exact .inl (same'.trans same)
      · exact .inr ⟨same ▸ missing', added'⟩
    · rcases h'.entries q with same' | ⟨missing', added'⟩
      · exact .inr ⟨missing, same'.trans added⟩
      · rw [added] at missing'
        cases missing'

theorem AddsFolders.keepsFolders {disk disk' : Disk} (h : disk.AddsFolders disk') :
    disk.KeepsFolders disk' where
  working := h.working
  folders q folder := by
    rcases h.entries q with same | ⟨-, added⟩
    · exact same.trans folder
    · exact added

/-- A file is where it was before. -/
theorem AddsFolders.file_iff {disk disk' : Disk} (h : disk.AddsFolders disk') {q : Place}
    {content : List UInt8} {executable : Bool} :
    disk'.entry? q = some (.file content executable) ↔
      disk.entry? q = some (.file content executable) := by
  rcases h.entries q with same | ⟨missing, added⟩
  · rw [same]
  · simp [missing, added]

/-- Places that a path leads through. -/
def visitsOf (disk : Disk) (p : Path) : List Place :=
  visits (disk.start p) p.parts

/-- The path leads through folders to a folder. -/
structure LeadsToFolder (disk : Disk) (p : Path) : Prop where
  resolves : ∃ place, disk.resolve p = .ok place
  folders : ∀ q ∈ disk.visitsOf p, disk.entry? q = some .folder

theorem leadsToFolder_iff {disk : Disk} {p : Path} :
    disk.LeadsToFolder p ↔
      ∃ place, disk.resolve p = .ok place ∧ disk.entry? place = some .folder := by
  constructor
  · rintro ⟨⟨place, resolved⟩, folders⟩
    refine ⟨place, resolved, folders place ?_⟩
    obtain ⟨-, walked⟩ := resolve_eq_ok_iff.mp resolved
    rw [(walk_eq_ok_iff.mp walked).1]
    exact target_mem_visits _ _
  · rintro ⟨place, resolved, folder⟩
    refine ⟨⟨place, resolved⟩, fun q hq => ?_⟩
    obtain ⟨-, walked⟩ := resolve_eq_ok_iff.mp resolved
    obtain ⟨rfl, passed, -⟩ := walk_eq_ok_iff.mp walked
    rw [visitsOf, ← List.dropLast_concat_getLast (visits_ne_nil _ _), List.mem_append,
      List.mem_singleton, getLast_visits] at hq
    rcases hq with before | rfl
    · exact passed q before
    · exact folder

theorem LeadsToFolder.mono {disk disk' : Disk} {p : Path} (h : disk.LeadsToFolder p)
    (keeps : disk.KeepsFolders disk') : disk'.LeadsToFolder p := by
  obtain ⟨place, resolved, folder⟩ := leadsToFolder_iff.mp h
  exact leadsToFolder_iff.mpr ⟨place, keeps.resolve resolved, keeps.folders place folder⟩

/-- There is a folder where the path leads, and nothing else was done for it than adding folders on
the way. -/
structure Provides (disk : Disk) (p : Path) (disk' : Disk) : Prop where
  adds : disk.AddsFolders disk'
  leads : disk'.LeadsToFolder p
  elsewhere : ∀ q, q ∉ disk.visitsOf p → disk'.entry? q = disk.entry? q

theorem Provides.refl {disk : Disk} {p : Path} (leads : disk.LeadsToFolder p) :
    disk.Provides p disk :=
  ⟨.refl disk, leads, fun _ _ => rfl⟩

theorem visitsOf_congr {disk disk' : Disk} (working : disk'.working = disk.working) (p : Path) :
    disk'.visitsOf p = disk.visitsOf p := by
  rw [visitsOf, visitsOf, start, start, working]

theorem target_mem_visitsOf (disk : Disk) (p : Path) :
    target (disk.start p) p.parts ∈ disk.visitsOf p :=
  target_mem_visits _ _

/-- The places on the way, without the last one, are on the way to the folder above. -/
theorem visitsOf_parent (disk : Disk) {p : Path} (h : p.parts ≠ []) :
    disk.visitsOf p = disk.visitsOf p.parent ++ [target (disk.start p) p.parts] := by
  have parts := List.dropLast_concat_getLast h
  have steps := visits_append_singleton (disk.start p) p.parts.dropLast (p.parts.getLast h)
  rw [parts] at steps
  exact steps

theorem visitsOf_parent_subset (disk : Disk) (p : Path) :
    disk.visitsOf p.parent ⊆ disk.visitsOf p := by
  by_cases root : p.parts = []
  · have same : p.parent = p := by
      cases p
      cases root
      rfl
    rw [same]
    exact List.Subset.refl _
  · rw [visitsOf_parent disk root]
    exact List.subset_append_left _ _

theorem makeFolder_eq_ok_iff {disk disk' : Disk} {p : Path} :
    disk.makeFolder p = .ok disk' ↔
      ∃ place, disk.resolve p = .ok place ∧ disk.entry? place = none ∧
        disk' = disk.put place .folder := by
  rw [makeFolder]
  cases resolved : disk.resolve p with
  | error e => exact iff_of_false (fun h => nomatch h) fun ⟨_, h, _⟩ => nomatch h
  | ok place =>
      cases there : disk.entry? place with
      | none => simp [bind, Except.bind, there, eq_comm]
      | some entry => simp [bind, Except.bind, there]

theorem provides_of_makeFolder {disk disk' : Disk} {p : Path} (h : disk.makeFolder p = .ok disk') :
    disk.Provides p disk' := by
  obtain ⟨place, resolved, missing, rfl⟩ := makeFolder_eq_ok_iff.mp h
  have notRoot : place ≠ [] := @ne_nil_of_not_folder disk place (by simp [missing])
  have adds : disk.AddsFolders (disk.put place .folder) := by
    refine ⟨rfl, fun q => ?_⟩
    rw [entry?_put disk notRoot]
    by_cases hq : q = place
    · exact .inr ⟨hq ▸ missing, if_pos hq⟩
    · exact .inl (if_neg hq)
  have visited : place ∈ disk.visitsOf p := by
    obtain ⟨-, walked⟩ := resolve_eq_ok_iff.mp resolved
    rw [(walk_eq_ok_iff.mp walked).1]
    exact target_mem_visitsOf disk p
  refine ⟨adds, leadsToFolder_iff.mpr ⟨place, adds.keepsFolders.resolve resolved, ?_⟩, ?_⟩
  · rw [entry?_put disk notRoot, if_pos rfl]
  · intro q hq
    have other : q ≠ place := fun same => hq (same ▸ visited)
    rw [entry?_put disk notRoot, if_neg other]

theorem isFolder_eq_true_iff {disk : Disk} {p : Path} :
    disk.isFolder p = .ok true ↔ disk.LeadsToFolder p := by
  rw [leadsToFolder_iff, isFolder, look, find]
  cases resolved : disk.resolve p with
  | error e =>
      refine iff_of_false ?_ fun ⟨_, h, _⟩ => nomatch h
      simp only [Result.error_bind]
      cases e.cause <;> simp [Except.map]
  | ok place =>
      cases there : disk.entry? place with
      | none => simp [Except.map, bind, Except.bind, there]
      | some entry => simp [Except.map, bind, Except.bind, there]

/-- Where the path leads to a folder there is nothing to be made. -/
theorem ensureFolders_of_leadsToFolder {disk : Disk} {p : Path} (leads : disk.LeadsToFolder p) :
    disk.ensureFolders p = .ok disk := by
  obtain ⟨place, resolved, folder⟩ := leadsToFolder_iff.mp leads
  have there : disk.isFolder p = .ok true := isFolder_eq_true_iff.mpr leads
  have refused : disk.makeFolder p = .error ⟨.alreadyThere, p.toString⟩ := by
    rw [makeFolder, resolved, Result.ok_bind, folder]
  rw [ensureFolders]
  cases p.parts.length with
  | zero => simp [ensureFoldersFrom, ensureFolder, refused, there]
  | succ above => simp [ensureFoldersFrom, refused, there]

/-- What is done when a folder could not be made. -/
theorem provides_of_isFolder {disk disk' : Disk} {p : Path} {e : DiskError}
    (h : (do if ← disk.isFolder p then .ok disk else .error e) = Except.ok disk') :
    disk.Provides p disk' := by
  obtain ⟨found, there, h⟩ := Result.bind_eq_ok.mp h
  cases found with
  | false => cases h
  | true =>
      cases h
      exact .refl (isFolder_eq_true_iff.mp there)

theorem provides_of_ensureFolder {disk disk' : Disk} {p : Path}
    (h : disk.ensureFolder p = .ok disk') : disk.Provides p disk' := by
  rw [ensureFolder] at h
  cases made : disk.makeFolder p with
  | ok d =>
      rw [made] at h
      cases h
      exact provides_of_makeFolder made
  | error e =>
      rw [made] at h
      exact provides_of_isFolder h

theorem provides_of_ensureFoldersFrom {disk disk' : Disk} {above : Nat} {p : Path}
    (h : disk.ensureFoldersFrom above p = .ok disk') : disk.Provides p disk' := by
  induction above generalizing p disk' with
  | zero => exact provides_of_ensureFolder h
  | succ above ih =>
      rw [ensureFoldersFrom] at h
      split at h
      · next made =>
        cases h
        exact provides_of_makeFolder made
      · obtain ⟨middle, parents, last⟩ := Result.bind_eq_ok.mp h
        have first := ih parents
        have second := provides_of_ensureFolder last
        refine ⟨first.adds.trans second.adds, second.leads, fun q hq => ?_⟩
        have above : q ∉ disk.visitsOf p.parent := fun h => hq (visitsOf_parent_subset disk p h)
        rw [← visitsOf_congr first.adds.working] at hq
        rw [second.elsewhere q hq, first.elsewhere q above]
      · exact provides_of_isFolder h

/-- What making a folder with all that are missing above it gives. -/
theorem provides_of_ensureFolders {disk disk' : Disk} {p : Path}
    (h : disk.ensureFolders p = .ok disk') : disk.Provides p disk' :=
  provides_of_ensureFoldersFrom h

/-- The system takes the path, and there is no file on it. -/
structure IsFree (disk : Disk) (p : Path) : Prop where
  ask : CanAsk p
  short : ∀ name ∈ p.parts, name.utf8ByteSize ≤ nameLimit
  files : ∀ q ∈ disk.visitsOf p, ∀ content executable,
    disk.entry? q ≠ some (.file content executable)

theorem Provides.isFree {disk disk' : Disk} {p : Path} (h : disk.Provides p disk') :
    disk.IsFree p := by
  obtain ⟨place, resolved⟩ := h.leads.resolves
  obtain ⟨ask, walked⟩ := resolve_eq_ok_iff.mp resolved
  refine ⟨ask, (walk_eq_ok_iff.mp walked).2.2, fun q hq content executable file => ?_⟩
  have visited : q ∈ disk'.visitsOf p := by
    rwa [visitsOf_congr h.adds.working]
  have folder := h.leads.folders q visited
  rw [h.adds.file_iff.mpr file] at folder
  cases folder

theorem toString_of_parts_ne_nil {p : Path} (h : p.parts ≠ []) :
    p.toString = String.ofList (List.replicate p.slashes '/') ++ "/".intercalate p.parts := by
  simp [Path.toString, h]

/-- The text of the folder above is shorter, unless it is a dot. -/
theorem toString_parent {p : Path} (h : p.parts ≠ []) :
    p.parent.toString = "." ∨ ∃ rest, p.toString = p.parent.toString ++ rest := by
  by_cases dot : p.slashes = 0 ∧ p.parts.dropLast = []
  · left
    simp [Path.toString, Path.parent, dot]
  · right
    have parent : p.parent.toString =
        String.ofList (List.replicate p.slashes '/') ++ "/".intercalate p.parts.dropLast := by
      rw [Path.toString, Path.parent, if_neg (by simpa using dot)]
    rw [toString_of_parts_ne_nil h, parent]
    refine ⟨(if p.parts.dropLast = [] then "" else "/") ++ p.parts.getLast h, ?_⟩
    rw [String.append_assoc]
    congr 1
    have parts := List.dropLast_concat_getLast h
    generalize p.parts.getLast h = last at parts ⊢
    generalize p.parts.dropLast = before at parts ⊢
    rw [← parts]
    cases before with
    | nil => simp
    | cons first before =>
        have named : first :: before ≠ [] := by simp
        rw [String.intercalate_append_of_ne_nil named (by simp), String.intercalate_singleton,
          if_neg named, String.append_assoc]

theorem CanAsk.parent {p : Path} (ask : CanAsk p) (h : p.parts ≠ []) : CanAsk p.parent := by
  rcases toString_parent h with dot | ⟨rest, text⟩
  · constructor <;> rw [dot] <;> decide
  · obtain ⟨noHalf, noNul, short⟩ := ask
    rw [text] at noHalf noNul short
    constructor
    · rw [holdsHalf, String.toList_append, List.any_append, Bool.or_eq_false_iff] at noHalf
      exact noHalf.1
    · rw [String.toList_append, List.contains_append, Bool.or_eq_false_iff] at noNul
      exact noNul.1
    · rw [String.utf8ByteSize_append] at short
      omega

theorem IsFree.parent {disk : Disk} {p : Path} (free : disk.IsFree p) (h : p.parts ≠ []) :
    disk.IsFree p.parent where
  ask := free.ask.parent h
  short name hname := free.short name (List.dropLast_subset _ hname)
  files q hq := free.files q (visitsOf_parent_subset disk p hq)

theorem ensureFolder_isOk {disk : Disk} {p : Path} {place : Place}
    (resolved : disk.resolve p = .ok place)
    (noFile : ∀ content executable, disk.entry? place ≠ some (.file content executable)) :
    (disk.ensureFolder p).isOk := by
  cases there : disk.entry? place with
  | none =>
      have made := makeFolder_eq_ok_iff.mpr ⟨place, resolved, there, rfl⟩
      simp [ensureFolder, made, Except.isOk, Except.toBool]
  | some entry =>
      cases entry with
      | file content executable => exact absurd there (noFile content executable)
      | folder =>
          have leads := leadsToFolder_iff.mpr ⟨place, resolved, there⟩
          have found : disk.isFolder p = .ok true := isFolder_eq_true_iff.mpr leads
          cases made : disk.makeFolder p with
          | ok d => simp [ensureFolder, made, Except.isOk, Except.toBool]
          | error e => simp [ensureFolder, made, found, Except.isOk, Except.toBool]

/-- Below folders only the last name can still lead to nothing. -/
theorem resolve_of_leadsToFolder_parent {disk : Disk} {p : Path} (h : p.parts ≠ [])
    (ask : CanAsk p) (short : ∀ name ∈ p.parts, name.utf8ByteSize ≤ nameLimit)
    (above : ∀ q ∈ disk.visitsOf p.parent, disk.entry? q = some .folder) :
    disk.resolve p = .ok (target (disk.start p) p.parts) := by
  refine resolve_eq_ok_iff.mpr ⟨ask, walk_eq_ok_iff.mpr ⟨rfl, fun q hq => ?_, short⟩⟩
  have visited : (disk.visitsOf p).dropLast = disk.visitsOf p.parent := by
    rw [visitsOf_parent disk h, List.dropLast_concat]
  exact above q (visited ▸ hq)

/-- Below folders there is nothing to make above. -/
theorem ensureFoldersFrom_isOk_of_resolve {disk : Disk} {p : Path} {place : Place}
    (resolved : disk.resolve p = .ok place)
    (noFile : ∀ content executable, disk.entry? place ≠ some (.file content executable))
    (above : Nat) : (disk.ensureFoldersFrom above p).isOk := by
  have made := ensureFolder_isOk resolved noFile
  cases above with
  | zero => exact made
  | succ above =>
      rw [ensureFolder] at made
      rw [ensureFoldersFrom]
      cases there : disk.entry? place with
      | none =>
          have made := makeFolder_eq_ok_iff.mpr ⟨place, resolved, there, rfl⟩
          rw [made]
          rfl
      | some entry =>
          have failed : disk.makeFolder p = .error ⟨.alreadyThere, p.toString⟩ := by
            simp [makeFolder, resolved, there]
          rw [failed] at made ⊢
          exact made

theorem ensureFoldersFrom_isOk {disk : Disk} {above : Nat} {p : Path} (free : disk.IsFree p)
    (enough : p.parts.length ≤ above) : (disk.ensureFoldersFrom above p).isOk := by
  induction above generalizing p with
  | zero =>
      have root : p.parts = [] := List.eq_nil_of_length_eq_zero (Nat.le_zero.mp enough)
      have resolved : disk.resolve p = .ok (disk.start p) :=
        resolve_eq_ok_iff.mpr ⟨free.ask, by rw [root, walk_nil]⟩
      have visited : disk.start p ∈ disk.visitsOf p := by
        rw [visitsOf, root]
        exact List.mem_singleton_self _
      exact ensureFolder_isOk resolved (free.files _ visited)
  | succ above ih =>
      cases walked : disk.walk (disk.start p) p.parts with
      | ok place =>
          have visited : place ∈ disk.visitsOf p := by
            rw [(walk_eq_ok_iff.mp walked).1]
            exact target_mem_visitsOf disk p
          exact ensureFoldersFrom_isOk_of_resolve (resolve_eq_ok_iff.mpr ⟨free.ask, walked⟩)
            (free.files _ visited) (above + 1)
      | error cause =>
          have missing : cause = .notFound := walk_error free.files free.short walked
          have failed : disk.makeFolder p = .error ⟨.notFound, p.toString⟩ := by
            rw [makeFolder, resolve_of_canAsk free.ask, walked, missing]
            rfl
          have named : p.parts ≠ [] := by
            intro root
            rw [root] at walked
            cases walked
          have fewer : p.parent.parts.length ≤ above := by
            rw [Path.parent, List.length_dropLast]
            omega
          have parents := ih (free.parent named) fewer
          cases made : disk.ensureFoldersFrom above p.parent with
          | error e =>
              rw [made] at parents
              cases parents
          | ok disk' =>
              have provides := provides_of_ensureFoldersFrom made
              have resolved : disk'.resolve p = .ok (target (disk'.start p) p.parts) :=
                resolve_of_leadsToFolder_parent named free.ask free.short provides.leads.folders
              have visited := target_mem_visitsOf disk' p
              rw [visitsOf_congr provides.adds.working] at visited
              rw [ensureFoldersFrom, failed]
              simp only [made, Result.ok_bind]
              exact ensureFolder_isOk resolved fun content executable file =>
                free.files _ visited content executable (provides.adds.file_iff.mp file)

/-- A file that was written is in the way if anything was before. -/
theorem IsFree.of_write {disk disk' : Disk} {p file : Path} {content : List UInt8}
    (written : disk.write file content = .ok disk') (free : disk'.IsFree p) : disk.IsFree p := by
  obtain ⟨place, executable, -, noFolder, rfl⟩ := put_of_write written
  refine ⟨free.ask, free.short, fun q hq before mode there => ?_⟩
  have now := entry?_put disk (ne_nil_of_not_folder noFolder) (.file content executable) q
  by_cases same : q = place
  · rw [if_pos same] at now
    exact free.files q hq content executable now
  · rw [if_neg same, there] at now
    exact free.files q hq before mode now

/-- A file that can still be written when a folder has been made is not in the way of it. -/
theorem IsFree.write {disk disk' made : Disk} {p file : Path} {content : List UInt8} {place : Place}
    (free : disk.IsFree p) (provides : disk.Provides p made)
    (resolved : made.resolve file = .ok place) (noFolder : made.entry? place ≠ some .folder)
    (written : disk.write file content = .ok disk') : disk'.IsFree p := by
  obtain ⟨place', executable, resolved', noFolder', rfl⟩ := put_of_write written
  have same : place = place' := by
    have kept := provides.adds.keepsFolders.resolve resolved'
    exact Except.ok.inj (resolved.symm.trans kept)
  refine ⟨free.ask, free.short, fun q hq before mode there => ?_⟩
  have visited : q ∈ made.visitsOf p := by
    rw [visitsOf_congr provides.adds.working]
    exact hq
  have other : q ≠ place' := by
    intro h
    exact noFolder (same ▸ h ▸ provides.leads.folders q visited)
  rw [entry?_put disk (ne_nil_of_not_folder noFolder'), if_neg other] at there
  exact free.files q hq before mode there

/-- A folder with all that are missing above it can be made exactly if nothing is in the way. -/
theorem ensureFolders_isOk_iff {disk : Disk} {p : Path} :
    (disk.ensureFolders p).isOk ↔ disk.IsFree p := by
  constructor
  · intro made
    cases h : disk.ensureFolders p with
    | ok disk' => exact (provides_of_ensureFolders h).isFree
    | error e =>
        rw [h] at made
        cases made
  · intro free
    exact ensureFoldersFrom_isOk free (Nat.le_refl _)

end ScriptVet.Disk
