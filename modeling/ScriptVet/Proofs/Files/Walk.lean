import ScriptVet.Files.Disk
import ScriptVet.Proofs.Result

/-!
# Where a path leads

Following a path looks at the places on the way. Whoever gets to the end has passed folders only, so
a path that could be followed can still be followed as long as no folder is lost. Neither making
folders nor writing files loses one.
-/

namespace ScriptVet.Disk

theorem entry?_put (disk : Disk) {place : Place} (hp : place ≠ []) (entry : Entry) (q : Place) :
    entry? (disk.put place entry) q = if q = place then some entry else disk.entry? q := by
  unfold entry? put
  by_cases hq : q = place
  · subst hq
    rw [if_neg (by simpa using hp), if_pos rfl]
    exact Keyed.lookup_put_self q entry disk.entries
  · rw [if_neg hq]
    congr 1
    exact Keyed.lookup_put_of_ne hq entry disk.entries

@[simp] theorem working_put (disk : Disk) (place : Place) (entry : Entry) :
    (disk.put place entry).working = disk.working := rfl

/-- Where there is nothing, or a file, is not the root. -/
theorem ne_nil_of_not_folder {disk : Disk} {place : Place} (h : disk.entry? place ≠ some .folder) :
    place ≠ [] := by
  intro root
  rw [root] at h
  exact h rfl

/-- The place that a name leads to from another. -/
def stepTo (place : Place) (name : String) : Place :=
  if name = ".." then place.dropLast
  else if name = "." || name = "" then place
  else place ++ [name]

/-- The places that names lead through, the last one included. -/
def visits (place : Place) : List String → List Place
  | [] => [place]
  | name :: names => place :: visits (stepTo place name) names

/-- The place that names lead to. -/
def target (place : Place) (names : List String) : Place :=
  names.foldl stepTo place

theorem walk_cons (disk : Disk) (place : Place) (name : String) (names : List String) :
    disk.walk place (name :: names) =
      match disk.entry? place with
      | none => .error .notFound
      | some (.file _ _) => .error .notAFolder
      | some .folder =>
        if nameLimit < name.utf8ByteSize then .error .nameTooLong
        else disk.walk (stepTo place name) names := by
  rw [walk, stepTo]
  cases disk.entry? place with
  | none => rfl
  | some entry =>
      cases entry with
      | file content executable => rfl
      | folder =>
          simp only
          split
          · rfl
          · split
            · rfl
            · split <;> rfl

theorem walk_append (disk : Disk) (place : Place) (names more : List String) :
    disk.walk place (names ++ more) =
      match disk.walk place names with
      | .ok arrival => disk.walk arrival more
      | .error cause => .error cause := by
  induction names generalizing place with
  | nil => rfl
  | cons name names ih =>
      rw [List.cons_append, walk_cons, walk_cons]
      cases disk.entry? place with
      | none => rfl
      | some entry =>
          cases entry with
          | file content executable => rfl
          | folder =>
              by_cases long : nameLimit < name.utf8ByteSize
              · simp [long]
              · simp only [long, if_false]
                exact ih (stepTo place name)

theorem visits_ne_nil (place : Place) (names : List String) : visits place names ≠ [] := by
  cases names <;> simp [visits]

/-- The last place is where the names lead to. -/
theorem getLast_visits (place : Place) (names : List String) :
    (visits place names).getLast (visits_ne_nil place names) = target place names := by
  induction names generalizing place with
  | nil => rfl
  | cons name names ih =>
      have next : visits (stepTo place name) names ≠ [] := visits_ne_nil _ _
      exact (List.getLast_cons next).trans (ih (stepTo place name))

theorem target_mem_visits (place : Place) (names : List String) :
    target place names ∈ visits place names := by
  rw [← getLast_visits]
  exact List.getLast_mem _

/-- Names that lead on come after the places passed so far. -/
theorem visits_append_singleton (place : Place) (names : List String) (name : String) :
    visits place (names ++ [name]) =
      visits place names ++ [target place (names ++ [name])] := by
  induction names generalizing place with
  | nil => rfl
  | cons first names ih =>
      rw [List.cons_append, visits, ih]
      rfl

/-- Whoever gets there has passed folders and short names only. -/
theorem walk_eq_ok_iff {disk : Disk} {place arrival : Place} {names : List String} :
    disk.walk place names = .ok arrival ↔
      arrival = target place names ∧
        (∀ q ∈ (visits place names).dropLast, disk.entry? q = some .folder) ∧
        ∀ name ∈ names, name.utf8ByteSize ≤ nameLimit := by
  induction names generalizing place with
  | nil => simp [target, visits, eq_comm]
  | cons name names ih =>
      rw [walk_cons, visits, List.dropLast_cons_of_ne_nil (visits_ne_nil _ _)]
      cases he : disk.entry? place with
      | none => simp [he]
      | some entry =>
          cases entry with
          | file content executable => simp [he]
          | folder =>
              by_cases hl : nameLimit < name.utf8ByteSize
              · have long : ¬ name.utf8ByteSize ≤ nameLimit := Nat.not_le.mpr hl
                simp [hl, long]
              · simp only [hl, if_false, ih, target, List.foldl_cons, List.forall_mem_cons, he,
                  true_and]
                rw [Nat.not_lt] at hl
                simp [hl]

/-- Where there are no files on the way and no long names, at most a folder is missing. -/
theorem walk_error {disk : Disk} {place : Place} {names : List String} {cause : DiskCause}
    (free : ∀ q ∈ visits place names, ∀ content executable,
      disk.entry? q ≠ some (.file content executable))
    (short : ∀ name ∈ names, name.utf8ByteSize ≤ nameLimit)
    (fails : disk.walk place names = .error cause) : cause = .notFound := by
  induction names generalizing place with
  | nil => cases fails
  | cons name names ih =>
      rw [visits, List.forall_mem_cons] at free
      rw [List.forall_mem_cons] at short
      rw [walk_cons] at fails
      cases he : disk.entry? place with
      | none =>
          rw [he] at fails
          exact (Except.error.inj fails).symm
      | some entry =>
          cases entry with
          | file content executable => exact absurd he (free.1 content executable)
          | folder =>
              rw [he] at fails
              simp only [Nat.not_lt.mpr short.1, if_false] at fails
              exact ih free.2 short.2 fails

/-- No folder of the first disk is lost in the second. -/
structure KeepsFolders (disk disk' : Disk) : Prop where
  working : disk'.working = disk.working
  folders : ∀ q, disk.entry? q = some .folder → disk'.entry? q = some .folder

theorem KeepsFolders.walk {disk disk' : Disk} (h : disk.KeepsFolders disk') {place arrival : Place}
    {names : List String} (arrives : disk.walk place names = .ok arrival) :
    disk'.walk place names = .ok arrival := by
  obtain ⟨target, passed, short⟩ := walk_eq_ok_iff.mp arrives
  exact walk_eq_ok_iff.mpr ⟨target, fun q hq => h.folders q (passed q hq), short⟩

/-- The system can be asked about the path. -/
structure CanAsk (p : Path) : Prop where
  noHalf : holdsHalf p.toString = false
  noNul : p.toString.toList.contains '\x00' = false
  short : p.toString.utf8ByteSize ≤ pathLimit

theorem resolve_of_canAsk {p : Path} (h : CanAsk p) (disk : Disk) :
    disk.resolve p =
      (disk.walk (disk.start p) p.parts).mapError fun cause => ⟨cause, p.toString⟩ := by
  simp [resolve, h.noHalf, by simpa using h.noNul, Nat.not_lt.mpr h.short]

theorem resolve_eq_ok_iff {disk : Disk} {p : Path} {place : Place} :
    disk.resolve p = .ok place ↔ CanAsk p ∧ disk.walk (disk.start p) p.parts = .ok place := by
  constructor
  · intro resolved
    simp only [resolve, Result.unless_eq_ok_iff, Result.mapError_eq_ok_iff] at resolved
    obtain ⟨noHalf, noNul, short, walked⟩ := resolved
    exact ⟨⟨by simpa using noHalf, by simpa using noNul, Nat.not_lt.mp short⟩, walked⟩
  · rintro ⟨ask, walked⟩
    rw [resolve_of_canAsk ask, walked]
    rfl

theorem KeepsFolders.resolve {disk disk' : Disk} (h : disk.KeepsFolders disk') {p : Path}
    {place : Place} (resolved : disk.resolve p = .ok place) : disk'.resolve p = .ok place := by
  obtain ⟨ask, walked⟩ := resolve_eq_ok_iff.mp resolved
  refine resolve_eq_ok_iff.mpr ⟨ask, ?_⟩
  rw [start, h.working]
  exact h.walk walked

/-- A file is written where there is no folder. -/
theorem put_of_write {disk disk' : Disk} {p : Path} {content : List UInt8}
    (written : disk.write p content = .ok disk') :
    ∃ place executable, disk.resolve p = .ok place ∧ disk.entry? place ≠ some .folder ∧
      disk' = disk.put place (.file content executable) := by
  rw [write] at written
  cases resolved : disk.resolve p with
  | error e =>
      rw [resolved] at written
      cases written
  | ok place =>
      rw [resolved] at written
      cases there : disk.entry? place with
      | none =>
          simp only [bind, Except.bind, there, Except.ok.injEq] at written
          exact ⟨place, false, rfl, by simp [there], written.symm⟩
      | some entry =>
          cases entry with
          | folder => simp [bind, Except.bind, there] at written
          | file before executable =>
              simp only [bind, Except.bind, there, Except.ok.injEq] at written
              exact ⟨place, executable, rfl, by simp [there], written.symm⟩

/-- A file can be written exactly where a path leads to no folder. -/
theorem write_isOk_iff {disk : Disk} {p : Path} {content : List UInt8} :
    (disk.write p content).isOk ↔
      ∃ place, disk.resolve p = .ok place ∧ disk.entry? place ≠ some .folder := by
  constructor
  · intro possible
    cases written : disk.write p content with
    | ok disk' =>
        obtain ⟨place, -, resolved, noFolder, -⟩ := put_of_write written
        exact ⟨place, resolved, noFolder⟩
    | error e =>
        rw [written] at possible
        cases possible
  · rintro ⟨place, resolved, noFolder⟩
    rw [write, resolved]
    cases there : disk.entry? place with
    | none => simp [bind, Except.bind, there, Except.isOk, Except.toBool]
    | some entry =>
        cases entry with
        | folder => exact absurd there noFolder
        | file before executable => simp [bind, Except.bind, there, Except.isOk, Except.toBool]

theorem keepsFolders_put {disk : Disk} {place : Place} (h : disk.entry? place ≠ some .folder)
    (entry : Entry) : disk.KeepsFolders (disk.put place entry) where
  working := rfl
  folders q folder := by
    have other : q ≠ place := by
      intro same
      exact h (same ▸ folder)
    rw [entry?_put disk (ne_nil_of_not_folder h), if_neg other]
    exact folder

theorem keepsFolders_of_write {disk disk' : Disk} {p : Path} {content : List UInt8}
    (written : disk.write p content = .ok disk') : disk.KeepsFolders disk' := by
  obtain ⟨place, executable, -, noFolder, rfl⟩ := put_of_write written
  exact keepsFolders_put noFolder _

end ScriptVet.Disk
