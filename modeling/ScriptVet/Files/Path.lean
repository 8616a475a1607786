/-!
# Paths

A path is a list of names, with or without a root in front. Empty names and single dots mean
nothing and are dropped when a path is read, while a double dot is kept: what it leads to depends
on the folders there are. A path that begins with exactly two slashes keeps both; more than two are
one.
-/

namespace ScriptVet

/-- A path. -/
structure Path where
  /-- How many slashes stand at the front: none, one or two. -/
  slashes : Nat
  parts : List String
  deriving Repr, DecidableEq, Inhabited

namespace Path

/-- The names between slashes. -/
def splitNames (s : String) : List String :=
  (s.toList.splitOn '/').map String.ofList

/-- The number of slashes that a text keeps at its front. -/
def keptSlashes (cs : List Char) : Nat :=
  match (cs.takeWhile (· == '/')).length with
  | 0 => 0
  | 2 => 2
  | _ => 1

/-- Reads a path. -/
def ofString (s : String) : Path :=
  ⟨keptSlashes s.toList, (splitNames s).filter fun name => name != "" && name != "."⟩

/-- The text of a path; the path of no name at all is a dot. -/
def toString (p : Path) : String :=
  if p.slashes = 0 && p.parts.isEmpty then "."
  else String.ofList (List.replicate p.slashes '/') ++ "/".intercalate p.parts

instance : ToString Path := ⟨Path.toString⟩

def isAbsolute (p : Path) : Bool :=
  p.slashes != 0

/-- The second path seen from the first: an absolute path stands for itself. -/
def join (base p : Path) : Path :=
  if p.isAbsolute then p else ⟨base.slashes, base.parts ++ p.parts⟩

/-- The path one name longer, or several names if the text holds slashes. -/
def child (base : Path) (name : String) : Path :=
  base.join (ofString name)

/-- The path without its last name. -/
def parent (p : Path) : Path :=
  ⟨p.slashes, p.parts.dropLast⟩

/-- The last name. -/
def name (p : Path) : String :=
  p.parts.getLast?.getD ""

/-- The last name cut before its last dot, unless the dot is the first or the last character. -/
def splitExtension (p : Path) : String × String :=
  let cs := p.name.toList
  let tail := (cs.reverse.takeWhile (· != '.')).reverse
  let stem := cs.take (cs.length - tail.length - 1)
  if tail.isEmpty || stem.isEmpty || tail.length = cs.length then (p.name, "")
  else (String.ofList stem, String.ofList ('.' :: tail))

/-- The last name without its extension. -/
def stem (p : Path) : String :=
  p.splitExtension.1

/-- The extension of the last name, with its dot. -/
def extension (p : Path) : String :=
  p.splitExtension.2

@[simp] theorem join_of_isAbsolute {base p : Path} (h : p.isAbsolute) : base.join p = p := by
  simp [join, h]

theorem join_of_relative {base p : Path} (h : p.isAbsolute = false) :
    base.join p = ⟨base.slashes, base.parts ++ p.parts⟩ := by
  simp [join, h]

end Path

end ScriptVet
