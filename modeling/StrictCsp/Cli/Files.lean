import StrictCsp.Config.File

/-!
# A directory of files

The command reads its input and configuration by path from the directory it
runs in. A directory is given here by the files under it, each with its
relative path.

A path is walked part by part from the directory, as the system does: an
empty part and `.` stay where the walk is, `..` goes up one level, and a name
must name a file or a directory there. A path that ends at a file gives its
text. A path that ends at a directory cannot be read as a file, and neither can
a path that goes on after a file, even by `.` or `..`; a path with a part that
names nothing names nothing.

Main statement: a file stored under a plain name is read back by that name
(`read_stored`).
-/

namespace StrictCsp.Cli

/-- The parts of a path between its slashes, empty ones included, given the characters read
of the current part, latest first. -/
def splitPath : List Char → List Char → List String
  | [], cur => [String.ofList cur.reverse]
  | c :: cs, cur =>
    if c == '/' then String.ofList cur.reverse :: splitPath cs [] else splitPath cs (c :: cur)

/-- The parts of a stored file's path: empty parts and `.` dropped, `..` going up one level;
none when it climbs out of the directory. -/
def pathParts (path : String) : Option (List String) :=
  let parts := (splitPath path.toList []).filter fun p => p != "" && p != "."
  parts.foldl (fun acc p =>
    acc.bind fun done =>
      if p == ".." then (if done.isEmpty then none else some done.dropLast) else some (done ++ [p]))
    (some [])

/-- The system's message for reading a directory as a file. -/
def isDirectory : String := "Is a directory (os error 21)"

/-- The system's message for a path that goes on below a file. -/
def notDirectory : String := "Not a directory (os error 20)"

/-- A directory, given by its files with their relative paths and texts. -/
structure Files where
  /-- The files, each with its path and text. -/
  entries : List (String × String)
  deriving DecidableEq, Repr

/-- The files with the parts of their paths. -/
def Files.parted (fs : Files) : List (List String × String) :=
  fs.entries.filterMap fun (p, t) => (pathParts p).map (·, t)

/-- Where a walk along the parts of a path has got to. -/
inductive Place where
  /-- A directory of the files, by the parts of its path. -/
  | inside (parts : List String)
  /-- A directory so many levels above the one the files are in. -/
  | above (levels : Nat)
  /-- A file, with its text. -/
  | file (text : String)
  /-- Nothing: a part names nothing in its directory. -/
  | missing
  /-- A part follows a file. -/
  | belowFile
  deriving DecidableEq, Repr

/-- One step of a walk: an empty part and `.` stay, `..` goes up, and a name goes to the file
or directory of that name. Only a directory can be walked from; a directory above the files
holds nothing known. -/
def Files.step (fs : Files) : Place → String → Place
  | .inside parts, part =>
    if part == "" || part == "." then .inside parts
    else if part == ".." then (if parts.isEmpty then .above 1 else .inside parts.dropLast)
    else
      let here := parts ++ [part]
      match fs.parted.find? (·.1 == here) with
      | some (_, text) => .file text
      | none => if fs.parted.any (fun (p, _) => here.isPrefixOf p) then .inside here else .missing
  | .above n, part =>
    if part == "" || part == "." then .above n
    else if part == ".." then .above (n + 1)
    else .missing
  | .file _, _ => .belowFile
  | .missing, _ => .missing
  | .belowFile, _ => .belowFile

/-- Reads a file by path, walking its parts from the directory of the files. An absolute path
names nothing here but the root directory. -/
def Files.read (fs : Files) (path : String) : Except String String :=
  if path.toList.isEmpty then .error Config.noSuchFile
  else if path.toList.head? == some '/' then
    if path.toList.all (· == '/') then .error isDirectory else .error Config.noSuchFile
  else
    match (splitPath path.toList []).foldl fs.step (.inside []) with
    | .file text => .ok text
    | .inside _ | .above _ => .error isDirectory
    | .missing => .error Config.noSuchFile
    | .belowFile => .error notDirectory

/-- A path without slashes is one part. -/
theorem splitPath_no_slash (cs cur : List Char) (h : '/' ∉ cs) :
    splitPath cs cur = [String.ofList (cur.reverse ++ cs)] := by
  induction cs generalizing cur with
  | nil => simp [splitPath]
  | cons c cs ih =>
    simp only [List.mem_cons, not_or] at h
    have hc : (c == '/') = false := by simpa using Ne.symm h.1
    simp only [splitPath, hc, Bool.false_eq_true, if_false]
    rw [ih (c :: cur) h.2]
    simp

/-- A file stored under a plain name, with no slash and other than `.` and `..`, is read back
by that name. -/
theorem read_stored (name text : String) (hslash : '/' ∉ name.toList) (hne : name.toList ≠ [])
    (hdot : name ≠ ".") (hdots : name ≠ "..") :
    Files.read ⟨[(name, text)]⟩ name = .ok text := by
  have hsplit : splitPath name.toList [] = [name] := by
    rw [splitPath_no_slash _ _ hslash]
    simp
  have hne' : name ≠ "" := by
    intro h
    apply hne
    simp [h]
  have hparts : pathParts name = some [name] := by
    simp [pathParts, hsplit, hne', hdot, hdots]
  obtain ⟨c, cs, hcs⟩ : ∃ c cs, name.toList = c :: cs := by
    cases h : name.toList with
    | nil => exact absurd h hne
    | cons c cs => exact ⟨c, cs, rfl⟩
  have hc : c ≠ '/' := by
    intro h
    apply hslash
    rw [hcs, h]
    simp
  have hhead : (name.toList.head? == some '/') = false := by
    rw [hcs]
    simpa using hc
  have hempty : name.toList.isEmpty = false := by
    rw [hcs]
    rfl
  simp [Files.read, hempty, hhead, hsplit, Files.step, Files.parted, hparts, hne', hdot, hdots]

end StrictCsp.Cli
