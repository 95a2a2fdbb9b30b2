import UsageWatch.Files
import UsageWatch.Text.Fields
/-!
# File trees

A working directory held in memory, for programs that are run without a disk. A
path means the same with and without `.` components and doubled separators. Of
everything outside the working directory only the usual directories are there.
-/

namespace UsageWatch

/-- The files below the working directory, by the components of their paths. -/
structure FileTree where
  entries : List (List String × ByteArray) := []

namespace FileTree

/-- The components of a path that lead somewhere. -/
def components (path : String) : List String :=
  ((Text.fields '/' path.toList).map String.ofList).filter fun c => c ≠ "" && c ≠ "."

def isAbsolute (path : String) : Bool := path.toList.head? == some '/'

/-- Whether a path can only name a directory. -/
def namesDirectory (path : String) : Bool :=
  match (Text.fields '/' path.toList).getLast? with
  | some [] | some ['.'] | some ['.', '.'] => true
  | _ => false

def systemDirectories : List String := ["tmp", "etc", "dev", "usr", "root", "home", "proc"]

def hasDirectory (t : FileTree) (directory : List String) : Bool :=
  t.entries.any fun (name, _) => directory.isPrefixOf name && name != directory

def lookup? (t : FileTree) (name : List String) : Option ByteArray :=
  (t.entries.find? (·.1 == name)).map (·.2)

def files (t : FileTree) : Files := fun path =>
  let name := components path
  if path.isEmpty then .absent
  else if isAbsolute path then
    if name.isEmpty || name.length = 1 && systemDirectories.any (name.contains ·) then .unreadable
    else .absent
  else if name.all (· == "..") then .unreadable
  else
    match t.lookup? name with
    | some bytes => if namesDirectory path then .absent else .file bytes
    | none => if t.hasDirectory name then .unreadable else .absent

def put (t : FileTree) (path : String) (bytes : ByteArray) : FileTree :=
  let name := components path
  ⟨(name, bytes) :: t.entries.filter (·.1 != name)⟩

def write? (t : FileTree) (path : String) (bytes : ByteArray) : Option FileTree :=
  let name := components path
  if path.isEmpty || isAbsolute path || namesDirectory path || name.contains ".." then none
  else if name.length ≠ 1 && !t.hasDirectory name.dropLast then none
  else if t.hasDirectory name then none
  else some (t.put path bytes)

end FileTree

end UsageWatch
