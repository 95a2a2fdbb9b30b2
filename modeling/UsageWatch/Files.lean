/-!
# Files

What a program finds at the paths it is given.
-/

namespace UsageWatch

inductive FileEntry where
  | absent
  /-- Something that is there but cannot be read as a file. -/
  | unreadable
  | file (bytes : ByteArray)

abbrev Files := String → FileEntry

/-- The text of a file; none if it is no file or not UTF-8. -/
def FileEntry.text? : FileEntry → Option String
  | .file bytes => String.fromUTF8? bytes
  | _ => none

theorem FileEntry.text?_file (s : String) : (FileEntry.file s.toUTF8).text? = some s :=
  dif_pos s.isValidUTF8

def FileEntry.isPresent : FileEntry → Bool
  | .absent => false
  | _ => true

/-- The last component of a path, without separators behind it. -/
def lastComponent (path : List Char) : List Char :=
  ((path.reverse.dropWhile (· = '/')).takeWhile (· ≠ '/')).reverse

/-- What stands behind the last point of a file name. A point at the very
beginning does not count. -/
def extension? (path : String) : Option String :=
  let name := lastComponent path.toList
  let behind := name.reverse.takeWhile (· ≠ '.')
  if name = ['.', '.'] ∨ name.length ≤ behind.length + 1 then none
  else some (String.ofList behind.reverse)

end UsageWatch
