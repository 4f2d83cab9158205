import TutorialPages.Files.Source

/-!
# Folders

A folder is a file source in which paths are walked part by part, as on a disk. It lists its files
by the names that lead to them; the directories are the proper beginnings of those lists. A dot
stays where it is, two dots go up, and going through a file fails. What lies above the folder is a
directory too, and nothing else is known of it. The reasons are those that the operating system
gives.
-/

namespace TutorialPages

/-- Files with the names that lead to them. Of two files in one place the first counts. -/
abbrev Folder := List (List Text × List UInt8)

namespace Folder

/-- Cuts a path at its slashes; the parts between neighbouring slashes are empty. -/
def parts : Path → List Text
  | [] => [[]]
  | '/' :: rest => [] :: parts rest
  | c :: rest =>
    match parts rest with
    | [] => [[c]]
    | part :: others => (c :: part) :: others

/-- Whether a part of a path stays where it is. -/
def stays (part : Text) : Bool :=
  part = [] || part = ['.']

/-- Puts a file at its path, in place of the file that was there. -/
def write (folder : Folder) (file : Path × List UInt8) : Folder :=
  ((parts file.1).filter (!stays ·), file.2) :: folder

/-- The folder that comes from writing files one after the other. -/
def ofFiles (files : List (Path × List UInt8)) : Folder :=
  files.foldl write []

/-- What is found at a place. -/
inductive Node where
  /-- A file with its bytes. -/
  | file (bytes : List UInt8)
  /-- A directory. -/
  | directory

/-- What stands where the names lead, when anything does. -/
def node? (folder : Folder) (names : List Text) : Option Node :=
  match folder.lookup names with
  | some bytes => some (.file bytes)
  | none =>
    if names = [] ∨ folder.any fun (place, _) => names.isPrefixOf place then some .directory
    else none

/-- The failure of a path that leads nowhere. -/
def notFound : ReadFailure :=
  ⟨.notFound, "No such file or directory (os error 2)"⟩

/-- The failure of reading a directory. -/
def isDirectory : ReadFailure :=
  ⟨.isDirectory, "Is a directory (os error 21)"⟩

/-- The failure of a path that goes through a file. -/
def notDirectory : ReadFailure :=
  ⟨.notDirectory, "Not a directory (os error 20)"⟩

/-- The failure of a path that no file can have. -/
def nulInPath : ReadFailure :=
  ⟨.invalidInput, "file name contained an unexpected NUL byte"⟩

/-- The failure of a name, or of a whole path, with too many bytes. -/
def nameTooLong : ReadFailure :=
  ⟨.other "InvalidFilename", "File name too long (os error 36)"⟩

/-- The most bytes that a name may have. -/
def nameLimit : Nat := 255

/-- The most bytes that a path may have. -/
def pathLimit : Nat := 4095

/-- A directory on the way along a path. -/
inductive Place where
  /-- Within the folder, with the names that lead there, the last one first. -/
  | inside (names : List Text)
  /-- Somewhere above the folder. -/
  | above

/-- One directory up. -/
def Place.up : Place → Place
  | .inside (_ :: names) => .inside names
  | .inside [] | .above => .above

/-- Walks the parts of a path from a directory. -/
def walk (folder : Folder) (place : Place) : List Text → Except ReadFailure Node
  | [] => .ok .directory
  | part :: rest =>
    if stays part then walk folder place rest
    else if part = ['.', '.'] then walk folder place.up rest
    else if nameLimit < Text.utf8Length part then .error nameTooLong
    else match place with
      | .above => .error notFound
      | .inside names =>
        match node? folder (part :: names).reverse with
        | none => .error notFound
        | some (.file bytes) => if rest = [] then .ok (.file bytes) else .error notDirectory
        | some .directory => walk folder (.inside (part :: names)) rest

/-- The directory where the walk along a path begins: above the folder when the path is absolute. -/
def start (path : Path) : Place :=
  if path.head? = some '/' then .above else .inside []

/-- The bytes at a path. -/
def read (folder : Folder) (path : Path) : Except ReadFailure (List UInt8) :=
  if path.contains '\x00' then .error nulInPath
  else if path = [] then .error notFound
  else if pathLimit < Text.utf8Length path then .error nameTooLong
  else match walk folder (start path) (parts path) with
    | .ok (.file bytes) => .ok bytes
    | .ok .directory => .error isDirectory
    | .error failure => .error failure

/-- The folder as a file source. -/
def source (folder : Folder) : FileSource :=
  .ofBytes folder.read

end Folder

end TutorialPages
