import TutorialPages.Files.Path

/-!
# File sources

A file source answers two questions about a path: what text the file holds, and what bytes. Either
may fail with a cause and a reason in words.
-/

namespace TutorialPages

/-- Why a file cannot be read. -/
inductive ReadCause where
  /-- There is no such file. -/
  | notFound
  /-- The file may not be read. -/
  | permissionDenied
  /-- The path leads to a directory. -/
  | isDirectory
  /-- The path goes through something that is no directory. -/
  | notDirectory
  /-- The file does not hold what was asked for. -/
  | invalidData
  /-- The request itself makes no sense. -/
  | invalidInput
  /-- A cause that goes by another name. -/
  | other (name : Text)
  deriving DecidableEq, Repr

/-- A reading that failed. -/
structure ReadFailure where
  cause : ReadCause
  reason : Text
  deriving DecidableEq, Repr

/-- Where the files of a lesson come from. -/
structure FileSource where
  /-- The contents of a file as text. -/
  readText : Path → Except ReadFailure Text
  /-- The contents of a file as bytes. -/
  readBytes : Path → Except ReadFailure (List UInt8)

namespace FileSource

/-- The failure of reading text from bytes that are not UTF-8. -/
def notUtf8 : ReadFailure :=
  ⟨.invalidData, "stream did not contain valid UTF-8"⟩

/-- The file source that is given by the bytes alone; text is their reading in UTF-8. -/
def ofBytes (readBytes : Path → Except ReadFailure (List UInt8)) : FileSource where
  readText path := do
    match Text.ofUtf8? (← readBytes path) with
    | some text => return text
    | none => throw notUtf8
  readBytes := readBytes

end FileSource

end TutorialPages
