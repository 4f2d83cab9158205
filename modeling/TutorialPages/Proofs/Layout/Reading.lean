import TutorialPages.Assembly.Step
import TutorialPages.Proofs.Files.Reading
import TutorialPages.Proofs.Layout.PageText

/-!
# Which lines read files

What a document reads can be told from its lines: a directive line reads the file that it embeds,
and a line with an image reads it when the line stands by itself on a page, so not as part of a
fenced block that is grouped. What the files hold has no bearing on this, since no file decides
where a page begins or ends.
-/

namespace TutorialPages

/-- A reading and the line that makes it. -/
structure PlacedRead where
  number : Nat
  mode : ReadMode
  path : Path
  deriving DecidableEq, Repr

/-- The reading without its line. -/
def PlacedRead.read (placed : PlacedRead) : ReadMode × Path :=
  (placed.mode, placed.path)

namespace Layout

/-! ## Files do not matter to the layout -/

/-- Whether a line opens a page is seen from its letters. -/
theorem opensPage_eq (files : FileSource) (base : Path) (line : Text) :
    opensPage files base line =
      (Directive.isMarked line && Directive.isStartPage (Directive.body line)) := by
  cases hmarked : Directive.isMarked line with
  | false => simp [opensPage, directive?_of_not_isMarked hmarked]
  | true =>
    rw [Bool.eq_iff_iff, opensPage_iff, directive?_eq_some_iff hmarked,
      Directive.read_eq_ok_of_method?_eq_none rfl]
    simp

/-- Whether a line closes a page is seen from its letters. -/
theorem closesPage_eq (files : FileSource) (base : Path) (line : Text) :
    closesPage files base line =
      (Directive.isMarked line && Directive.isEndPage (Directive.body line)) := by
  cases hmarked : Directive.isMarked line with
  | false => simp [closesPage, directive?_of_not_isMarked hmarked]
  | true =>
    rw [Bool.eq_iff_iff, closesPage_iff, directive?_eq_some_iff hmarked,
      Directive.read_eq_ok_of_method?_eq_none rfl]
    simp

/-- The same page is left open whatever the files hold. -/
theorem openBody?_files (files files' : FileSource) (base : Path) (number : Nat)
    (before : List Text) :
    openBody? files base number before = openBody? files' base number before := by
  have hopens : opensPage files base = opensPage files' base := by
    funext line
    rw [opensPage_eq, opensPage_eq]
  have hmarker : isPageMarker files base = isPageMarker files' base := by
    funext line
    rw [isPageMarker, isPageMarker, closesPage_eq, closesPage_eq, hopens]
  induction before generalizing number with
  | nil => rfl
  | cons line rest ih => rw [openBody?, openBody?, hopens, hmarker, ih]

/-! ## Readings -/

section Readings

variable (setting : Setting)

/-- Whether a line of text is looked at by itself on a page: no block waits for its end there, and
the line begins none. -/
def standsAlone (grouped : Bool) (body : PageBody) (line : Text) : Bool :=
  (body.pending? grouped).isNone && !(grouped && (Fence.opener? line).isSome)

/-- Whether the image that a line refers to is embedded: the line is text that stands alone on the
page that the lines before it leave open. -/
def embedsImage (before : List Text) (line : Text) : Bool :=
  !Directive.isMarked line && Image.isReference line &&
    (openBody? setting.files setting.base 1 before).any fun body =>
      standsAlone setting.options.groupCodeFences body line

/-- What a line reads, where other lines come before. -/
def lineRead? (before : List Text) (line : Text) : Option PlacedRead :=
  if Directive.isMarked line then
    (Directive.embeddedName? line).map fun name =>
      ⟨1 + before.length, .text, Path.below setting.base name⟩
  else if embedsImage setting before line then
    (Image.fileName? line).map fun name =>
      ⟨1 + before.length, .bytes, Path.below setting.base name⟩
  else none

/-- What lines read one after another, where other lines come before. -/
def linesReads (before : List Text) : List Text → List PlacedRead
  | [] => []
  | line :: rest => (lineRead? setting before line).toList ++ linesReads (before ++ [line]) rest

variable {setting} {before : List Text} {line : Text}

theorem lineRead?_of_isMarked (hmarked : Directive.isMarked line = true) :
    lineRead? setting before line = (Directive.embeddedName? line).map fun name =>
      ⟨1 + before.length, .text, Path.below setting.base name⟩ := by
  rw [lineRead?, if_pos hmarked]

/-- Text that refers to no image that is embedded reads nothing. -/
theorem lineRead?_of_not_embedsImage (hmarked : Directive.isMarked line = false)
    (hembeds : embedsImage setting before line = false) : lineRead? setting before line = none := by
  simp [lineRead?, hmarked, hembeds]

theorem number_of_lineRead? {placed : PlacedRead}
    (h : lineRead? setting before line = some placed) :
    placed.number = 1 + before.length := by
  unfold lineRead? at h
  split at h
  · obtain ⟨name, -, rfl⟩ := Option.map_eq_some_iff.mp h
    rfl
  · split at h
    · obtain ⟨name, -, rfl⟩ := Option.map_eq_some_iff.mp h
      rfl
    · cases h

/-- Outside of any page no image is embedded. -/
theorem embedsImage_outside (hopen : openBody? setting.files setting.base 1 before = none) :
    embedsImage setting before line = false := by
  simp [embedsImage, hopen]

theorem embedsImage_inside {body : PageBody} (hmarked : Directive.isMarked line = false)
    (hopen : openBody? setting.files setting.base 1 before = some body) :
    embedsImage setting before line =
      (Image.isReference line && standsAlone setting.options.groupCodeFences body line) := by
  simp [embedsImage, hmarked, hopen]

theorem embedsImage_files (setting : Setting) (files : FileSource) (before : List Text)
    (line : Text) :
    embedsImage { setting with files } before line = embedsImage setting before line := by
  simp only [embedsImage, openBody?_files files setting.files]

/-- What a line reads does not depend on what the files hold. -/
theorem lineRead?_files (setting : Setting) (files : FileSource) (before : List Text)
    (line : Text) :
    lineRead? { setting with files } before line = lineRead? setting before line := by
  simp only [lineRead?, embedsImage_files]

end Readings

end Layout

end TutorialPages
