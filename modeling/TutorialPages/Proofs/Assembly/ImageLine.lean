import TutorialPages.Files.Catalogue
import TutorialPages.Proofs.Assembly.Success
import TutorialPages.Proofs.Image
import TutorialPages.Proofs.Text.Base64

/-!
# Lines that are an image

A line that is nothing but an image embeds the file that it names and is rendered like any other
line. The name is looked for behind the first opening parenthesis of the line, so the alternative
text must not hold one; a closing parenthesis may stand there.
-/

namespace TutorialPages

open Traced

/-! ## What stands on the line -/

namespace Image

/-- The line `![alt](name)`. -/
def line (alt name : Text) : Text :=
  '!' :: '[' :: (alt ++ ']' :: '(' :: (name ++ [')']))

variable {alt name : Text}

theorem isReference_line (alt name : Text) : isReference (line alt name) = true := rfl

theorem isMarked_line (alt name : Text) : Directive.isMarked (line alt name) = false := rfl

theorem allBlank_line (alt name : Text) : Text.allBlank (line alt name) = false := rfl

theorem run?_line (alt name : Text) : Fence.run? (line alt name) = none := by
  simp [line, Fence.run?, Fence.indentation]

/-- The line as a reference to the file of this name. -/
def lineReference (halt : '(' ∉ alt) (hname : Text.IsWord name) : Reference where
  front := '!' :: '[' :: (alt ++ [']'])
  left := []
  name := name
  right := []
  back := []
  notMem_front := by simp [halt]
  allBlank_left := rfl
  name_ne_nil := hname.1
  isTrimmed_name := hname.isTrimmed
  allBlank_right := rfl
  allBlank_back := rfl

theorem line_lineReference (halt : '(' ∉ alt) (hname : Text.IsWord name) :
    (lineReference halt hname).line = line alt name := by
  simp [lineReference, Reference.line, Reference.inner, line]

/-- Without an opening parenthesis in the alternative text the name is found. -/
theorem fileName?_line (halt : '(' ∉ alt) (hname : Text.IsWord name) :
    fileName? (line alt name) = some name := by
  rw [← line_lineReference halt hname]
  exact (lineReference halt hname).fileName?_line

/-- With one, something else is taken for the name. -/
theorem fileName?_line_ne (halt : '(' ∈ alt) (hname : '(' ∉ name) :
    fileName? (line alt name) ≠ some name := by
  have hfront : '(' ∈ '!' :: '[' :: alt := by simp [halt]
  have hline : line alt name = ('!' :: '[' :: alt) ++ (']' :: '(' :: (name ++ [')'])) := by
    simp [line]
  obtain ⟨back, hafter⟩ := Text.after?_append_of_mem hfront (']' :: '(' :: (name ++ [')']))
  rw [← hline] at hafter
  intro hfound
  obtain ⟨reference, hreference, rfl⟩ := exists_reference hfound
  -- the parenthesis before the name stands behind the first one, so it is read as part of the name
  rw [← hreference, reference.after?_line, Option.some_inj] at hafter
  have hmem : '(' ∈ reference.inner ++ ')' :: reference.back := by
    rw [hafter]
    simp
  exact hname (reference.mem_name hmem (by decide) (by decide))

/-- The file is embedded under the name that the line gives. -/
theorem outcome_embed {files : FileSource} {base : Path} {line : Text} {bytes : List UInt8}
    (hname : fileName? line = some name)
    (hread : files.readBytes (Path.below base name) = .ok bytes) :
    (embed files base line).outcome = .ok ⟨name, Base64.encode bytes⟩ := by
  rw [outcome_embed_of_fileName? hname, hread]

end Image

/-- Each fragment is its own HTML, blocks are grouped, and there is one file, an image of three
bytes. -/
def Setting.pictured : Setting where
  base := "lesson"
  options := { groupCodeFences := true }
  renderer := .ok
  files := Catalogue.source [("lesson/tux.png", .ok [1, 2, 3])]

namespace Assembly

variable {setting : Setting} {number : Nat} {line html : Text} {assembly : Assembly}
  {page : OpenPage}

/-- A line that is not blank and is the line of no fence is rendered by itself. -/
theorem feedText_of_run?_eq_none (hchecks : page.draft.page.postChecks = [])
    (hblank : Text.allBlank line = false) (hrun : Fence.run? line = none) :
    feedText setting number line page = addLine setting number line page := by
  have haccepts : page.draft.acceptsText = true := Draft.acceptsText_iff.mpr hchecks
  obtain ⟨draft, tracker, pending⟩ := page
  -- such a line leaves the tracker as it is, whether a fence is open or not
  cases tracker with
  | none => simp [feedText, haccepts, hblank, FenceTracker.observe, hrun]
  | some fence => simp [feedText, haccepts, hblank, FenceTracker.observe, hrun]

/-- An image on a line by itself, with no opening parenthesis in its alternative text, is embedded
under the name that the text gives it, in the one text that stands for the bytes of its file in
base64; the line is rendered like any other, and nothing else changes. -/
theorem feed_image (setting : Setting) (number : Nat) (alt name : Text) (bytes : List UInt8)
    (html : Text) (assembly : Assembly) (page : OpenPage) (halt : '(' ∉ alt)
    (hname : Text.IsWord name)
    (hread : setting.files.readBytes (Path.below setting.base name) = .ok bytes)
    (hrender : setting.renderer (Image.line alt name) = .ok html)
    (hcurrent : assembly.current = some page) (hchecks : page.draft.page.postChecks = [])
    (hpending : page.pending = none) :
    ∃ content, (∀ text, Base64.decode? text = some bytes ↔ text = content) ∧
      (feed setting number (Image.line alt name) assembly).outcome =
        .ok { assembly with
          current := some { page with
            draft := { page.draft with
              page := { page.draft.page with
                text := page.draft.page.text ++ html
                assets := some (page.draft.page.assets.getD [] ++ [⟨name, content⟩]) } } } } := by
  refine ⟨Base64.encode bytes, fun text => Base64.decode?_eq_some_iff, ?_⟩
  rw [feed_inside_text_eq_ok hcurrent (Image.isMarked_line alt name) hpending,
    feedText_of_run?_eq_none hchecks (Image.allBlank_line alt name) (Image.run?_line alt name)]
  -- first the image is embedded, then its line is rendered
  have hfound := Image.fileName?_line halt hname
  have hembed : (embedImage setting (Image.line alt name) page).outcome =
      .ok { page with draft := page.draft.addAsset ⟨name, Base64.encode bytes⟩ } := by
    rw [embedImage_eq_ok, if_pos (Image.isReference_line alt name)]
    exact ⟨_, Image.outcome_embed hfound hread, rfl⟩
  refine ⟨_, addLine_eq_ok.mpr ⟨_, hembed, ?_⟩, rfl⟩
  exact addRendered_eq_ok.mpr ⟨html, hrender, hchecks, rfl⟩

/-- A closing parenthesis in the alternative text does no harm. -/
theorem feed_image_pictured :
    ∃ content, Base64.decode? content = some [1, 2, 3] ∧
      (feed .pictured 2 "![a) b](tux.png)".toList ⟨some (.start 1), [], []⟩).outcome =
        .ok ⟨some ⟨⟨1, [], "![a) b](tux.png)".toList, [], some [⟨"tux.png".toList, content⟩]⟩,
          none, none⟩, [], []⟩ := by
  obtain ⟨content, hcontent, hfeed⟩ := feed_image .pictured 2 "a) b".toList "tux.png".toList
    [1, 2, 3] "![a) b](tux.png)".toList ⟨some (.start 1), [], []⟩ (.start 1) (by decide) (by decide)
    (by rfl) (by rfl) rfl rfl rfl
  exact ⟨content, (hcontent content).mpr rfl, hfeed⟩

/-- An opening parenthesis in the alternative text hides the name: another file is asked for, and
the line fails though the image can be read and the line can be rendered. -/
theorem feed_image_parentheses :
    (feedAll .pictured 1 ["-> START PAGE".toList] start).outcome = .ok ⟨some (.start 1), [], []⟩ ∧
    (∀ c ∈ "a (b) c".toList, c ≠ '[' ∧ c ≠ ']' ∧ c ≠ '\\' ∧ c ≠ '\n') ∧
    Text.IsWord "tux.png".toList ∧ (∀ c ∈ "tux.png".toList, c ≠ '(' ∧ c ≠ ')') ∧
    Setting.pictured.files.readBytes (Path.below Setting.pictured.base "tux.png".toList) =
      .ok [1, 2, 3] ∧
    Setting.pictured.renderer "![a (b) c](tux.png)".toList = .ok "![a (b) c](tux.png)".toList ∧
    Image.fileName? (Image.line "a (b) c".toList "tux.png".toList) ≠ some "tux.png".toList ∧
    (feed .pictured 2 (Image.line "a (b) c".toList "tux.png".toList)
        ⟨some (.start 1), [], []⟩).outcome =
      .error (.unreadable "lesson/b) c](tux.png".toList
        ⟨.notFound, "lesson/b) c](tux.png not found".toList⟩) := by
  have hname := Image.fileName?_line_ne (by decide : '(' ∈ "a (b) c".toList)
    (by decide : '(' ∉ "tux.png".toList)
  exact ⟨by rfl, by simp, by decide, by simp, by rfl, by rfl, hname, by rfl⟩

end Assembly

end TutorialPages
