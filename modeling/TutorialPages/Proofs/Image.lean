import TutorialPages.Files.Catalogue
import TutorialPages.Proofs.Files.Reading
import TutorialPages.Proofs.Text.Search
import TutorialPages.Proofs.Text.Trimming

/-!
# References to images

A line refers to an image file by a name between parentheses: the first opening one of the line and
a closing one that ends it, with any blank space around the name and behind the closing one. A line
can be read in this way at most once (`Reference.line_injective`), and the name that is found is the
one that it is read with (`fileName?_eq_some_iff`). The file of this name is then the only one that
is read; for any other line nothing is read at all.
-/

namespace TutorialPages.Image

/-! ## Lines with a name -/

/-- A way to read a line as a reference to a file. -/
structure Reference where
  /-- What stands before the first opening parenthesis. -/
  front : Text
  /-- The space before the name. -/
  left : Text
  /-- The name, which may hold parentheses and spaces itself. -/
  name : Text
  /-- The space behind the name. -/
  right : Text
  /-- The space behind the closing parenthesis. -/
  back : Text
  notMem_front : '(' ∉ front
  allBlank_left : Text.allBlank left = true
  name_ne_nil : name ≠ []
  isTrimmed_name : Text.IsTrimmed name
  allBlank_right : Text.allBlank right = true
  allBlank_back : Text.allBlank back = true

namespace Reference

/-- What stands between the parentheses. -/
def inner (reference : Reference) : Text :=
  reference.left ++ reference.name ++ reference.right

/-- The line that is read. -/
def line (reference : Reference) : Text :=
  reference.front ++ '(' :: (reference.inner ++ ')' :: reference.back)

theorem after?_line (reference : Reference) :
    Text.after? '(' reference.line = some (reference.inner ++ ')' :: reference.back) :=
  Text.after?_append_cons reference.notMem_front _

theorem trim_inner (reference : Reference) : Text.trim reference.inner = reference.name := by
  rw [inner, Text.trim_pad reference.allBlank_left reference.allBlank_right,
    reference.isTrimmed_name.trim_eq]

/-- Behind the first parenthesis, all but space and the closing parenthesis belongs to the name. -/
theorem mem_name (reference : Reference) {c : Char}
    (hmem : c ∈ reference.inner ++ ')' :: reference.back) (hvisible : isBlank c = false)
    (hne : c ≠ ')') : c ∈ reference.name := by
  have hblank : ∀ space : Text, Text.allBlank space = true → c ∉ space := by
    intro space hspace hc
    rw [Text.allBlank_iff.mp hspace c hc] at hvisible
    cases hvisible
  simp only [inner, List.mem_append, List.mem_cons] at hmem
  -- blank space holds no visible character, so the name is all that is left
  rcases hmem with ((hleft | hname) | hright) | hclose | hback
  · exact absurd hleft (hblank _ reference.allBlank_left)
  · exact hname
  · exact absurd hright (hblank _ reference.allBlank_right)
  · exact absurd hclose hne
  · exact absurd hback (hblank _ reference.allBlank_back)

end Reference

/-! ## Finding the name -/

theorem unclosed?_eq_some_iff {text inner : Text} :
    unclosed? text = some inner ↔ text = inner ++ [')'] := by
  rw [unclosed?]
  constructor
  · intro h
    split at h
    · next front hreverse =>
      rw [← Option.some.inj h, ← List.reverse_cons, ← hreverse, List.reverse_reverse]
    · cases h
  · rintro rfl
    rw [List.reverse_concat]
    exact congrArg some (List.reverse_reverse inner)

/-- Blank space behind the closing parenthesis does not matter. -/
theorem unclosed?_trimEnd_eq_some_iff {text inner : Text} :
    unclosed? (Text.trimEnd text) = some inner ↔
      ∃ back, Text.allBlank back = true ∧ text = inner ++ ')' :: back := by
  rw [unclosed?_eq_some_iff]
  constructor
  · intro h
    obtain ⟨back, hback, hparts⟩ := Text.trimEnd_append text
    refine ⟨back, hback, ?_⟩
    rw [← hparts, h, List.append_assoc, List.singleton_append]
  · rintro ⟨back, hback, rfl⟩
    rw [← List.singleton_append, ← List.append_assoc, Text.trimEnd_pad hback,
      Text.trimEnd_concat (by decide)]

namespace Reference

theorem unclosed?_trimEnd (reference : Reference) :
    unclosed? (Text.trimEnd (reference.inner ++ ')' :: reference.back)) = some reference.inner :=
  unclosed?_trimEnd_eq_some_iff.mpr ⟨reference.back, reference.allBlank_back, rfl⟩

/-- The name that a line is read with is found. -/
theorem fileName?_line (reference : Reference) :
    fileName? reference.line = some reference.name := by
  simp only [fileName?, reference.after?_line, Option.bind_eq_bind, Option.bind_some,
    reference.unclosed?_trimEnd, reference.trim_inner, if_neg reference.name_ne_nil]

/-- A line is read in one way at most. -/
theorem line_injective : Function.Injective line := by
  intro reference other h
  -- the first parenthesis is found in both lines, and so is the one that ends the name
  have hafter : some (reference.inner ++ ')' :: reference.back) =
      some (other.inner ++ ')' :: other.back) := by
    rw [← reference.after?_line, h, other.after?_line]
  have hinner : reference.inner = other.inner := by
    rw [← Option.some_inj, ← reference.unclosed?_trimEnd, Option.some.inj hafter,
      other.unclosed?_trimEnd]
  have hback : reference.back = other.back := by
    have hclosed := Option.some.inj hafter
    rw [hinner] at hclosed
    exact (List.cons.inj (List.append_cancel_left hclosed)).2
  have hfront : reference.front = other.front := by
    rw [line, line, hinner, hback] at h
    exact List.append_cancel_right h
  obtain ⟨hleft, hname, hright⟩ := Text.padding_unique reference.allBlank_left
    reference.allBlank_right reference.isTrimmed_name other.allBlank_left other.allBlank_right
    other.isTrimmed_name reference.name_ne_nil hinner
  -- the parentheses are stripped, and between them the name is what is left of trimming
  obtain ⟨front, left, name, right, back⟩ := reference
  obtain ⟨front', left', name', right', back'⟩ := other
  obtain rfl : front = front' := hfront
  obtain rfl : left = left' := hleft
  obtain rfl : name = name' := hname
  obtain rfl : right = right' := hright
  obtain rfl : back = back' := hback
  rfl

end Reference

theorem exists_reference {line name : Text} (h : fileName? line = some name) :
    ∃ reference : Reference, reference.line = line ∧ reference.name = name := by
  simp only [fileName?, Option.bind_eq_bind, Option.bind_eq_some_iff] at h
  obtain ⟨rest, hafter, inner, hclosed, hname⟩ := h
  split at hname
  · cases hname
  · next hne =>
    -- undo the steps of finding the name, from the first parenthesis inwards
    obtain ⟨front, hfront, rfl⟩ := Text.after?_eq_some_iff.mp hafter
    obtain ⟨back, hback, rfl⟩ := unclosed?_trimEnd_eq_some_iff.mp hclosed
    obtain ⟨left, right, hleft, hright, hinner⟩ := Text.exists_padding inner
    let reference : Reference := {
      front, left, name := Text.trim inner, right, back
      notMem_front := hfront
      allBlank_left := hleft
      name_ne_nil := hne
      isTrimmed_name := Text.isTrimmed_trim inner
      allBlank_right := hright
      allBlank_back := hback }
    refine ⟨reference, ?_, Option.some.inj hname⟩
    show front ++ '(' :: (left ++ Text.trim inner ++ right ++ ')' :: back) = _
    rw [← hinner]

/-- The name that is found is the one that the line is read with. -/
theorem fileName?_eq_some_iff {line name : Text} :
    fileName? line = some name ↔
      ∃ reference : Reference, reference.line = line ∧ reference.name = name := by
  constructor
  · exact exists_reference
  · rintro ⟨reference, rfl, rfl⟩
    exact reference.fileName?_line

theorem fileName?_eq_none_iff {line : Text} :
    fileName? line = none ↔ ∀ reference : Reference, reference.line ≠ line := by
  constructor
  · rintro h reference rfl
    rw [reference.fileName?_line] at h
    cases h
  · intro h
    rw [Option.eq_none_iff_forall_ne_some]
    intro name hname
    obtain ⟨reference, hline, -⟩ := exists_reference hname
    exact h reference hline

/-! ## Reading the file -/

section Embedding

variable {files : FileSource} {base : Path} {line name : Text}

/-- The name on the line leads to the contents of its file, or to the failure to read it. -/
theorem outcome_embed_of_fileName? (h : fileName? line = some name) :
    (embed files base line).outcome =
      match files.readBytes (Path.below base name) with
      | .ok bytes => .ok ⟨name, Base64.encode bytes⟩
      | .error failure => .error (.unreadable (Path.below base name) failure) := by
  simp only [embed, h]
  cases files.readBytes (Path.below base name) with
  | ok bytes => rfl
  | error failure => rfl

/-- What a line without a name is reported with: the text behind its first opening parenthesis, or
all of it. -/
theorem malformed_eq (line : Text) :
    ∃ path, malformed line = .unreadable path
        ⟨.invalidInput, .join ["malformed image reference `", Text.trim line, "`"]⟩ ∧
      (∀ front rest, '(' ∉ front → line = front ++ '(' :: rest → path = Text.trim rest) ∧
      ('(' ∉ line → path = Text.trim line) := by
  refine ⟨_, rfl, ?_, ?_⟩
  · rintro front rest hfront rfl
    rw [Text.after?_append_cons hfront, Option.getD_some]
  · intro hline
    rw [Text.after?_eq_none_iff.mpr hline, Option.getD_none]

end Embedding

/-- A line names the file that it can be read with, in one way at most. Exactly this file is read
then, below the base path, and embedded under its name. A line that cannot be read so is reported
with what stands in the place of the name, and nothing is read. -/
theorem reference_grammar (files : FileSource) (base : Path) (line : Text) :
    (∀ name, fileName? line = some name ↔
      ∃ reference : Reference, reference.line = line ∧ reference.name = name) ∧
    (∀ reference other : Reference, reference.line = line → other.line = line →
      reference = other) ∧
    (∀ reference : Reference, reference.line = line →
      (embed files base line).reads = [(.bytes, Path.below base reference.name)] ∧
      (embed files base line).outcome =
        match files.readBytes (Path.below base reference.name) with
        | .ok bytes => .ok ⟨reference.name, Base64.encode bytes⟩
        | .error failure => .error (.unreadable (Path.below base reference.name) failure)) ∧
    ((∀ reference : Reference, reference.line ≠ line) →
      (embed files base line).reads = [] ∧
      ∃ path, (embed files base line).outcome = .error (.unreadable path
          ⟨.invalidInput, .join ["malformed image reference `", Text.trim line, "`"]⟩) ∧
        (∀ front rest, '(' ∉ front → line = front ++ '(' :: rest → path = Text.trim rest) ∧
        ('(' ∉ line → path = Text.trim line)) := by
  refine ⟨fun name => fileName?_eq_some_iff, ?_, ?_, ?_⟩
  · intro reference other hline hother
    exact Reference.line_injective (hline.trans hother.symm)
  · rintro reference rfl
    have hname := reference.fileName?_line
    refine ⟨?_, outcome_embed_of_fileName? hname⟩
    rw [reads_embed, hname]
    rfl
  · intro hnone
    have hname := fileName?_eq_none_iff.mpr hnone
    obtain ⟨path, hmalformed, hpath⟩ := malformed_eq line
    refine ⟨?_, path, ?_, hpath⟩
    · rw [reads_embed, hname]
      rfl
    · simp only [embed, hname, Traced.outcome_fail, hmalformed]

/-- A name with spaces and parentheses between spaces. -/
def Reference.numbered : Reference where
  front := "![a) b]"
  left := " "
  name := "tux (1).png"
  right := "\t"
  back := " "
  notMem_front := by decide
  allBlank_left := by decide
  name_ne_nil := by decide
  isTrimmed_name := by decide
  allBlank_right := by decide
  allBlank_back := by decide

/-- The spaces in a name belong to it, and a line that is not closed names no file. -/
theorem reference_grammar_numbered :
    (embed (Catalogue.source [("lesson/tux (1).png", .ok [1, 2, 3])]) "lesson"
      "![a) b]( tux (1).png\t) ".toList).outcome = .ok ⟨"tux (1).png", "AQID"⟩ ∧
    (embed (Catalogue.source []) "lesson" "![alt]( tux.png".toList).reads = [] ∧
    (embed (Catalogue.source []) "lesson" "![alt]( tux.png".toList).outcome = .error (.unreadable
      "tux.png" ⟨.invalidInput, "malformed image reference `![alt]( tux.png`"⟩) := by
  obtain ⟨-, -, hread, -⟩ := reference_grammar
    (Catalogue.source [("lesson/tux (1).png", .ok [1, 2, 3])]) "lesson"
    "![a) b]( tux (1).png\t) ".toList
  obtain ⟨-, -, -, hnone⟩ := reference_grammar (Catalogue.source []) "lesson"
    "![alt]( tux.png".toList
  obtain ⟨hreads, path, houtcome, hpath, -⟩ := hnone (fileName?_eq_none_iff.mp (by rfl))
  refine ⟨?_, hreads, ?_⟩
  · have hbytes : (Catalogue.source [("lesson/tux (1).png", .ok [1, 2, 3])]).readBytes
        (Path.below "lesson" Reference.numbered.name) = .ok [1, 2, 3] := by rfl
    have hcontent : Base64.encode [1, 2, 3] = "AQID".toList := by decide
    rw [(hread Reference.numbered (by decide)).2, hbytes]
    simp only [hcontent]
    rfl
  · rw [houtcome, hpath "![alt]".toList " tux.png".toList (by decide) rfl]
    rfl

end TutorialPages.Image
