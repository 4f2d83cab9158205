import Mathlib.Logic.Relation
import TutorialPages.Proofs.Files.Reading

/-!
# Page markers beside methods

Three looks are taken at a body, and at most one of them recognises it; so they may be taken in any
order. What the two looks for page markers see of a body are its letters, and neither spacing nor
the case of ASCII letters changes these.
-/

namespace TutorialPages

/-! ## The looks at a body -/

namespace Directive

/-- One of the looks that are taken at a body. -/
inductive Look where
  /-- Does it open a page? -/
  | startPage
  /-- Does it close a page? -/
  | endPage
  /-- Does it begin with a method word? -/
  | method
  deriving DecidableEq, Repr

/-- Whether a look recognises a body. -/
def Look.recognises (body : Text) : Look → Bool
  | .startPage => isStartPage body
  | .endPage => isEndPage body
  | .method => ((Text.words body).head?.bind Method.ofWord?).isSome

/-- What a body states when a look has recognised it. -/
def Look.read (files : FileSource) (base : Path) (body : Text) : Look → Traced Problem Directive
  | .startPage => pure .startPage
  | .endPage => pure .endPage
  | .method => ofWords files base body (Text.words body)

/-- The directive on a line, when the looks are taken in the given order. -/
def readInOrder (files : FileSource) (base : Path) (order : List Look) (line : Text) :
    Traced Problem Directive :=
  match order.find? (Look.recognises (body line)) with
  | some look => look.read files base (body line)
  | none => .fail (.unknownDirective (body line))

end Directive

/-- A change that page markers are blind to: a blank character more, or another case of an ASCII
letter. -/
inductive Text.Touched : Text → Text → Prop where
  | blank (front back : Text) {c : Char} (hblank : isBlank c = true) :
      Touched (front ++ back) (front ++ c :: back)
  | letter (front back : Text) {c d : Char} (hcase : c.toLower = d.toLower) :
      Touched (front ++ c :: back) (front ++ d :: back)

namespace Directive

variable {files : FileSource} {base : Path} {line text text' : Text}

/-! ## At most one look recognises a body -/

theorem Look.recognises_method_iff :
    Look.method.recognises text = true ↔ ∃ word arguments method,
      Text.words text = word :: arguments ∧ Method.ofWord? word = some method := by
  rw [Look.recognises, Option.isSome_iff_exists]
  cases Text.words text with
  | nil => simp
  | cons word arguments => simp

/-- A text begins with a method word or marks a page, but not both. -/
theorem Look.not_recognises_of_method (h : Look.method.recognises text = true) :
    Look.startPage.recognises text = false ∧ Look.endPage.recognises text = false := by
  obtain ⟨word, arguments, method, hwords, hmethod⟩ := Look.recognises_method_iff.mp h
  exact not_pageMarker_of_ofWord? hwords hmethod

/-- No text opens a page and closes one. -/
theorem Look.not_recognises_of_startPage (h : Look.startPage.recognises text = true) :
    Look.endPage.recognises text = false := by
  rw [Look.recognises, isStartPage, beq_iff_eq] at h
  rw [Look.recognises, isEndPage, h]
  rfl

theorem Look.unique {look look' : Look} (h : look.recognises text = true)
    (h' : look'.recognises text = true) : look = look' := by
  -- of two different looks one is the look for a method, or they are those for the markers
  cases look with
  | method =>
    obtain ⟨hstart, hend⟩ := Look.not_recognises_of_method h
    cases look' with
    | method => rfl
    | startPage => simp [hstart] at h'
    | endPage => simp [hend] at h'
  | startPage =>
    have hend := Look.not_recognises_of_startPage h
    cases look' with
    | startPage => rfl
    | endPage => simp [hend] at h'
    | method => simp [(Look.not_recognises_of_method h').1] at h
  | endPage =>
    cases look' with
    | endPage => rfl
    | startPage => simp [Look.not_recognises_of_startPage h'] at h
    | method => simp [(Look.not_recognises_of_method h').2] at h

/-! ## Any order of the looks -/

/-- Whatever comes before it, the look that recognises a body is found. -/
theorem find?_recognises {order : List Look} {look : Look} (hmem : look ∈ order)
    (h : look.recognises text = true) : order.find? (Look.recognises text) = some look := by
  cases hfind : order.find? (Look.recognises text) with
  | none => simp [List.find?_eq_none.mp hfind look hmem] at h
  | some found => rw [Look.unique (List.find?_some hfind) h]

/-- A text without a method word states nothing. -/
theorem ofWords_of_not_recognises (h : Look.method.recognises text = false) (quoted : Text) :
    ofWords files base quoted (Text.words text) = .fail (.unknownDirective quoted) := by
  rw [Look.recognises] at h
  cases hwords : Text.words text with
  | nil => rfl
  | cons word arguments =>
    have hmethod : Method.ofWord? word = none := by simpa [hwords] using h
    simp only [ofWords, hmethod]

/-- A line is read as by any order of the looks. -/
theorem readInOrder_eq_read {order : List Look} (horder : ∀ look, look ∈ order) (line : Text) :
    readInOrder files base order line = read files base line := by
  -- one look at most recognises the body, so no order can find another one first
  have hfound : ∀ look : Look, look.recognises (body line) = true →
      readInOrder files base order line = look.read files base (body line) := by
    intro look hlook
    rw [readInOrder, find?_recognises (horder look) hlook]
  rw [read]
  cases hstart : isStartPage (body line) with
  | true => exact hfound .startPage hstart
  | false =>
    cases hend : isEndPage (body line) with
    | true => exact hfound .endPage hend
    | false =>
      cases hmethod : Look.method.recognises (body line) with
      | true => exact hfound .method hmethod
      | false =>
        -- no look recognises the body, so every order ends without a find
        have hnone : order.find? (Look.recognises (body line)) = none := by
          rw [List.find?_eq_none]
          intro look _
          cases look with
          | startPage => simp [Look.recognises, hstart]
          | endPage => simp [Look.recognises, hend]
          | method => simp [hmethod]
        rw [readInOrder, hnone]
        exact (ofWords_of_not_recognises hmethod (body line)).symm

/-! ## The letters of a body -/

theorem letters_append (front back : Text) :
    letters (front ++ back) = letters front ++ letters back := by
  rw [letters, List.filter_append, List.flatMap_append]
  rfl

theorem letters_cons_of_blank {c : Char} (h : isBlank c = true) (rest : Text) :
    letters (c :: rest) = letters rest := by
  rw [letters, List.filter_cons_of_neg (by simp [h])]
  rfl

theorem letters_cons_congr {c d : Char} (h : c.toLower = d.toLower) (rest : Text) :
    letters (c :: rest) = letters (d :: rest) := by
  cases hc : isBlank c with
  | true =>
    have hd : isBlank d = true := (isBlank_congr h).symm.trans hc
    rw [letters_cons_of_blank hc, letters_cons_of_blank hd]
  | false =>
    have hd : isBlank d = false := (isBlank_congr h).symm.trans hc
    simp [letters, hc, hd, upperChar_congr h]

/-- Page markers are blind to spacing and to the case of ASCII letters. -/
theorem letters_eq_of_touched (h : Relation.EqvGen Text.Touched text text') :
    letters text = letters text' := by
  -- induction on how the texts are connected: one touch changes no letter, and the rest is equality
  induction h with
  | rel text text' htouched =>
    cases htouched with
    | blank front back hblank =>
      rw [letters_append, letters_append, letters_cons_of_blank hblank]
    | letter front back hcase =>
      rw [letters_append, letters_append, letters_cons_congr hcase]
  | refl text => rfl
  | symm text text' _ ih => exact ih.symm
  | trans text text' text'' _ _ ih ih' => exact ih.trans ih'

/-- Texts that differ in spacing and in the case of ASCII letters mark the same pages. -/
theorem marks_congr (h : Relation.EqvGen Text.Touched text text') :
    isStartPage text = isStartPage text' ∧ isEndPage text = isEndPage text' := by
  simp only [isStartPage, isEndPage, letters_eq_of_touched h, and_self]

/-- Page markers and methods exclude each other. At most one of the three looks recognises a body,
so a line is read alike whatever their order. A page marker reads no file, and it is told by its
letters alone, which neither spacing nor the case of ASCII letters changes. -/
theorem read_pageMarkers (files : FileSource) (base : Path) :
    (∀ (text : Text) (look look' : Look), look.recognises text = true →
      look'.recognises text = true → look = look') ∧
    (∀ (order : List Look) (line : Text), (∀ look, look ∈ order) →
      readInOrder files base order line = read files base line) ∧
    (∀ line, (read files base line).outcome = .ok .startPage ∨
        (read files base line).outcome = .ok .endPage → (read files base line).reads = []) ∧
    (∀ line,
      ((read files base line).outcome = .ok .startPage ↔
        ((body line).filter fun c => !isBlank c).flatMap upperChar = "STARTPAGE".toList) ∧
      ((read files base line).outcome = .ok .endPage ↔
        ((body line).filter fun c => !isBlank c).flatMap upperChar = "ENDPAGE".toList)) ∧
    (∀ text text', Relation.EqvGen Text.Touched text text' →
      (isStartPage text = isStartPage text' ∧ isEndPage text = isEndPage text') ∧
      ((read files base (marker ++ text)).outcome = .ok .startPage ↔
        (read files base (marker ++ text')).outcome = .ok .startPage) ∧
      ((read files base (marker ++ text)).outcome = .ok .endPage ↔
        (read files base (marker ++ text')).outcome = .ok .endPage)) := by
  -- that a line is a page marker is seen from its body alone
  have hstart : ∀ line, (read files base line).outcome = .ok .startPage ↔
      isStartPage (body line) = true := by
    intro line
    rw [read_eq_ok_of_method?_eq_none rfl]
    simp
  have hend : ∀ line, (read files base line).outcome = .ok .endPage ↔
      isEndPage (body line) = true := by
    intro line
    rw [read_eq_ok_of_method?_eq_none rfl]
    simp
  refine ⟨fun text look look' => Look.unique, fun order line horder => ?_, ?_, ?_, ?_⟩
  · exact readInOrder_eq_read horder line
  · intro line hmarker
    rw [hstart, hend] at hmarker
    rw [reads_read, embeddedName?_of_pageMarker hmarker]
    rfl
  · intro line
    -- the letters in the statement are those that the looks compare
    rw [hstart, hend, isStartPage, isEndPage, beq_iff_eq, beq_iff_eq]
    exact ⟨Iff.rfl, Iff.rfl⟩
  · intro text text' htouched
    have hmarks := marks_congr htouched
    -- trimming keeps the words and with them the letters
    have hbody : ∀ text, letters (body (marker ++ text)) = letters text := fun text =>
      letters_congr (words_body_marker_append text)
    simp only [isStartPage, isEndPage] at hmarks
    refine ⟨marks_congr htouched, ?_, ?_⟩
    · rw [hstart, hstart, isStartPage, isStartPage, hbody, hbody, hmarks.1]
    · rw [hend, hend, isEndPage, isEndPage, hbody, hbody, hmarks.2]

/-- An ideographic space inside a page marker, looked at for a method first; and a marker that loses
its space and the size of its first letter. -/
theorem read_pageMarkers_end_and_start :
    (∀ look : Look, look.recognises "end\u3000pAgE".toList = true → look = .endPage) ∧
    readInOrder ⟨.ok, fun _ => .ok []⟩ [] [.method, .startPage, .endPage]
        "-> end\u3000pAgE".toList =
      read ⟨.ok, fun _ => .ok []⟩ [] "-> end\u3000pAgE".toList ∧
    (read ⟨.ok, fun _ => .ok []⟩ [] "-> end\u3000pAgE".toList).reads = [] ∧
    (read ⟨.ok, fun _ => .ok []⟩ [] (marker ++ "sTARTPAGE".toList)).outcome =
      .ok .startPage := by
  obtain ⟨hunique, horder, hreads, -, htouched⟩ := read_pageMarkers ⟨.ok, fun _ => .ok []⟩ []
  refine ⟨?_, ?_, ?_, ?_⟩
  · intro look hlook
    exact hunique _ look .endPage hlook (by decide +kernel)
  · refine horder _ _ fun look => ?_
    cases look <;> decide
  · exact hreads _ (.inr rfl)
  · have hspace : Text.Touched "STARTPAGE".toList "START PAGE".toList :=
      .blank "START".toList "PAGE".toList (by decide)
    have hletter : Text.Touched "STARTPAGE".toList "sTARTPAGE".toList :=
      .letter [] "TARTPAGE".toList (by decide)
    have hsame : Relation.EqvGen Text.Touched "START PAGE".toList "sTARTPAGE".toList :=
      .trans _ _ _ (.symm _ _ (.rel _ _ hspace)) (.rel _ _ hletter)
    exact (htouched _ _ hsame).2.1.mp rfl

end Directive

end TutorialPages
