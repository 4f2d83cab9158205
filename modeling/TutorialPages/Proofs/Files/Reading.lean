import TutorialPages.Image
import TutorialPages.Proofs.Directive.Printed

/-!
# What is read for a line

Two computations read files: a directive line reads the file that it embeds, and a line with an
image reads that image. Each makes one reading at most, which the line alone determines, and takes
from the file source nothing but the answer to it.
-/

namespace TutorialPages

open Traced

/-! ## Depending on answers alone -/

/-- Two file sources give the same answer to a reading. -/
def FileSource.AnswersAlike (files files' : FileSource) : ReadMode × Path → Prop
  | (.text, path) => files'.readText path = files.readText path
  | (.bytes, path) => files'.readBytes path = files.readBytes path

/-- A computation takes from the files only the answers to its own readings: other files that give
the same answers to them lead to the same events and the same outcome. -/
def DependsOnReads {ε α : Type} (run : FileSource → Traced ε α) : Prop :=
  ∀ files files', (∀ read ∈ (run files).reads, files.AnswersAlike files' read) →
    run files' = run files

namespace DependsOnReads

variable {ε ε' α β : Type}

theorem const (given : Traced ε α) : DependsOnReads fun _ => given :=
  fun _ _ _ => rfl

/-- What comes second is asked for only when the first succeeds, and is then the same. -/
theorem bind {first : FileSource → Traced ε α} {next : FileSource → α → Traced ε β}
    (hfirst : DependsOnReads first)
    (hnext : ∀ value, DependsOnReads fun files => next files value) :
    DependsOnReads fun files => first files >>= next files := by
  intro files files' hanswers
  -- the readings of the first part are among those of the whole
  have hsame : first files' = first files := by
    refine hfirst files files' fun read hread => hanswers read ?_
    cases houtcome : (first files).outcome with
    | error problem => rwa [reads_bind_of_error houtcome]
    | ok value =>
      rw [reads_bind_of_ok houtcome]
      exact List.mem_append_left _ hread
  simp only [hsame]
  refine bind_congr_of_ok fun value hvalue => ?_
  refine hnext value files files' fun read hread => hanswers read ?_
  rw [reads_bind_of_ok hvalue]
  exact List.mem_append_right _ hread

theorem mapError {first : FileSource → Traced ε α} (restate : ε → ε')
    (hfirst : DependsOnReads first) :
    DependsOnReads fun files => (first files).mapError restate := by
  intro files files' hanswers
  rw [reads_mapError] at hanswers
  simp only [Traced.mapError, hfirst files files' hanswers]

end DependsOnReads

/-! ## Directive lines -/

namespace Directive

variable {files : FileSource} {base : Path} {line word : Text} {method : Method}
  {arguments : List Text} {directive : Directive}

/-- The name of the file that a directive line embeds: the single argument of `APPLY` or
`INCLUDEFILE`. -/
def embeddedName? (line : Text) : Option Text :=
  match Text.words (body line) with
  | [word, name] =>
    match Method.ofWord? word with
    | some .apply | some .includeFile => some name
    | _ => none
  | _ => none

/-- A directive reads the file of its single argument and nothing else. -/
theorem reads_embeddedFile (method : Method) (arguments : List Text) :
    (embeddedFile files base method arguments).reads =
      match arguments with
      | [name] => [(.text, Path.below base name)]
      | _ => [] := by
  match arguments with
  | [] => rfl
  | _ :: _ :: _ => rfl
  | [name] =>
    have hevent : (emit (.read .text (Path.below base name)) : Traced Problem Unit).outcome =
        .ok () := rfl
    rw [embeddedFile, reads_bind_of_ok hevent]
    cases files.readText (Path.below base name) with
    | ok value => rfl
    | error failure => rfl

theorem reads_ofArguments (method : Method) (arguments : List Text) :
    (ofArguments files base method arguments).reads =
      match method, arguments with
      | .apply, [name] | .includeFile, [name] => [(.text, Path.below base name)]
      | _, _ => [] := by
  cases method with
  | apply | includeFile =>
    rw [ofArguments, reads_bind_of_silent fun _ => rfl, reads_embeddedFile]
    cases arguments with
    | nil => rfl
    | cons name others => cases others <;> rfl
  | wait | check | execCommand | commandWait | fileCheck | checkCommandOut =>
    rw [ofArguments, reads_bind_of_silent fun _ => rfl]
    rfl

/-- A page marker begins with no method word, so it names no file. -/
theorem embeddedName?_of_pageMarker
    (hmarker : isStartPage (body line) = true ∨ isEndPage (body line) = true) :
    embeddedName? line = none := by
  unfold embeddedName?
  split
  · next word name hwords =>
    cases hmethod : Method.ofWord? word with
    | none => rfl
    | some method =>
      obtain ⟨hstart, hend⟩ := not_pageMarker_of_ofWord? hwords hmethod
      simp [hstart, hend] at hmarker
  · rfl

/-- A directive line reads the file that it embeds, whether or not it can be carried out. -/
theorem reads_read (files : FileSource) (base : Path) (line : Text) :
    (read files base line).reads =
      (embeddedName? line).toList.map fun name => (.text, Path.below base name) := by
  -- a page marker reads nothing
  cases hstart : isStartPage (body line) with
  | true => simp [read, hstart, embeddedName?_of_pageMarker (.inl hstart)]
  | false =>
    cases hend : isEndPage (body line) with
    | true => simp [read, hstart, hend, embeddedName?_of_pageMarker (.inr hend)]
    | false =>
      have hread : read files base line =
          ofWords files base (body line) (Text.words (body line)) := by
        simp only [read, hstart, hend, Bool.false_eq_true, ↓reduceIte]
      rw [hread, embeddedName?]
      cases hwords : Text.words (body line) with
      | nil => rfl
      | cons word arguments =>
        cases hmethod : Method.ofWord? word with
        -- a line that begins with another word is refused before anything is read
        | none =>
          simp only [ofWords, hmethod, reads_fail]
          split
          · next hsplit =>
            cases hsplit
            rw [hmethod]
            rfl
          · rfl
        | some method =>
          have hlast : ∀ directive : Directive, (Traced.log (ε := Problem) .trace
              (.join ["tokenized ", method.word, " directive"]) >>= fun _ =>
                pure directive).reads = [] := fun _ => rfl
          simp only [ofWords, hmethod]
          rw [reads_bind_of_silent hlast, reads_ofArguments]
          -- the method reads its file when it is given just that one argument
          rcases arguments with _ | ⟨name, _ | _⟩
          · cases method <;> rfl
          · cases method <;> simp [hmethod]
          · cases method <;> rfl

/-- The file of a directive that could be read is the one that its line names, with the contents
that the source gave. -/
theorem file?_of_read_eq_ok (h : (read files base line).outcome = .ok directive) :
    match embeddedName? line with
    | none => directive.file? = none
    | some name => ∃ value, directive.file? = some ⟨name, value⟩ ∧
        files.readText (Path.below base name) = .ok value := by
  -- the cases of reading a line: the two markers, no words, and a method with its arguments
  unfold read at h
  dsimp only at h
  split at h
  · next hstart =>
    obtain rfl := outcome_pure_eq_ok.mp h
    rw [embeddedName?_of_pageMarker (.inl hstart)]
    rfl
  · split at h
    · next hend =>
      obtain rfl := outcome_pure_eq_ok.mp h
      rw [embeddedName?_of_pageMarker (.inr hend)]
      rfl
    · rw [embeddedName?]
      unfold ofWords at h
      split at h
      · cases h
      · next word arguments hwords =>
        rw [hwords]
        cases hmethod : Method.ofWord? word with
        | none =>
          rw [hmethod] at h
          cases h
        | some method =>
          rw [hmethod] at h
          obtain ⟨stated, hstated, hlast⟩ := outcome_bind_eq_ok.mp h
          obtain rfl : directive = stated := outcome_pure_eq_ok.mp hlast
          -- two methods embed a file, and of the others no directive has one
          cases method with
          | apply | includeFile =>
            obtain ⟨file, hfile, hdirective⟩ := outcome_bind_eq_ok.mp hstated
            obtain ⟨rfl, hvalue⟩ := embeddedFile_eq_ok.mp hfile
            obtain rfl := outcome_pure_eq_ok.mp hdirective
            simp only [hmethod]
            exact ⟨file.value, rfl, hvalue⟩
          | wait | check | execCommand | commandWait | fileCheck | checkCommandOut =>
            obtain ⟨_, -, hdirective⟩ := outcome_bind_eq_ok.mp hstated
            obtain rfl := outcome_pure_eq_ok.mp hdirective
            match arguments with
            | [] => rfl
            | [_] => simp [hmethod, file?]
            | _ :: _ :: _ => rfl

/-- A method gives a command or a check, never a page marker. -/
theorem method?_of_ofArguments (h : (ofArguments files base method arguments).outcome =
    .ok directive) : directive.method? = some method := by
  cases method with
  | apply | includeFile | wait | check | execCommand | commandWait | fileCheck
  | checkCommandOut =>
    obtain ⟨_, -, hdirective⟩ := outcome_bind_eq_ok.mp h
    obtain rfl := outcome_pure_eq_ok.mp hdirective
    rfl

/-- A line is read as a page marker when its letters spell one, whatever the files hold. -/
theorem read_eq_ok_of_method?_eq_none (hmethod : directive.method? = none) :
    (read files base line).outcome = .ok directive ↔
      directive = .startPage ∧ isStartPage (body line) = true ∨
        directive = .endPage ∧ isEndPage (body line) = true := by
  unfold read
  dsimp only
  cases hstart : isStartPage (body line) with
  | true =>
    have hend : isEndPage (body line) = false := by
      rw [isStartPage, beq_iff_eq] at hstart
      rw [isEndPage, hstart]
      rfl
    -- no letters spell both markers
    simp [hend, eq_comm]
  | false =>
    cases hend : isEndPage (body line) with
    | true => simp [eq_comm]
    | false =>
      simp only [Bool.false_eq_true, ↓reduceIte, and_false, or_self, iff_false]
      -- what words state belongs to a method
      intro hwords
      unfold ofWords at hwords
      split at hwords
      · cases hwords
      · split at hwords
        · cases hwords
        · obtain ⟨stated, hstated, hlast⟩ := outcome_bind_eq_ok.mp hwords
          obtain rfl : directive = stated := outcome_pure_eq_ok.mp hlast
          rw [method?_of_ofArguments hstated] at hmethod
          cases hmethod

/-! ## Other files -/

theorem dependsOnReads_embeddedFile (base : Path) (method : Method) (arguments : List Text) :
    DependsOnReads fun files => embeddedFile files base method arguments := by
  match arguments with
  | [] => exact DependsOnReads.const _
  | _ :: _ :: _ => exact DependsOnReads.const _
  | [name] =>
    intro files files' hanswers
    rw [reads_embeddedFile] at hanswers
    have hanswer : files'.readText (Path.below base name) = files.readText (Path.below base name) :=
      hanswers _ List.mem_cons_self
    simp only [embeddedFile, hanswer]

theorem dependsOnReads_read (base : Path) (line : Text) :
    DependsOnReads fun files => read files base line := by
  unfold read ofWords
  dsimp only
  split
  · exact DependsOnReads.const _
  · split
    · exact DependsOnReads.const _
    · split
      · exact DependsOnReads.const _
      · next word arguments _ =>
        cases Method.ofWord? word with
        | none => exact DependsOnReads.const _
        | some method =>
          refine DependsOnReads.bind ?_ fun _ => DependsOnReads.const _
          cases method with
          | apply | includeFile =>
            exact (dependsOnReads_embeddedFile base _ arguments).bind
              fun _ => DependsOnReads.const _
          | wait | check | execCommand | commandWait | fileCheck | checkCommandOut =>
            exact DependsOnReads.const _

end Directive

/-! ## Lines with an image -/

namespace Image

variable {files : FileSource} {base : Path} {line : Text} {asset : Asset}

/-- A line with an image reads the file that it names. -/
theorem reads_embed (files : FileSource) (base : Path) (line : Text) :
    (embed files base line).reads =
      (fileName? line).toList.map fun name => (.bytes, Path.below base name) := by
  rw [embed]
  cases hname : fileName? line with
  | none => rfl
  | some name =>
    have hevent : (emit (.read .bytes (Path.below base name)) : Traced Problem Unit).outcome =
        .ok () := rfl
    simp only
    rw [reads_bind_of_ok hevent]
    cases files.readBytes (Path.below base name) with
    | ok bytes => rfl
    | error failure => rfl

/-- The image carries the name on its line and the bytes of that file in base64. -/
theorem embed_eq_ok :
    (embed files base line).outcome = .ok asset ↔
      ∃ name bytes, fileName? line = some name ∧
        files.readBytes (Path.below base name) = .ok bytes ∧
        asset = ⟨name, Base64.encode bytes⟩ := by
  rw [embed]
  cases hname : fileName? line with
  | none => simp
  | some name =>
    have hevent : (emit (.read .bytes (Path.below base name)) : Traced Problem Unit).outcome =
        .ok () := rfl
    simp only
    rw [outcome_bind_of_ok hevent]
    cases hbytes : files.readBytes (Path.below base name) with
    | ok bytes =>
      simp only [outcome_log_bind, outcome_pure_eq_ok, Option.some.injEq]
      constructor
      · rintro rfl
        exact ⟨name, bytes, rfl, hbytes, rfl⟩
      · rintro ⟨_, bytes', rfl, hbytes', rfl⟩
        rw [hbytes] at hbytes'
        rw [Except.ok.inj hbytes']
    | error failure => simp [hbytes]

theorem dependsOnReads_embed (base : Path) (line : Text) :
    DependsOnReads fun files => embed files base line := by
  intro files files' hanswers
  rw [reads_embed] at hanswers
  cases hname : fileName? line with
  | none => simp only [embed, hname]
  | some name =>
    rw [hname] at hanswers
    have hanswer : files'.readBytes (Path.below base name) =
        files.readBytes (Path.below base name) :=
      hanswers _ List.mem_cons_self
    simp only [embed, hname, hanswer]

end Image

end TutorialPages
