import TutorialPages.Proofs.Text.LetterCase

/-!
# Lowercase is stable

The characters of a lowercase form are their own lowercase forms. For single characters this is a
property of the tables: no run moves a code point into a run, nor to a place that has a sequence of
its own. For texts it follows, because no capital sigma is left.

A space ends the neighbourhood in which a capital sigma looks for letters, so two texts with a space
between them are lowercased one by one.
-/

namespace TutorialPages

/-! ## The tables -/

namespace CaseTable

/-- Where the run moves a code point. -/
def Run.target (run : Run) (n : Nat) : Nat :=
  ((n : Int) + run.shift).toNat

/-- The run moves its code points past those of the other one; or it moves them in between, where
the other one has every second code point. -/
def Run.avoids (run other : Run) : Bool :=
  Nat.blt (run.target run.last) other.first || Nat.blt other.last (run.target run.first) ||
    (other.stride == 2 && (run.stride == 2 || run.first == run.last) &&
      (run.target run.first + other.first) % 2 == 1)

/-- The run moves its code points to characters: in ASCII to small letters only, and nowhere to the
letter that has a sequence of its own. -/
def Run.Lands (run : Run) : Prop :=
  (0x61 ≤ run.target run.first ∧ run.target run.last ≤ 0x7A ∨ 0x80 ≤ run.target run.first) ∧
  (run.target run.last < 0xD800 ∨
    0xDFFF < run.target run.first ∧ run.target run.last < 0x110000) ∧
  (run.target run.last < 0x130 ∨ 0x130 < run.target run.first)

instance (run : Run) : Decidable run.Lands :=
  inferInstanceAs (Decidable (_ ∧ _ ∧ _))

theorem lowerRuns_avoid : lowerRuns.all (fun run => lowerRuns.all run.avoids) = true := by
  decide +kernel

theorem lowerRuns_land : ∀ run ∈ lowerRuns, run.Lands := by
  decide +kernel

variable {run other : Run} {n code : Nat}

theorem Run.covers_iff :
    run.covers n = true ↔ run.first ≤ n ∧ n ≤ run.last ∧ (n - run.first) % run.stride = 0 := by
  simp [Run.covers, and_assoc]

theorem Run.avoids_iff :
    run.avoids other = true ↔
      run.target run.last < other.first ∨ other.last < run.target run.first ∨
        other.stride = 2 ∧ (run.stride = 2 ∨ run.first = run.last) ∧
          (run.target run.first + other.first) % 2 = 1 := by
  simp [Run.avoids, Nat.blt_eq, or_assoc, and_assoc]

/-- A run that avoids another one moves no code point into it. -/
theorem Run.not_covers_target (hlands : run.Lands) (havoids : run.avoids other = true)
    (hn : run.covers n = true) : other.covers (run.target n) = false := by
  obtain ⟨hfirst, hlast, hstride⟩ := Run.covers_iff.mp hn
  obtain ⟨hpositive, -, -⟩ := hlands
  rw [Run.avoids_iff] at havoids
  rw [← Bool.not_eq_true, Run.covers_iff]
  simp only [Run.target] at hpositive havoids ⊢
  rintro ⟨hfirst', hlast', hstride'⟩
  rcases havoids with hbelow | habove | ⟨htwo, hevery, hparity⟩
  -- the other run lies above all targets, or below them
  · omega
  · omega
  · -- all code points of the run are moved by one distance, so the parity of the first decides
    rw [htwo] at hstride'
    rcases hevery with htwo' | hsingle
    · rw [htwo'] at hstride
      omega
    · omega

/-- A code point is moved to a character that the tables do not move any further. -/
theorem move?_lowerRuns_eq_some (h : move? lowerRuns n = some code) :
    (0x61 ≤ code ∧ code ≤ 0x7A ∨ 0x80 ≤ code) ∧ code.isValidChar ∧ code ≠ 0x130 ∧
      move? lowerRuns code = none := by
  obtain ⟨run, hfound, hcode⟩ := Option.map_eq_some_iff.mp h
  have hmem : run ∈ lowerRuns := List.mem_of_find?_eq_some hfound
  have hcovers : run.covers n = true := by simpa using List.find?_some hfound
  have hlands : run.Lands := lowerRuns_land run hmem
  -- no run covers the target, so the tables have nothing to move there
  have hnone : ∀ other ∈ lowerRuns, other.covers code = false := by
    intro other hother
    have havoids : run.avoids other = true :=
      List.all_eq_true.mp (List.all_eq_true.mp lowerRuns_avoid run hmem) other hother
    rw [← hcode]
    exact Run.not_covers_target hlands havoids hcovers
  obtain ⟨hfirst, hlast, -⟩ := Run.covers_iff.mp hcovers
  obtain ⟨hletter, hvalid, hsequence⟩ := hlands
  simp only [Run.target] at hletter hvalid hsequence
  refine ⟨by omega, ?_, by omega, ?_⟩
  · rw [Nat.isValidChar]
    omega
  · rw [move?, Option.map_eq_none_iff, List.find?_eq_none]
    intro other hother
    rw [hnone other hother]
    decide

theorem of_lookup_lowerSequences {codes : List Nat} (h : lowerSequences.lookup n = some codes) :
    codes = [0x69, 0x307] := by
  rw [lowerSequences, List.lookup_cons, List.lookup_nil] at h
  split at h
  · exact (Option.some.inj h).symm
  · cases h

theorem lookup_lowerSequences_of_ne (h : n ≠ 0x130) : lowerSequences.lookup n = none := by
  rw [lowerSequences, List.lookup_cons, List.lookup_nil, beq_false_of_ne h]

end CaseTable

/-! ## Single characters -/

theorem lowerChar_of_not_isCapital {c : Char} (hascii : c.toNat < 0x80) (h : ¬IsCapital c) :
    lowerChar c = [c] := by
  have hsame : c.toLower = c := by
    apply Char.toNat_inj.mp
    rw [toNat_toLower, if_neg h]
  rw [lowerChar, if_pos hascii, hsame]

/-- The characters of a lowercase form are their own lowercase forms. -/
theorem lowerChar_of_mem_lowerChar {c d : Char} (h : d ∈ lowerChar c) : lowerChar d = [d] := by
  unfold lowerChar at h
  split at h
  · next hascii =>
    -- a character of ASCII, which is no capital letter any more
    obtain rfl := List.mem_singleton.mp h
    have hcode := toNat_toLower c
    apply lowerChar_of_not_isCapital
    · rw [hcode]
      split <;> omega
    · rw [IsCapital, hcode]
      split <;> omega
  · next hascii =>
    split at h
    · next codes hcodes =>
      -- the letter with a sequence of its own
      rw [CaseTable.of_lookup_lowerSequences hcodes] at h
      simp only [List.map_cons, List.map_nil, List.mem_cons, List.not_mem_nil, or_false] at h
      rcases h with rfl | rfl <;> decide
    · next hlookup =>
      split at h
      · next code hmove =>
        -- a letter that is moved, to a place from which nothing is moved any further
        obtain rfl := List.mem_singleton.mp h
        obtain ⟨hletter, hvalid, hsequence, hstays⟩ := CaseTable.move?_lowerRuns_eq_some hmove
        have hcode : (Char.ofNat code).toNat = code := by
          rw [Char.ofNat, dif_pos hvalid]
          rfl
        rcases hletter with ⟨hsmall, hsmall'⟩ | hbeyond
        · apply lowerChar_of_not_isCapital <;> omega
        · rw [lowerChar, hcode, if_neg (by omega), CaseTable.lookup_lowerSequences_of_ne hsequence,
            hstays]
      · next hmove =>
        -- a character without case
        obtain rfl := List.mem_singleton.mp h
        rw [lowerChar, if_neg hascii, hlookup, hmove]

theorem ne_sigma_of_lowerChar {c : Char} (h : lowerChar c = [c]) : c ≠ 'Σ' := by
  rintro rfl
  exact absurd h (by decide)

theorem not_isCapital_of_lowerChar {c : Char} (h : lowerChar c = [c]) : ¬IsCapital c := by
  intro hc
  rw [lowerChar, if_pos (by omega)] at h
  have hcode := congrArg Char.toNat (List.singleton_inj.mp h)
  rw [toNat_toLower, if_pos hc] at hcode
  omega

namespace Text

variable {text rest : Text}

/-! ## Texts in lowercase -/

theorem lowerSigma_cases (before rest : Text) :
    lowerSigma before rest = 'ς' ∨ lowerSigma before rest = 'σ' := by
  unfold lowerSigma
  split
  · exact .inl rfl
  · exact .inr rfl

/-- The lowercase form of a text is made of characters that are their own lowercase forms. -/
theorem lowerChar_of_mem_lowerAfter {before : Text} {d : Char} (h : d ∈ lowerAfter before text) :
    lowerChar d = [d] := by
  induction text generalizing before with
  | nil => cases h
  | cons c rest ih =>
    rw [lowerAfter, List.mem_append] at h
    rcases h with hfirst | hrest
    · split at hfirst
      · -- both forms of the small sigma
        rw [List.mem_singleton.mp hfirst]
        rcases lowerSigma_cases before rest with hsigma | hsigma <;> rw [hsigma] <;> decide
      · exact lowerChar_of_mem_lowerChar hfirst
    · exact ih hrest

theorem lowerAfter_eq_self (before : Text) (h : ∀ c ∈ text, lowerChar c = [c]) :
    lowerAfter before text = text := by
  induction text generalizing before with
  | nil => rfl
  | cons c rest ih =>
    have hc : lowerChar c = [c] := h c List.mem_cons_self
    have hrest := ih (c :: before) fun d hd => h d (List.mem_cons_of_mem c hd)
    rw [lowerAfter, if_neg (ne_sigma_of_lowerChar hc), hc, hrest, List.singleton_append]

/-- A text is its own lowercase form when its characters are. -/
theorem toLower_eq_self (h : ∀ c ∈ text, lowerChar c = [c]) : toLower text = text :=
  lowerAfter_eq_self [] h

theorem lowerChar_of_mem_toLower {d : Char} (h : d ∈ toLower text) : lowerChar d = [d] :=
  lowerChar_of_mem_lowerAfter h

/-! ## Two texts with a space between them -/

theorem startsCased_cons (c : Char) (rest : Text) :
    startsCased (c :: rest) =
      if CaseTable.within CaseTable.caseIgnorable c.toNat then startsCased rest
      else CaseTable.within CaseTable.cased c.toNat := by
  by_cases h : CaseTable.within CaseTable.caseIgnorable c.toNat = true
  · rw [if_pos h, startsCased, List.dropWhile_cons, if_pos h, startsCased]
  · rw [if_neg h, startsCased, List.dropWhile_cons, if_neg h]

/-- No letter is looked for behind a space. -/
theorem startsCased_append_space (text rest : Text) :
    startsCased (text ++ ' ' :: rest) = startsCased text := by
  induction text with
  | nil =>
    have hignorable : CaseTable.within CaseTable.caseIgnorable ' '.toNat = false := by
      decide +kernel
    have hcased : CaseTable.within CaseTable.cased ' '.toNat = false := by decide +kernel
    rw [List.nil_append, startsCased_cons, hignorable, hcased]
    rfl
  | cons c text ih => rw [List.cons_append, startsCased_cons, startsCased_cons, ih]

/-- What stands before a space does not matter behind it. -/
theorem lowerAfter_append_space (before front text : Text) :
    lowerAfter (before ++ ' ' :: front) text = lowerAfter before text := by
  induction text generalizing before with
  | nil => rfl
  | cons c rest ih =>
    have hsigma : lowerSigma (before ++ ' ' :: front) rest = lowerSigma before rest := by
      rw [lowerSigma, startsCased_append_space, lowerSigma]
    rw [lowerAfter, lowerAfter, hsigma, ← List.cons_append, ih (c :: before)]

/-- Two texts with a space between them are lowercased one by one. -/
theorem toLower_append_space (text rest : Text) :
    toLower (text ++ ' ' :: rest) = toLower text ++ ' ' :: toLower rest := by
  suffices hafter : ∀ before : Text,
      lowerAfter before (text ++ ' ' :: rest) = lowerAfter before text ++ ' ' :: lowerAfter [] rest
    from hafter []
  induction text with
  | nil =>
    intro before
    -- the space is its own lowercase form, and nothing before it counts
    have hspace : lowerAfter before (' ' :: rest) = ' ' :: lowerAfter (' ' :: before) rest := rfl
    rw [List.nil_append, hspace, ← List.nil_append (' ' :: before), lowerAfter_append_space]
    rfl
  | cons c text ih =>
    intro before
    have hsigma : lowerSigma before (text ++ ' ' :: rest) = lowerSigma before text := by
      rw [lowerSigma, startsCased_append_space, lowerSigma]
    rw [List.cons_append, lowerAfter, lowerAfter, hsigma, ih, List.append_assoc]

end Text

end TutorialPages
