import TutorialPages.Text.Lines

/-!
# Laws of lines

What the lines of a text are when the text is put together from others, when its lines end in other
ways, or when it is cut behind some of its lines.
-/

namespace TutorialPages

namespace Text

/-! ## One text after another -/

/-- Whether a text has come to the end of a line, or holds none. -/
def EndsLine (text : Text) : Prop :=
  text = [] ∨ text.getLast? = some '\n'

theorem endsLine_of_cons {c : Char} {rest : Text} (h : EndsLine (c :: rest)) : EndsLine rest := by
  rcases h with hnil | hlast
  · cases hnil
  · cases rest with
    | nil => exact .inl rfl
    | cons d rest =>
      rw [List.getLast?_cons_cons] at hlast
      exact .inr hlast

/-- A text that is not empty has a line. -/
theorem lines_cons_ne_nil (c : Char) (rest : Text) : lines (c :: rest) ≠ [] := by
  rw [lines.eq_def]
  split
  · next h => cases h
  · simp
  · simp
  · split
    · simp
    · simp

/-- A text that has come to the end of a line does not share a line with what follows. -/
theorem lines_append (first second : Text) (h : EndsLine first) :
    lines (first ++ second) = lines first ++ lines second := by
  induction first using lines.induct with
  | case1 => rfl
  | case2 rest ih => simp [lines, ih (endsLine_of_cons h)]
  | case3 rest ih => simp [lines, ih (endsLine_of_cons (endsLine_of_cons h))]
  | case4 c rest hfeed hreturn hnil ih =>
    -- a single character that ends no line
    cases rest with
    | nil =>
      rcases h with hempty | hlast
      · cases hempty
      · exact absurd (Option.some.inj hlast) hfeed
    | cons d rest => exact absurd hnil (lines_cons_ne_nil d rest)
  | case5 c rest hfeed hreturn line others hlines ih =>
    -- the character stands before the first line of the rest, with and without what follows
    have hreturn' : ∀ rest', c = '\r' → rest ++ second = '\n' :: rest' → False := by
      intro rest' hc hrest'
      cases rest with
      | nil => cases hlines
      | cons d rest =>
        cases hrest'
        exact hreturn rest hc rfl
    rw [List.cons_append, lines.eq_4 c (rest ++ second) hfeed hreturn',
      lines.eq_4 c rest hfeed hreturn, ih (endsLine_of_cons h), hlines]
    rfl

/-! ## How lines end -/

/-- An ending behind the last line adds no line to a text, unless the text has come to the end of a
line before, or ends in a carriage return that would become part of the ending. -/
theorem lines_append_ending {text ending : Text} (hending : ending = ['\n'] ∨ ending = ['\r', '\n'])
    (hnil : text ≠ []) (hfeed : text.getLast? ≠ some '\n') (hreturn : text.getLast? ≠ some '\r') :
    lines (text ++ ending) = lines text := by
  induction text using lines.induct with
  | case1 => exact absurd rfl hnil
  -- a line feed that is not the last character ends its line, and the ending stays behind the rest
  | case2 rest ih =>
    cases rest with
    | nil => exact absurd rfl hfeed
    | cons d rest =>
      rw [List.getLast?_cons_cons] at hfeed hreturn
      rw [List.cons_append, lines, lines, ih (List.cons_ne_nil d rest) hfeed hreturn]
  | case3 rest ih =>
    cases rest with
    | nil => exact absurd rfl hfeed
    | cons d rest =>
      rw [List.getLast?_cons_cons, List.getLast?_cons_cons] at hfeed hreturn
      rw [List.cons_append, List.cons_append, lines, lines,
        ih (List.cons_ne_nil d rest) hfeed hreturn]
  | case4 c rest hnotFeed hnotReturn hrest ih =>
    -- a single character, which the ending follows at once
    cases rest with
    | nil =>
      have hc : c ≠ '\r' := fun h => hreturn (congrArg some h)
      rcases hending with rfl | rfl
      · simp [lines, hc]
      · simp [lines, hc]
    | cons d rest => exact absurd hrest (lines_cons_ne_nil d rest)
  | case5 c rest hnotFeed hnotReturn line others hrest ih =>
    -- the ending does not turn this character into a line ending, since more stands between them
    cases rest with
    | nil => cases hrest
    | cons d rest =>
      rw [List.getLast?_cons_cons] at hfeed hreturn
      have hnotReturn' : ∀ rest', c = '\r' → d :: rest ++ ending = '\n' :: rest' → False := by
        intro rest' hc hrest'
        cases hrest'
        exact hnotReturn rest hc rfl
      rw [List.cons_append, lines.eq_4 c (d :: rest ++ ending) hnotFeed hnotReturn',
        lines.eq_4 c (d :: rest) hnotFeed hnotReturn,
        ih (List.cons_ne_nil d rest) hfeed hreturn]

/-- The text with a carriage return put before each chosen line feed. A line feed is chosen by its
place in the text, of which the first character has the given place. -/
def withReturns (chosen : Nat → Bool) (place : Nat) : Text → Text
  | [] => []
  | c :: rest =>
    if c = '\n' ∧ chosen place then '\r' :: '\n' :: withReturns chosen (place + 1) rest
    else c :: withReturns chosen (place + 1) rest

/-- Carriage returns before line feeds are no part of any line. -/
theorem lines_withReturns {text : Text} (h : '\r' ∉ text) (chosen : Nat → Bool) (place : Nat) :
    lines (withReturns chosen place text) = lines text := by
  induction text generalizing place with
  | nil => rfl
  | cons c rest ih =>
    rw [List.mem_cons, not_or] at h
    obtain ⟨hc, hrest⟩ := h
    have hc : c ≠ '\r' := fun h => hc h.symm
    rw [withReturns]
    by_cases hfeed : c = '\n'
    · subst hfeed
      -- the two branches of the choice end the line alike
      split
      · simp only [lines, ih hrest]
      · simp only [lines, ih hrest]
    · -- any other character stands before the first line of the rest
      rw [if_neg fun hchosen => hfeed hchosen.1, lines.eq_4 c _ hfeed fun _ h _ => hc h,
        lines.eq_4 c rest hfeed fun _ h _ => hc h, ih hrest]

/-! ## The front of a text -/

/-- The first lines of a text with their endings. -/
def firstLines : Nat → Text → Text
  | 0, _ => []
  | _ + 1, [] => []
  | count + 1, c :: rest =>
    if c = '\n' then c :: firstLines count rest else c :: firstLines (count + 1) rest

@[simp]
theorem firstLines_zero (text : Text) : firstLines 0 text = [] := by
  rw [firstLines]

/-- A line feed is the end of a line. -/
theorem firstLines_succ_feed (count : Nat) (rest : Text) :
    firstLines (count + 1) ('\n' :: rest) = '\n' :: firstLines count rest := by
  rw [firstLines, if_pos rfl]

theorem firstLines_succ_cons {c : Char} (h : c ≠ '\n') (count : Nat) (rest : Text) :
    firstLines (count + 1) (c :: rest) = c :: firstLines (count + 1) rest := by
  rw [firstLines, if_neg h]

theorem firstLines_isPrefix (count : Nat) (text : Text) : firstLines count text <+: text := by
  induction text generalizing count with
  | nil =>
    cases count with
    | zero => exact List.prefix_rfl
    | succ count => exact List.prefix_rfl
  | cons c rest ih =>
    cases count with
    | zero => exact List.nil_prefix
    | succ count =>
      rw [firstLines]
      -- a line feed uses up one of the lines
      split
      · exact List.cons_prefix_cons.mpr ⟨rfl, ih count⟩
      · exact List.cons_prefix_cons.mpr ⟨rfl, ih (count + 1)⟩

/-- The front of a text has just the first of its lines. -/
theorem lines_firstLines (count : Nat) (text : Text) :
    lines (firstLines count text) = (lines text).take count := by
  -- without a line to keep nothing is left, whatever the text is
  cases count with
  | zero => simp [lines]
  | succ count =>
    induction text using lines.induct generalizing count with
    | case1 => rfl
    | case2 rest ih =>
      rw [firstLines_succ_feed, lines, lines, List.take_succ_cons]
      cases count with
      | zero => simp [lines]
      | succ count => rw [ih count]
    | case3 rest ih =>
      rw [firstLines_succ_cons (by decide), firstLines_succ_feed, lines, lines,
        List.take_succ_cons]
      cases count with
      | zero => simp [lines]
      | succ count => rw [ih count]
    | case4 c rest hfeed hreturn hnil ih =>
      cases rest with
      | nil =>
        rw [firstLines_succ_cons hfeed, firstLines, lines.eq_4 c [] hfeed hreturn, hnil]
        show [[c]] = [[c]].take (count + 1)
        rw [List.take_succ_cons, List.take_nil]
      | cons d rest => exact absurd hnil (lines_cons_ne_nil d rest)
    | case5 c rest hfeed hreturn line others hlines ih =>
      -- the line is not at its end, so what is kept of the rest begins as the rest does
      have hreturn' : ∀ rest', c = '\r' → firstLines (count + 1) rest = '\n' :: rest' → False := by
        intro rest' hc hrest'
        have hprefix := firstLines_isPrefix (count + 1) rest
        rw [hrest'] at hprefix
        obtain ⟨others, hothers⟩ := hprefix
        exact hreturn _ hc hothers.symm
      rw [firstLines_succ_cons hfeed, lines.eq_4 c _ hfeed hreturn',
        lines.eq_4 c rest hfeed hreturn, ih count, hlines]
      rfl

/-- A text can be cut behind any of its lines. -/
theorem exists_cut (text : Text) (count : Nat) :
    ∃ cut, cut <+: text ∧ lines cut = (lines text).take count :=
  ⟨firstLines count text, firstLines_isPrefix count text, lines_firstLines count text⟩

end Text

end TutorialPages
