import TutorialPages.Proofs.Json.Reader
import TutorialPages.Proofs.Text.Integer

/-!
# The indented form

The indented form of a value is its compact form with spaces and line feeds between the tokens, and
with nothing else. So the same tokens are scanned (`scan?_indented_eq`), and what is left when the
spaces and line feeds outside of quoted texts are deleted is the compact form (`squeeze_indented`).
Inside quotes nothing is deleted: a quote in a text is behind a backslash and does not end it.
-/

namespace TutorialPages.Json

/-! ## Deleting space -/

/-- Where a place in a JSON text lies. -/
inductive Quoting where
  /-- Outside of all quoted texts. -/
  | outside
  /-- In a quoted text. -/
  | inside
  /-- Behind a backslash in a quoted text. -/
  | escaped
  deriving DecidableEq, Repr

/-- The place behind a character. -/
def Quoting.next : Quoting → Char → Quoting
  | .outside, c => if c = '"' then .inside else .outside
  | .inside, c => if c = '"' then .outside else if c = '\\' then .escaped else .inside
  | .escaped, _ => .inside

/-- The text without the spaces and line feeds outside of its quoted texts. -/
def squeeze (quoting : Quoting) : Text → Text
  | [] => []
  | c :: rest =>
    if quoting = .outside ∧ (c = ' ' ∨ c = '\n') then squeeze quoting rest
    else c :: squeeze (quoting.next c) rest

variable {c : Char}

theorem squeeze_space (h : c = ' ' ∨ c = '\n') (rest : Text) :
    squeeze .outside (c :: rest) = squeeze .outside rest := by
  rw [squeeze, if_pos ⟨rfl, h⟩]

theorem squeeze_newline (depth : Nat) (rest : Text) :
    squeeze .outside (newline depth ++ rest) = squeeze .outside rest := by
  rw [newline, List.cons_append, squeeze_space (.inr rfl)]
  generalize 4 * depth = width
  induction width with
  | zero => rfl
  | succ width ih => rw [List.replicate_succ, List.cons_append, squeeze_space (.inl rfl), ih]

/-- What is neither space nor quote is kept. -/
theorem squeeze_mark (h : c ∉ ['"', ' ', '\n']) (rest : Text) :
    squeeze .outside (c :: rest) = c :: squeeze .outside rest := by
  simp only [List.mem_cons, List.not_mem_nil, or_false, not_or] at h
  obtain ⟨hquote, hspace, hfeed⟩ := h
  rw [squeeze, if_neg (by simp [hspace, hfeed]), Quoting.next, if_neg hquote]

theorem squeeze_marks (marks : Text) (h : ∀ c ∈ marks, c ∉ ['"', ' ', '\n']) (rest : Text) :
    squeeze .outside (marks ++ rest) = marks ++ squeeze .outside rest := by
  induction marks with
  | nil => rfl
  | cons c marks ih =>
    rw [List.cons_append, squeeze_mark (h c List.mem_cons_self),
      ih fun d hd => h d (List.mem_cons_of_mem c hd), List.cons_append]

theorem squeeze_inside (h : c ∉ ['"', '\\']) (rest : Text) :
    squeeze .inside (c :: rest) = c :: squeeze .inside rest := by
  simp only [List.mem_cons, List.not_mem_nil, or_false, not_or] at h
  rw [squeeze, if_neg (by simp), Quoting.next, if_neg h.1, if_neg h.2]

/-- A backslash takes the next character with it, whatever it is. -/
theorem squeeze_backslash (c : Char) (rest : Text) :
    squeeze .inside ('\\' :: c :: rest) = '\\' :: c :: squeeze .inside rest := rfl

theorem hexDigit_not_mem : ∀ n < 16, hexDigit n ∉ ['"', '\\'] := by
  decide

/-- A quoted text goes on behind each of its characters. -/
theorem squeeze_escape (c : Char) (rest : Text) :
    squeeze .inside (escape c ++ rest) = escape c ++ squeeze .inside rest := by
  rcases escape_cases c with ⟨letter, -, -, hescape⟩ | ⟨hcontrol, hescape⟩ |
    ⟨hquote, hbackslash, -, hescape⟩
  -- what stands behind a backslash is kept, whichever letter it is
  · rw [hescape]
    exact squeeze_backslash letter rest
  · -- the four digits are no quotes
    have hhigh := hexDigit_not_mem (c.toNat / 16) (by omega)
    have hlow := hexDigit_not_mem (c.toNat % 16) (by omega)
    simp only [hescape, List.cons_append, List.nil_append, squeeze_backslash,
      squeeze_inside (c := '0') (by decide), squeeze_inside hhigh, squeeze_inside hlow]
  · rw [hescape, List.singleton_append, List.singleton_append, squeeze_inside (by simp [*])]

/-- A quoted text is kept as it is. -/
theorem squeeze_quote (value rest : Text) :
    squeeze .outside (quote value ++ rest) = quote value ++ squeeze .outside rest := by
  have hopen : ∀ text : Text, squeeze .outside ('"' :: text) = '"' :: squeeze .inside text :=
    fun text => rfl
  have hclose : squeeze .inside ('"' :: rest) = '"' :: squeeze .outside rest := rfl
  have hbody : squeeze .inside (value.flatMap escape ++ '"' :: rest) =
      value.flatMap escape ++ '"' :: squeeze .outside rest := by
    induction value with
    | nil => exact hclose
    | cons c value ih =>
      rw [List.flatMap_cons, List.append_assoc, squeeze_escape, ih, List.append_assoc]
  simp only [quote, List.cons_append, List.append_assoc, List.nil_append, hopen, hbody]

theorem squeeze_ofInt (n : Int) (rest : Text) :
    squeeze .outside (Text.ofInt n ++ rest) = Text.ofInt n ++ squeeze .outside rest := by
  -- digits and the minus sign are neither quotes nor space
  have hdigit : ∀ c : Char, c.isDigit = true → c ∉ ['"', ' ', '\n'] := by
    intro c hc hmem
    simp only [List.mem_cons, List.not_mem_nil, or_false] at hmem
    rcases hmem with rfl | rfl | rfl <;> exact absurd hc (by decide)
  have hnatural : ∀ (n : Nat) (rest : Text),
      squeeze .outside (Text.ofNat n ++ rest) = Text.ofNat n ++ squeeze .outside rest :=
    fun n rest => squeeze_marks _ (fun c hc => hdigit c ((Text.areDigits_ofNat n).2 c hc)) rest
  cases n with
  | ofNat n => exact hnatural n rest
  | negSucc n =>
    rw [Text.ofInt, List.cons_append, squeeze_mark (by decide), hnatural, List.cons_append]

mutual

/-- Less the space between its tokens, the indented form of a value is its compact form. -/
theorem squeeze_indentedAt (depth : Nat) (value : Json) (rest : Text) :
    squeeze .outside (indentedAt depth value ++ rest) = compact value ++ squeeze .outside rest := by
  -- a value is squeezed to its own compact form, whatever follows it
  match value with
  | .text value => rw [indentedAt, compact, squeeze_quote]
  | .integer n => rw [indentedAt, compact, squeeze_ofInt]
  | .array [] => exact squeeze_marks ['[', ']'] (by simp) rest
  | .array (item :: items) =>
    simp only [indentedAt, compact, List.cons_append, List.append_assoc, List.nil_append,
      squeeze_mark (c := '[') (by decide), squeeze_mark (c := ']') (by decide),
      squeeze_indentedItems (depth + 1) (item :: items), squeeze_newline]
  | .object [] => exact squeeze_marks ['{', '}'] (by simp) rest
  | .object (member :: members) =>
    simp only [indentedAt, compact, List.cons_append, List.append_assoc, List.nil_append,
      squeeze_mark (c := '{') (by decide), squeeze_mark (c := '}') (by decide),
      squeeze_indentedMembers (depth + 1) (member :: members), squeeze_newline]

theorem squeeze_indentedItems (depth : Nat) (items : List Json) (rest : Text) :
    squeeze .outside (indentedItems depth items ++ rest) =
      compactItems items ++ squeeze .outside rest := by
  match items with
  | [] => rfl
  | [item] =>
    rw [indentedItems, compactItems, List.append_assoc, squeeze_newline, squeeze_indentedAt]
  | item :: second :: others =>
    simp only [indentedItems, compactItems, List.cons_append, List.append_assoc, squeeze_newline,
      squeeze_indentedAt depth item, squeeze_mark (c := ',') (by decide),
      squeeze_indentedItems depth (second :: others)]

theorem squeeze_indentedMembers (depth : Nat) (members : List (Text × Json)) (rest : Text) :
    squeeze .outside (indentedMembers depth members ++ rest) =
      compactMembers members ++ squeeze .outside rest := by
  match members with
  | [] => rfl
  | [(key, value)] =>
    simp only [indentedMembers, compactMembers, List.cons_append, List.append_assoc,
      squeeze_newline, squeeze_quote, squeeze_mark (c := ':') (by decide),
      squeeze_space (c := ' ') (.inl rfl), squeeze_indentedAt depth value]
  | (key, value) :: second :: others =>
    simp only [indentedMembers, compactMembers, List.cons_append, List.append_assoc,
      squeeze_newline, squeeze_quote, squeeze_mark (c := ':') (by decide),
      squeeze_space (c := ' ') (.inl rfl), squeeze_indentedAt depth value,
      squeeze_mark (c := ',') (by decide), squeeze_indentedMembers depth (second :: others)]

end

theorem squeeze_indented (value : Json) : squeeze .outside (indented value) = compact value := by
  have hsqueeze := squeeze_indentedAt 0 value []
  rw [List.append_nil] at hsqueeze
  rw [indented, hsqueeze, squeeze, List.append_nil]

/-! ## Scanning the indented form -/

theorem scan?_newline (depth : Nat) (rest : Text) :
    scan? .between (newline depth ++ rest) = scan? .between rest := by
  have hfeed : next? .between '\n' = some ([], .between) := rfl
  have hspace : next? .between ' ' = some ([], .between) := rfl
  rw [newline, List.cons_append, scan?_of_silent hfeed]
  -- the depth only says how many spaces follow the line feed, and each of them is skipped
  generalize 4 * depth = width
  induction width with
  | zero => rfl
  | succ width ih => rw [List.replicate_succ, List.cons_append, scan?_of_silent hspace, ih]

theorem scan?_space (rest : Text) : scan? .between (' ' :: rest) = scan? .between rest :=
  scan?_of_silent rfl

theorem delimited_newline (depth : Nat) (rest : Text) : Delimited (newline depth ++ rest) :=
  delimited_cons rfl

mutual

/-- The indented form of a value is scanned to its tokens, whatever the depth. -/
theorem scan?_indentedAt (depth : Nat) (value : Json) {rest : Text} (h : Delimited rest) :
    scan? .between (indentedAt depth value ++ rest) =
      (scan? .between rest).map (tokens value ++ ·) := by
  match value with
  | .text value =>
    rw [indentedAt, scan?_quote]
    rfl
  | .integer n =>
    rw [indentedAt, scan?_ofInt n h]
    rfl
  | .array [] =>
    simp only [indentedAt, tokens, itemsTokens, List.cons_append, List.nil_append, scan?_openArray,
      scan?_closeArray, Option.map_map, Function.comp_def]
  | .array (item :: items) =>
    -- a line feed follows the last item, so a number ends there
    have hend : Delimited (newline depth ++ ']' :: rest) := delimited_newline depth _
    simp only [indentedAt, tokens, List.cons_append, List.append_assoc, List.nil_append,
      scan?_openArray, scan?_indentedItems (depth + 1) (item :: items) hend, scan?_newline,
      scan?_closeArray, Option.map_map, Function.comp_def]
  | .object [] =>
    simp only [indentedAt, tokens, membersTokens, List.cons_append, List.nil_append,
      scan?_openObject, scan?_closeObject, Option.map_map, Function.comp_def]
  | .object (member :: members) =>
    -- and behind the last member of an object, where a number may end too
    have hend : Delimited (newline depth ++ '}' :: rest) := delimited_newline depth _
    simp only [indentedAt, tokens, List.cons_append, List.append_assoc, List.nil_append,
      scan?_openObject, scan?_indentedMembers (depth + 1) (member :: members) hend, scan?_newline,
      scan?_closeObject, Option.map_map, Function.comp_def]

theorem scan?_indentedItems (depth : Nat) (items : List Json) {rest : Text} (h : Delimited rest) :
    scan? .between (indentedItems depth items ++ rest) =
      (scan? .between rest).map (itemsTokens items ++ ·) := by
  match items with
  | [] => simp [indentedItems, itemsTokens]
  | [item] =>
    rw [indentedItems, itemsTokens, List.append_assoc, scan?_newline, scan?_indentedAt depth item h]
  | item :: second :: others =>
    -- a comma follows the item, so a number ends there as well
    have hcomma : Delimited (',' :: (indentedItems depth (second :: others) ++ rest)) :=
      delimited_cons rfl
    simp only [indentedItems, itemsTokens, List.append_assoc, List.cons_append, scan?_newline,
      scan?_indentedAt depth item hcomma, scan?_comma,
      scan?_indentedItems depth (second :: others) h, Option.map_map, Function.comp_def]

theorem scan?_indentedMembers (depth : Nat) (members : List (Text × Json)) {rest : Text}
    (h : Delimited rest) :
    scan? .between (indentedMembers depth members ++ rest) =
      (scan? .between rest).map (membersTokens members ++ ·) := by
  match members with
  | [] => simp [indentedMembers, membersTokens]
  | [(key, value)] =>
    simp only [indentedMembers, membersTokens, List.append_assoc, List.cons_append, scan?_newline,
      scan?_quote, scan?_colon, scan?_space, scan?_indentedAt depth value h, Option.map_map,
      Function.comp_def]
  | (key, value) :: second :: others =>
    have hcomma : Delimited (',' :: (indentedMembers depth (second :: others) ++ rest)) :=
      delimited_cons rfl
    simp only [indentedMembers, membersTokens, List.append_assoc, List.cons_append, scan?_newline,
      scan?_quote, scan?_colon, scan?_space, scan?_indentedAt depth value hcomma, scan?_comma,
      scan?_indentedMembers depth (second :: others) h, Option.map_map, Function.comp_def]

end

theorem scan?_indented_eq (value : Json) : scan? .between (indented value) = some (tokens value) :=
  scan?_of_append (scan?_indentedAt 0 value)

/-- Reading takes indented printing back. -/
theorem read?_indented (value : Json) : read? (indented value) = some value :=
  read?_of_scan? (scan?_indented_eq value)

end TutorialPages.Json
