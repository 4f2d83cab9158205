import TutorialPages.Json.Printer
import TutorialPages.Proofs.Text.Integer

/-!
# Scanning JSON

A JSON text is a row of tokens with blank space between them. The scanner takes one character after
the other, and its mode says what it is in the middle of. It scans JSON as it is commonly defined,
as far as there are values for it: there are no fractions, no exponents and no literal names, and a
`\u` escape must be a character by itself.

The compact form of a value is scanned to the tokens of the value, whatever follows it, as long as
no digit follows.
-/

namespace TutorialPages.Json

/-! ## Tokens -/

inductive Token where
  | openArray
  | closeArray
  | openObject
  | closeObject
  | comma
  | colon
  | text (value : Text)
  | integer (value : Int)
  deriving DecidableEq, Repr

mutual

/-- The tokens that a value is written with. -/
def tokens : Json → List Token
  | .text value => [.text value]
  | .integer value => [.integer value]
  | .array items => .openArray :: itemsTokens items ++ [.closeArray]
  | .object members => .openObject :: membersTokens members ++ [.closeObject]

def itemsTokens : List Json → List Token
  | [] => []
  | [item] => tokens item
  | item :: rest => tokens item ++ .comma :: itemsTokens rest

def membersTokens : List (Text × Json) → List Token
  | [] => []
  | [(key, value)] => .text key :: .colon :: tokens value
  | (key, value) :: rest => .text key :: .colon :: tokens value ++ .comma :: membersTokens rest

end

theorem itemsTokens_cons_cons (item second : Json) (others : List Json) :
    itemsTokens (item :: second :: others) =
      tokens item ++ .comma :: itemsTokens (second :: others) := by
  simp only [itemsTokens]

theorem membersTokens_cons_cons (key : Text) (value : Json) (second : Text × Json)
    (others : List (Text × Json)) :
    membersTokens ((key, value) :: second :: others) =
      .text key :: .colon :: (tokens value ++ .comma :: membersTokens (second :: others)) := by
  simp only [membersTokens, List.cons_append]

/-! ## The scanner -/

/-- What the scanner is in the middle of. -/
inductive Mode where
  /-- Between two tokens. -/
  | between
  /-- In a text, of which this much has been read. -/
  | inText (read : Text)
  /-- Behind a backslash in a text. -/
  | escaped (read : Text)
  /-- Behind some of the four digits of a `\u` escape. -/
  | unit (read : Text) (digits value : Nat)
  /-- Behind a minus sign. -/
  | minus
  /-- Behind a zero, which no digit may follow. -/
  | zero (negative : Bool)
  /-- Behind the digits of a number. -/
  | digits (negative : Bool) (value : Nat)
  deriving DecidableEq, Repr

/-- What a single letter behind a backslash stands for. -/
def unescape? : Char → Option Char
  | '"' => some '"'
  | '\\' => some '\\'
  | '/' => some '/'
  | 'b' => some (Char.ofNat 8)
  | 'f' => some (Char.ofNat 12)
  | 'n' => some '\n'
  | 'r' => some '\r'
  | 't' => some '\t'
  | _ => none

/-- The value of a hexadecimal digit in either case. -/
def hexValue? (c : Char) : Option Nat :=
  if c.isDigit then some (c.toNat - 48)
  else if 97 ≤ c.toNat ∧ c.toNat ≤ 102 then some (c.toNat - 87)
  else if 65 ≤ c.toNat ∧ c.toNat ≤ 70 then some (c.toNat - 55)
  else none

/-- The mode behind the first digit of a number. -/
def firstDigit? (negative : Bool) (c : Char) : Option Mode :=
  if c = '0' then some (.zero negative)
  else if c.isDigit then some (.digits negative (c.toNat - 48))
  else none

/-- The tokens that are complete with a character between two tokens, and the mode behind it. -/
def begin? (c : Char) : Option (List Token × Mode) :=
  match c with
  | ' ' | '\t' | '\n' | '\r' => some ([], .between)
  | '[' => some ([.openArray], .between)
  | ']' => some ([.closeArray], .between)
  | '{' => some ([.openObject], .between)
  | '}' => some ([.closeObject], .between)
  | ',' => some ([.comma], .between)
  | ':' => some ([.colon], .between)
  | '"' => some ([], .inText [])
  | '-' => some ([], .minus)
  | c => (firstDigit? false c).map fun mode => ([], mode)

/-- The token of a number. -/
def numeral (negative : Bool) (value : Nat) : Token :=
  .integer (if negative then -(value : Int) else value)

/-- The tokens that are complete with a character, and the mode behind it. -/
def next? : Mode → Char → Option (List Token × Mode)
  | .between, c => begin? c
  | .inText read, c =>
    if c = '"' then some ([.text read], .between)
    else if c = '\\' then some ([], .escaped read)
    else if c.toNat < 32 then none
    else some ([], .inText (read ++ [c]))
  | .escaped read, c =>
    if c = 'u' then some ([], .unit read 0 0)
    else (unescape? c).map fun d => ([], .inText (read ++ [d]))
  | .unit read digits value, c => do
    let value := 16 * value + (← hexValue? c)
    if digits < 3 then some ([], .unit read (digits + 1) value)
    else if value.isValidChar then some ([], .inText (read ++ [Char.ofNat value]))
    else none
  | .minus, c => (firstDigit? true c).map fun mode => ([], mode)
  | .zero negative, c =>
    if c.isDigit then none
    else (begin? c).map fun (tokens, mode) => (numeral negative 0 :: tokens, mode)
  | .digits negative value, c =>
    if c.isDigit then some ([], .digits negative (10 * value + (c.toNat - 48)))
    else (begin? c).map fun (tokens, mode) => (numeral negative value :: tokens, mode)

/-- The tokens that are complete with the end of the text. -/
def end? : Mode → Option (List Token)
  | .between => some []
  | .zero negative => some [numeral negative 0]
  | .digits negative value => some [numeral negative value]
  | _ => none

/-- The tokens of a text, when the scanner starts in the given mode. -/
def scan? (mode : Mode) : Text → Option (List Token)
  | [] => end? mode
  | c :: rest => (next? mode c).bind fun (tokens, mode) => (scan? mode rest).map (tokens ++ ·)

variable {mode mode' : Mode} {c : Char} {rest : Text}

/-! ## One character -/

/-- A character that completes no token changes the mode alone. -/
theorem scan?_of_silent (h : next? mode c = some ([], mode')) :
    scan? mode (c :: rest) = scan? mode' rest := by
  simp [scan?, h]

/-- A character that completes a token puts it in front. -/
theorem scan?_of_token {token : Token} (h : next? mode c = some ([token], mode')) :
    scan? mode (c :: rest) = (scan? mode' rest).map (token :: ·) := by
  simp [scan?, h]

/-! ## Texts -/

/-- A hexadecimal digit is read back. -/
theorem hexValue?_hexDigit : ∀ n < 16, hexValue? (hexDigit n) = some n := by
  decide

theorem scan?_short_escape (read : Text) {letter : Char} (hletter : letter ≠ 'u')
    (h : unescape? letter = some c) (rest : Text) :
    scan? (.inText read) ('\\' :: letter :: rest) = scan? (.inText (read ++ [c])) rest := by
  have hescaped : next? (.inText read) '\\' = some ([], .escaped read) := rfl
  have hnext : next? (.escaped read) letter = some ([], .inText (read ++ [c])) := by
    rw [next?, if_neg hletter, h, Option.map_some]
  rw [scan?_of_silent hescaped, scan?_of_silent hnext]

/-- The four digits are those of the character. -/
theorem scan?_unit_escape (read : Text) (hc : c.toNat < 256) (rest : Text) :
    scan? (.inText read) ('\\' :: 'u' :: '0' :: '0' :: hexDigit (c.toNat / 16) ::
      hexDigit (c.toNat % 16) :: rest) = scan? (.inText (read ++ [c])) rest := by
  -- two zeros and two digits make up the number, a character of less than 256
  have hescaped : next? (.inText read) '\\' = some ([], .escaped read) := rfl
  have hunit : next? (.escaped read) 'u' = some ([], .unit read 0 0) := rfl
  have hzero : next? (.unit read 0 0) '0' = some ([], .unit read 1 0) := rfl
  have hzero' : next? (.unit read 1 0) '0' = some ([], .unit read 2 0) := rfl
  have hhigh : next? (.unit read 2 0) (hexDigit (c.toNat / 16)) =
      some ([], .unit read 3 (c.toNat / 16)) := by
    simp [next?, hexValue?_hexDigit (c.toNat / 16) (by omega)]
  have hlow : next? (.unit read 3 (c.toNat / 16)) (hexDigit (c.toNat % 16)) =
      some ([], .inText (read ++ [c])) := by
    -- the number that has been read is that of the character, and its low digit completes it
    have hvalue : 16 * (c.toNat / 16) + c.toNat % 16 = c.toNat := Nat.div_add_mod _ _
    have hvalid : c.toNat.isValidChar := .inl (by omega)
    simp only [next?, hexValue?_hexDigit (c.toNat % 16) (by omega), Option.bind_eq_bind,
      Option.bind_some, hvalue, Nat.lt_irrefl, if_pos hvalid, ↓reduceIte, Char.ofNat_toNat]
  rw [scan?_of_silent hescaped, scan?_of_silent hunit, scan?_of_silent hzero,
    scan?_of_silent hzero', scan?_of_silent hhigh, scan?_of_silent hlow]

/-- A character has a letter of its own, or is written by its number, or stands for itself. -/
theorem escape_cases (c : Char) :
    (∃ letter, letter ≠ 'u' ∧ unescape? letter = some c ∧ escape c = ['\\', letter]) ∨
    (c.toNat < 32 ∧ escape c = ['\\', 'u', '0', '0', hexDigit (c.toNat / 16),
      hexDigit (c.toNat % 16)]) ∨
    (c ≠ '"' ∧ c ≠ '\\' ∧ ¬c.toNat < 32 ∧ escape c = [c]) := by
  by_cases hshort : c ∈ ['"', '\\', '\n', '\r', '\t', Char.ofNat 8, Char.ofNat 12]
  · left
    simp only [List.mem_cons, List.not_mem_nil, or_false] at hshort
    rcases hshort with rfl | rfl | rfl | rfl | rfl | rfl | rfl
    · exact ⟨'"', by decide, rfl, rfl⟩
    · exact ⟨'\\', by decide, rfl, rfl⟩
    · exact ⟨'n', by decide, rfl, rfl⟩
    · exact ⟨'r', by decide, rfl, rfl⟩
    · exact ⟨'t', by decide, rfl, rfl⟩
    · exact ⟨'b', by decide, rfl, rfl⟩
    · exact ⟨'f', by decide, rfl, rfl⟩
  · right
    simp only [List.mem_cons, List.not_mem_nil, or_false, not_or] at hshort
    obtain ⟨hquote, hbackslash, hfeed, hreturn, htab, hbackspace, hformFeed⟩ := hshort
    -- the printer asks for the numbers of the last two
    have hbackspace' : c.toNat ≠ 8 := fun h => hbackspace (by rw [← h, Char.ofNat_toNat])
    have hformFeed' : c.toNat ≠ 12 := fun h => hformFeed (by rw [← h, Char.ofNat_toNat])
    have hescape : escape c = if c.toNat < 32 then ['\\', 'u', '0', '0',
        hexDigit (c.toNat / 16), hexDigit (c.toNat % 16)] else [c] := by
      rw [escape, if_neg hquote, if_neg hbackslash, if_neg hfeed, if_neg hreturn, if_neg htab,
        if_neg hbackspace', if_neg hformFeed']
    by_cases hcontrol : c.toNat < 32
    · exact .inl ⟨hcontrol, by rw [hescape, if_pos hcontrol]⟩
    · exact .inr ⟨hquote, hbackslash, hcontrol, by rw [hescape, if_neg hcontrol]⟩

theorem scan?_escape (read : Text) (c : Char) (rest : Text) :
    scan? (.inText read) (escape c ++ rest) = scan? (.inText (read ++ [c])) rest := by
  rcases escape_cases c with ⟨letter, hletter, hc, hescape⟩ | ⟨hcontrol, hescape⟩ |
    ⟨hquote, hbackslash, hcontrol, hescape⟩
  -- a letter of its own, then four digits, then the character itself
  · rw [hescape]
    exact scan?_short_escape read hletter hc rest
  · rw [hescape]
    exact scan?_unit_escape read (by omega) rest
  · have hplain : next? (.inText read) c = some ([], .inText (read ++ [c])) := by
      rw [next?, if_neg hquote, if_neg hbackslash, if_neg hcontrol]
    rw [hescape]
    exact scan?_of_silent hplain

/-- A quoted text is one token. -/
theorem scan?_quote (value rest : Text) :
    scan? .between (quote value ++ rest) = (scan? .between rest).map (.text value :: ·) := by
  have hquote : ∀ read : Text, next? (.inText read) '"' = some ([.text read], .between) :=
    fun read => rfl
  have hbody : ∀ read : Text, scan? (.inText read) (value.flatMap escape ++ '"' :: rest) =
      (scan? .between rest).map (.text (read ++ value) :: ·) := by
    -- the text that has been read grows while the rest of the value is scanned
    induction value with
    | nil =>
      intro read
      rw [List.append_nil]
      exact scan?_of_token (hquote read)
    | cons c value ih =>
      intro read
      rw [List.flatMap_cons, List.append_assoc, scan?_escape, ih, List.append_assoc,
        List.singleton_append]
  have hopen : next? .between '"' = some ([], .inText []) := rfl
  rw [quote, List.cons_append, List.cons_append, List.append_assoc, scan?_of_silent hopen]
  exact hbody []

/-! ## Numbers -/

/-- No digit comes next, so that a number ends here. -/
def Delimited (rest : Text) : Prop :=
  ∀ c ∈ rest.head?, c.isDigit = false

theorem delimited_nil : Delimited [] := by
  simp [Delimited]

theorem delimited_cons (h : c.isDigit = false) : Delimited (c :: rest) := by
  simpa [Delimited] using h

/-- The mode behind all digits of a number. -/
def behindDigits (negative : Bool) (n : Nat) : Mode :=
  if n = 0 then .zero negative else .digits negative n

/-- A number is complete where no digit comes next. -/
theorem scan?_behindDigits (negative : Bool) (n : Nat) (h : Delimited rest) :
    scan? (behindDigits negative n) rest = (scan? .between rest).map (numeral negative n :: ·) := by
  cases rest with
  | nil =>
    unfold behindDigits
    split
    · next hzero =>
      subst hzero
      rfl
    · rfl
  -- the next character is taken as between two tokens
  | cons c rest =>
    have hdigit : c.isDigit = false := h c rfl
    have hnext : next? (behindDigits negative n) c =
        (begin? c).map fun (tokens, mode) => (numeral negative n :: tokens, mode) := by
      unfold behindDigits
      split
      · next hzero =>
        subst hzero
        simp [next?, hdigit]
      · simp [next?, hdigit]
    rw [scan?, hnext, scan?]
    cases hbegin : begin? c with
    | none => simp [next?, hbegin]
    | some begun => simp [next?, hbegin, Function.comp_def]

theorem firstDigit?_digitChar : ∀ negative, ∀ n < 10,
    firstDigit? negative (Nat.digitChar n) = some (behindDigits negative n) := by
  decide

/-- Where the first digit of a number may stand, all its digits are read. -/
theorem scan?_ofNat {negative : Bool} (hfirst : ∀ c, c.isDigit = true →
      next? mode c = (firstDigit? negative c).map fun mode => ([], mode)) (n : Nat) (rest : Text) :
    scan? mode (Text.ofNat n ++ rest) = scan? (behindDigits negative n) rest := by
  -- the last digit is split off, since the printer gives the digits of `n / 10` before it
  induction n using Nat.strongRecOn generalizing rest with
  | ind n ih =>
    rcases Nat.lt_or_ge n 10 with hsmall | hlarge
    · have hdigit : (Nat.digitChar n).isDigit = true := by simpa using hsmall
      have hnext : next? mode (Nat.digitChar n) = some ([], behindDigits negative n) := by
        rw [hfirst _ hdigit, firstDigit?_digitChar negative n hsmall, Option.map_some]
      rw [Text.ofNat, Nat.toDigits_of_lt_base hsmall, List.singleton_append,
        scan?_of_silent hnext]
    -- the digits of `n / 10` come before the last one, and none of them is a leading zero
    · have hlast : n % 10 < 10 := Nat.mod_lt n (by decide)
      have hdigit : (Nat.digitChar (n % 10)).isDigit = true := by simpa using hlast
      have hfront : behindDigits negative (n / 10) = .digits negative (n / 10) :=
        if_neg (by omega)
      have hback : behindDigits negative n = .digits negative n := if_neg (by omega)
      have hnext : next? (.digits negative (n / 10)) (Nat.digitChar (n % 10)) =
          some ([], .digits negative n) := by
        rw [next?, if_pos hdigit, Nat.toNat_digitChar_sub_48_of_lt_ten hlast, Nat.div_add_mod]
      rw [Text.ofNat, Nat.toDigits_of_base_le (by decide) hlarge, List.append_assoc,
        List.singleton_append, ← Text.ofNat, ih (n / 10) (by omega), hfront,
        scan?_of_silent hnext, hback]

theorem begin?_of_isDigit (h : c.isDigit = true) :
    begin? c = (firstDigit? false c).map fun mode => ([], mode) := by
  unfold begin?
  split
  all_goals first
    | rfl
    | exact absurd h (by decide)

/-- A number in decimal is one token where no digit comes next. -/
theorem scan?_ofInt (n : Int) (h : Delimited rest) :
    scan? .between (Text.ofInt n ++ rest) = (scan? .between rest).map (.integer n :: ·) := by
  cases n with
  | ofNat n =>
    have hfirst : ∀ c, c.isDigit = true →
        next? .between c = (firstDigit? false c).map fun mode => ([], mode) :=
      fun c hc => begin?_of_isDigit hc
    rw [Text.ofInt, scan?_ofNat hfirst, scan?_behindDigits _ _ h]
    rfl
  | negSucc n =>
    -- the minus sign stands before the digits of the number without its sign
    have hminus : next? .between '-' = some ([], .minus) := rfl
    have hvalue : numeral true (n + 1) = .integer (.negSucc n) := by
      rw [numeral, if_pos rfl, Int.negSucc_eq]
      rfl
    rw [Text.ofInt, List.cons_append, scan?_of_silent hminus, scan?_ofNat (fun c _ => rfl),
      scan?_behindDigits _ _ h, hvalue]

/-! ## Values -/

section Punctuation

variable (rest : Text)

theorem scan?_comma : scan? .between (',' :: rest) = (scan? .between rest).map (.comma :: ·) :=
  scan?_of_token rfl

theorem scan?_colon : scan? .between (':' :: rest) = (scan? .between rest).map (.colon :: ·) :=
  scan?_of_token rfl

theorem scan?_openArray :
    scan? .between ('[' :: rest) = (scan? .between rest).map (.openArray :: ·) :=
  scan?_of_token rfl

theorem scan?_closeArray :
    scan? .between (']' :: rest) = (scan? .between rest).map (.closeArray :: ·) :=
  scan?_of_token rfl

theorem scan?_openObject :
    scan? .between ('{' :: rest) = (scan? .between rest).map (.openObject :: ·) :=
  scan?_of_token rfl

theorem scan?_closeObject :
    scan? .between ('}' :: rest) = (scan? .between rest).map (.closeObject :: ·) :=
  scan?_of_token rfl

end Punctuation

mutual

/-- The compact form of a value is scanned to its tokens. -/
theorem scan?_compact (value : Json) {rest : Text} (h : Delimited rest) :
    scan? .between (compact value ++ rest) =
      (scan? .between rest).map (tokens value ++ ·) := by
  match value with
  | .text value =>
    rw [compact, scan?_quote]
    rfl
  | .integer value =>
    rw [compact, scan?_ofInt value h]
    rfl
  | .array items =>
    -- what follows the items is a bracket, so a number in the last of them ends
    have hclose : Delimited (']' :: rest) := delimited_cons rfl
    simp only [compact, tokens, List.cons_append, List.append_assoc, List.nil_append,
      scan?_openArray, scan?_compactItems items hclose, scan?_closeArray, Option.map_map,
      Function.comp_def]
  | .object members =>
    have hclose : Delimited ('}' :: rest) := delimited_cons rfl
    simp only [compact, tokens, List.cons_append, List.append_assoc, List.nil_append,
      scan?_openObject, scan?_compactMembers members hclose, scan?_closeObject, Option.map_map,
      Function.comp_def]

theorem scan?_compactItems (items : List Json) {rest : Text} (h : Delimited rest) :
    scan? .between (compactItems items ++ rest) =
      (scan? .between rest).map (itemsTokens items ++ ·) := by
  match items with
  | [] => simp [compactItems, itemsTokens]
  | [item] => rw [compactItems, itemsTokens, scan?_compact item h]
  | item :: second :: others =>
    have hcomma : Delimited (',' :: (compactItems (second :: others) ++ rest)) := delimited_cons rfl
    simp only [compactItems, itemsTokens, List.append_assoc, List.cons_append,
      scan?_compact item hcomma, scan?_comma, scan?_compactItems (second :: others) h,
      Option.map_map, Function.comp_def]

theorem scan?_compactMembers (members : List (Text × Json)) {rest : Text} (h : Delimited rest) :
    scan? .between (compactMembers members ++ rest) =
      (scan? .between rest).map (membersTokens members ++ ·) := by
  match members with
  | [] => simp [compactMembers, membersTokens]
  | [(key, value)] =>
    simp only [compactMembers, membersTokens, List.append_assoc, List.cons_append, scan?_quote,
      scan?_colon, scan?_compact value h, Option.map_map, Function.comp_def]
  | (key, value) :: second :: others =>
    have hcomma : Delimited (',' :: (compactMembers (second :: others) ++ rest)) :=
      delimited_cons rfl
    simp only [compactMembers, membersTokens, List.append_assoc, List.cons_append, scan?_quote,
      scan?_colon, scan?_compact value hcomma, scan?_comma,
      scan?_compactMembers (second :: others) h, Option.map_map, Function.comp_def]

end

/-- A text that is scanned to some tokens whatever follows is scanned to them by itself. -/
theorem scan?_of_append {text : Text} {scanned : List Token}
    (h : ∀ {rest : Text}, Delimited rest →
      scan? .between (text ++ rest) = (scan? .between rest).map (scanned ++ ·)) :
    scan? .between text = some scanned := by
  have hend : scan? .between [] = some [] := rfl
  have hscan := h delimited_nil
  rw [List.append_nil, hend, Option.map_some, List.append_nil] at hscan
  exact hscan

theorem scan?_compact_eq (value : Json) : scan? .between (compact value) = some (tokens value) :=
  scan?_of_append (scan?_compact value)

end TutorialPages.Json
