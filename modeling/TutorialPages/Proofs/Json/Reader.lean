import TutorialPages.Proofs.Json.Token

/-!
# Reading JSON

The reader takes the tokens of a text one after the other. Its state is the place that it has come
to, and for each array and object around this place a frame with what has been read of it. Reading
the compact form of a value gives the value, so nothing of a value is lost in its compact form.
-/

namespace TutorialPages.Json

/-! ## The reader -/

/-- An array or object that a place lies in. -/
inductive Frame where
  /-- An array with the items that are complete. -/
  | array (items : List Json)
  /-- An object with the members that are complete, and the key of the one that is not. -/
  | object (members : List (Text × Json)) (key : Text)

/-- What may come next. -/
inductive Place where
  /-- A value. -/
  | value
  /-- The first item of an array, or its end. -/
  | firstItem
  /-- The first key of an object, or its end. -/
  | firstKey
  /-- A further key of an object with these members. -/
  | key (members : List (Text × Json))
  /-- The colon behind a key. -/
  | colon (members : List (Text × Json)) (key : Text)
  /-- What follows a value. -/
  | behind (value : Json)

abbrev State := List Frame × Place

/-- Begins a value. -/
def begin (frames : List Frame) : Token → Option State
  | .text value => some (frames, .behind (.text value))
  | .integer value => some (frames, .behind (.integer value))
  | .openArray => some (frames, .firstItem)
  | .openObject => some (frames, .firstKey)
  | _ => none

/-- Takes one token. -/
def step? : State → Token → Option State
  | (frames, .value), token => begin frames token
  | (frames, .firstItem), .closeArray => some (frames, .behind (.array []))
  | (frames, .firstItem), token => begin (.array [] :: frames) token
  | (frames, .firstKey), .closeObject => some (frames, .behind (.object []))
  | (frames, .firstKey), .text key => some (frames, .colon [] key)
  | (frames, .key members), .text key => some (frames, .colon members key)
  | (frames, .colon members key), .colon => some (.object members key :: frames, .value)
  | (.array items :: frames, .behind value), .comma =>
    some (.array (items ++ [value]) :: frames, .value)
  | (.array items :: frames, .behind value), .closeArray =>
    some (frames, .behind (.array (items ++ [value])))
  | (.object members key :: frames, .behind value), .comma =>
    some (frames, .key (members ++ [(key, value)]))
  | (.object members key :: frames, .behind value), .closeObject =>
    some (frames, .behind (.object (members ++ [(key, value)])))
  | _, _ => none

/-- Takes tokens one after the other. -/
def run? (state : State) (tokens : List Token) : Option State :=
  tokens.foldlM step? state

/-- The value that tokens are written for. -/
def parse? (tokens : List Token) : Option Json :=
  match run? ([], .value) tokens with
  | some ([], .behind value) => some value
  | _ => none

/-- The value that a JSON text stands for. -/
def read? (text : Text) : Option Json :=
  (scan? .between text).bind parse?

/-! ## Tokens of a value -/

theorem run?_cons (state : State) (token : Token) (rest : List Token) :
    run? state (token :: rest) = (step? state token).bind fun next => run? next rest :=
  List.foldlM_cons

theorem run?_append {state next : State} {first : List Token} (h : run? state first = some next)
    (second : List Token) : run? state (first ++ second) = run? next second := by
  rw [run?] at h
  rw [run?, List.foldlM_append, h]
  rfl

/-- Where the first item of an array may stand, a value is taken as in an array without items. -/
theorem run?_tokens_firstItem (value : Json) (rest : List Token) (frames : List Frame) :
    run? (frames, .firstItem) (tokens value ++ rest) =
      run? (.array [] :: frames, .value) (tokens value ++ rest) := by
  -- whichever token a value begins with, both modes go on with it alike
  cases value <;> rfl

theorem run?_itemsTokens_firstItem (item : Json) (items : List Json) (rest : List Token)
    (frames : List Frame) :
    run? (frames, .firstItem) (itemsTokens (item :: items) ++ rest) =
      run? (.array [] :: frames, .value) (itemsTokens (item :: items) ++ rest) := by
  cases items with
  | nil => rw [itemsTokens, run?_tokens_firstItem]
  | cons second others => rw [itemsTokens_cons_cons, List.append_assoc, run?_tokens_firstItem]

/-- Where the first key of an object may stand, it is taken as in an object without members. -/
theorem run?_membersTokens_firstKey (member : Text × Json) (members : List (Text × Json))
    (rest : List Token) (frames : List Frame) :
    run? (frames, .firstKey) (membersTokens (member :: members) ++ rest) =
      run? (frames, .key []) (membersTokens (member :: members) ++ rest) := by
  cases members with
  | nil => rfl
  | cons second others =>
    rw [membersTokens_cons_cons]
    rfl

mutual

/-- The tokens of a value lead behind it, whatever it stands in. -/
theorem run?_tokens (value : Json) (frames : List Frame) :
    run? (frames, .value) (tokens value) = some (frames, .behind value) := by
  match value with
  | .text value => rfl
  | .integer value => rfl
  | .array [] => rfl
  -- the opening bracket leads to where the first item may stand
  | .array (item :: rest) =>
    have hopen : step? (frames, .value) .openArray = some (frames, .firstItem) := rfl
    rw [tokens, List.cons_append, run?_cons, hopen, Option.bind_some, run?_itemsTokens_firstItem,
      run?_itemsTokens (item :: rest) [] frames (List.cons_ne_nil _ _), List.nil_append]
  | .object [] => rfl
  | .object (member :: rest) =>
    have hopen : step? (frames, .value) .openObject = some (frames, .firstKey) := rfl
    rw [tokens, List.cons_append, run?_cons, hopen, Option.bind_some, run?_membersTokens_firstKey,
      run?_membersTokens (member :: rest) [] frames (List.cons_ne_nil _ _), List.nil_append]

/-- Behind the items of an array that are complete, the tokens of the others lead to its end. -/
theorem run?_itemsTokens (items done : List Json) (frames : List Frame) (hne : items ≠ []) :
    run? (.array done :: frames, .value) (itemsTokens items ++ [.closeArray]) =
      some (frames, .behind (.array (done ++ items))) := by
  match items, hne with
  -- no comma follows the last item
  | [item], _ =>
    rw [itemsTokens, run?_append (run?_tokens item _)]
    rfl
  -- the first item joins those that are complete, and one item less is left
  | item :: second :: others, _ =>
    have hcomma : step? (.array done :: frames, .behind item) .comma =
        some (.array (done ++ [item]) :: frames, .value) := rfl
    rw [itemsTokens_cons_cons, List.append_assoc, run?_append (run?_tokens item _),
      List.cons_append, run?_cons, hcomma, Option.bind_some,
      run?_itemsTokens (second :: others) (done ++ [item]) frames (List.cons_ne_nil _ _),
      List.append_assoc, List.singleton_append]

/-- Behind the members of an object that are complete, the tokens of the others lead to its end. -/
theorem run?_membersTokens (members done : List (Text × Json)) (frames : List Frame)
    (hne : members ≠ []) :
    run? (frames, .key done) (membersTokens members ++ [.closeObject]) =
      some (frames, .behind (.object (done ++ members))) := by
  match members, hne with
  -- a key and a colon come before each value, and no comma follows the last member
  | [(key, value)], _ =>
    have hkey : step? (frames, .key done) (.text key) = some (frames, .colon done key) := rfl
    have hcolon : step? (frames, .colon done key) .colon =
        some (.object done key :: frames, .value) := rfl
    rw [membersTokens, List.cons_append, run?_cons, hkey, Option.bind_some, List.cons_append,
      run?_cons, hcolon, Option.bind_some, run?_append (run?_tokens value _)]
    rfl
  -- the first member joins those that are complete, and one member less is left
  | (key, value) :: second :: others, _ =>
    have hkey : step? (frames, .key done) (.text key) = some (frames, .colon done key) := rfl
    have hcolon : step? (frames, .colon done key) .colon =
        some (.object done key :: frames, .value) := rfl
    have hcomma : step? (.object done key :: frames, .behind value) .comma =
        some (frames, .key (done ++ [(key, value)])) := rfl
    rw [membersTokens_cons_cons, List.cons_append, run?_cons, hkey, Option.bind_some,
      List.cons_append, run?_cons, hcolon, Option.bind_some, List.append_assoc,
      run?_append (run?_tokens value _), List.cons_append, run?_cons, hcomma, Option.bind_some,
      run?_membersTokens (second :: others) (done ++ [(key, value)]) frames (List.cons_ne_nil _ _),
      List.append_assoc, List.singleton_append]

end

/-! ## Texts of a value -/

theorem parse?_tokens (value : Json) : parse? (tokens value) = some value := by
  rw [parse?, run?_tokens value []]

/-- A text that is scanned to the tokens of a value is read as this value. -/
theorem read?_of_scan? {text : Text} {value : Json}
    (h : scan? .between text = some (tokens value)) : read? text = some value := by
  rw [read?, h, Option.bind_some, parse?_tokens]

/-- Reading takes printing back. -/
theorem read?_compact (value : Json) : read? (compact value) = some value :=
  read?_of_scan? (scan?_compact_eq value)

example : read? "[ -12,\n\"\\u0041\\n\" ]".toList =
    some (.array [.integer (-12), .text ['A', '\n']]) := by rfl

end TutorialPages.Json
