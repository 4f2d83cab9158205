import TutorialPages.HeadingAnchor

/-!
# The text of a heading in a syntax tree

A reader of Markdown may hand over a syntax tree instead of the parts of a heading. The text of a
heading is gathered on a walk through the tree. Main statement: the walk adds the values of the
texts, the codes and the formulas below the heading, whatever they stand in, in the order of the
document; these are the values of the heading's parts.
-/

namespace TutorialPages

/-- A node of a syntax tree, as far as anchors depend on it. -/
inductive Node where
  /-- A heading. -/
  | heading (depth : Nat) (children : List Node)
  /-- Text. -/
  | text (value : Text)
  /-- Code inside a line. -/
  | code (value : Text)
  /-- A formula inside a line. -/
  | math (value : Text)
  /-- Any other node. It may hold nodes, whatever else it says. -/
  | other (children : List Node)
  deriving Inhabited

namespace Node

/-- The nodes that a node holds. -/
def children : Node → List Node
  | .heading _ children | .other children => children
  | .text _ | .code _ | .math _ => []

mutual

/-- Appends the text of a node to what has been gathered. -/
def gather (gathered : Text) : Node → Text
  | .text value | .code value | .math value => gathered ++ value
  | .heading _ children | .other children => gatherAll gathered children

/-- Appends the texts of nodes to what has been gathered. -/
def gatherAll (gathered : Text) : List Node → Text
  | [] => gathered
  | node :: rest => gatherAll (gather gathered node) rest

end

/-! ## The nodes below -/

mutual

/-- A node and the nodes below it, in the order of the document. -/
def withDescendants : Node → List Node
  | .heading depth children => .heading depth children :: descendants children
  | .other children => .other children :: descendants children
  | .text value => [.text value]
  | .code value => [.code value]
  | .math value => [.math value]

/-- Nodes and the nodes below them, in the order of the document. -/
def descendants : List Node → List Node
  | [] => []
  | node :: rest => withDescendants node ++ descendants rest

end

/-- What a node says by itself. -/
def value? : Node → Option Text
  | .text value | .code value | .math value => some value
  | .heading .. | .other _ => none

/-- What is said at any depth, in the order of the document. -/
def said (nodes : List Node) : Text :=
  .join ((descendants nodes).filterMap value?)

@[simp]
theorem said_nil : said [] = [] := rfl

theorem said_cons (node : Node) (rest : List Node) :
    said (node :: rest) = .join ((withDescendants node).filterMap value?) ++ said rest := by
  simp only [said, descendants, Text.join, List.filterMap_append, List.flatten_append]

mutual

theorem gather_eq (gathered : Text) : (node : Node) →
    gather gathered node = gathered ++ .join ((withDescendants node).filterMap value?)
  | .text value | .code value | .math value => by
    simp [gather, withDescendants, value?, Text.join]
  | .heading depth children | .other children => by
    -- such a node says nothing itself, so only what stands below it is added
    rw [gather, gatherAll_eq gathered children]
    rfl

/-- Whatever texts, codes and formulas stand in, their values are gathered in order. -/
theorem gatherAll_eq (gathered : Text) :
    (nodes : List Node) → gatherAll gathered nodes = gathered ++ said nodes
  | [] => by rw [gatherAll, said_nil, List.append_nil]
  | node :: rest => by
    rw [gatherAll, gatherAll_eq _ rest, gather_eq gathered node, said_cons, List.append_assoc]

end

/-! ## Parts of a heading -/

mutual

/-- A node as a part of a heading's text. -/
def phrase : Node → Phrase
  | .text value => .text value
  | .code value => .code value
  | .math value => .math value
  | .heading _ children | .other children => .group (phrases children)

/-- Nodes as parts of a heading's text. -/
def phrases : List Node → List Phrase
  | [] => []
  | node :: rest => phrase node :: phrases rest

end

mutual

theorem value_phrase :
    (node : Node) → node.phrase.value = .join ((withDescendants node).filterMap value?)
  | .text value | .code value | .math value => by
    simp [phrase, Phrase.value, withDescendants, value?, Text.join]
  | .heading depth children | .other children => by
    rw [phrase, Phrase.value, values_phrases children]
    rfl

theorem values_phrases : (nodes : List Node) → Phrase.values (phrases nodes) = said nodes
  | [] => rfl
  | node :: rest => by
    rw [phrases, Phrase.values, value_phrase node, values_phrases rest, said_cons]

end

mutual

/-- A part of a heading's text as a node. -/
def ofPhrase : Phrase → Node
  | .text value => .text value
  | .code value => .code value
  | .math value => .math value
  | .group children => .other (ofPhrases children)

/-- Parts of a heading's text as nodes. -/
def ofPhrases : List Phrase → List Node
  | [] => []
  | phrase :: rest => ofPhrase phrase :: ofPhrases rest

end

mutual

theorem phrase_ofPhrase : (phrase : Phrase) → (ofPhrase phrase).phrase = phrase
  | .text _ | .code _ | .math _ => rfl
  | .group children => by rw [ofPhrase, phrase, phrases_ofPhrases children]

theorem phrases_ofPhrases : (parts : List Phrase) → phrases (ofPhrases parts) = parts
  | [] => rfl
  | phrase :: rest => by rw [ofPhrases, phrases, phrase_ofPhrase phrase, phrases_ofPhrases rest]

end

/-- The heading that a document begins with. -/
def leadingHeading? (root : Node) : Option LeadingHeading :=
  match root.children.head? with
  | some (.heading depth children) => some ⟨depth, phrases children⟩
  | _ => none

theorem leadingHeading?_eq_some_iff {root : Node} {leading : LeadingHeading} :
    root.leadingHeading? = some leading ↔
      ∃ children, root.children.head? = some (.heading leading.depth children) ∧
        phrases children = leading.parts := by
  unfold leadingHeading?
  generalize root.children.head? = first
  match first with
  | none | some (.text _) | some (.code _) | some (.math _) | some (.other _) => simp
  | some (.heading depth children) =>
    simp only [Option.some.injEq, Node.heading.injEq]
    constructor
    · rintro rfl
      exact ⟨children, ⟨rfl, rfl⟩, rfl⟩
    · rintro ⟨_, ⟨rfl, rfl⟩, hparts⟩
      rw [hparts]

/-- A document that holds one heading, or nothing. -/
def ofLeadingHeading : Option LeadingHeading → Node
  | some leading => .other [.heading leading.depth (ofPhrases leading.parts)]
  | none => .other []

theorem leadingHeading?_ofLeadingHeading (leading : Option LeadingHeading) :
    (ofLeadingHeading leading).leadingHeading? = leading := by
  cases leading with
  | none => rfl
  | some leading => simp [ofLeadingHeading, leadingHeading?, children, phrases_ofPhrases]

end Node

end TutorialPages
