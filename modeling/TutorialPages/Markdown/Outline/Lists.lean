import TutorialPages.Markdown.Outline.Basic

/-!
# Lists

Items with one mark, between which there is nothing but space, make up a list. An item that follows
another one without even the ending of a line between them counts as part of that one when the end
of its list is looked for.

Whether a list is loose is seen from its blank lines: one that stands directly in the list or in an
item of it sets the blocks apart.
-/

namespace TutorialPages.Markdown.Outline

/-! ## Where lists begin and end -/

/-- A list with the positions of its first and its last entry. -/
structure Span where
  mark : Char
  number : Nat
  /-- The number of items around it. -/
  depth : Nat
  first : Nat
  last : Nat
  deriving DecidableEq, Repr

/-- The number of entries up to the end of the item that has begun, and of those that follow it
directly. `depth` is the number of enclosures that are open in the item. -/
def itemLength (depth : Nat) : Outline → Nat
  | [] => 0
  | .enter _ :: rest => 1 + itemLength (depth + 1) rest
  | .leave _ :: rest =>
    match depth with
    | 0 =>
      match rest with
      | .enter (.item ..) :: inner => 2 + itemLength 0 inner
      | _ => 1
    | depth + 1 => 1 + itemLength depth rest
  | _ :: rest => 1 + itemLength depth rest

/-- What is known of lists between two entries. -/
structure ListFinder where
  /-- The lists that may go on, innermost first. -/
  active : List Span
  /-- The lists that have ended, last one first. -/
  ended : List Span
  /-- The number of items around. -/
  depth : Nat
  /-- The number of entries so far. -/
  position : Nat
  /-- The number of entries up to the last one that is no space. -/
  solid : Nat

namespace ListFinder

/-- Whether an item, as a list of its own, goes on with another list: nothing but space stands
between the two. -/
def goesOn (finder : ListFinder) (item list : Span) : Bool :=
  item.mark == list.mark && item.depth == list.depth && list.last < item.first &&
    finder.solid ≤ list.last + 1

/-- Adds an item to the list that it goes on with. Otherwise it begins a list, after those have
ended that lie before it. -/
def addItem (item : Span) (finder : ListFinder) : ListFinder :=
  let inner := finder.active.takeWhile fun list => !finder.goesOn item list
  match finder.active.drop inner.length with
  | list :: outer =>
    { finder with
      active := { list with last := item.last } :: outer
      ended := inner ++ finder.ended }
  | [] =>
    let before := finder.active.takeWhile fun list => list.last < item.first
    { finder with
      active := item :: finder.active.drop before.length
      ended := before ++ finder.ended }

/-- Goes past an entry that comes before others. -/
def step (entry : Entry) (rest : Outline) (finder : ListFinder) : ListFinder :=
  let next := { finder with
    position := finder.position + 1
    solid := if entry.isGap then finder.solid else finder.position + 1 }
  match entry with
  | .enter (.item mark number) =>
    let item : Span :=
      ⟨mark, number, finder.depth, finder.position, finder.position + itemLength 0 rest⟩
    { finder.addItem item with
      depth := finder.depth + 1, position := next.position, solid := next.solid }
  | .leave (.item ..) => { next with depth := finder.depth - 1 }
  | _ => next

/-- Goes past all entries. -/
def run : Outline → ListFinder → ListFinder
  | [], finder => finder
  | entry :: rest, finder => run rest (finder.step entry rest)

/-- The lists in the order in which they have ended, the outer ones last. -/
def spans (finder : ListFinder) : List Span :=
  finder.ended.reverse ++ finder.active.reverse

end ListFinder

/-- Whether a mark belongs to a list with numbers. -/
def isOrderedMark (mark : Char) : Bool :=
  mark == '.' || mark == ')'

/-- The beginnings and ends of lists with their positions. -/
def listEntries (list : Span) : List (Nat × Entry) :=
  let isOrdered := isOrderedMark list.mark
  [(list.first, .enterList isOrdered list.number), (list.last + 1, .leaveList isOrdered)]

/-- Puts entries, in the order of their positions, into an outline at these positions. -/
def insertAt : Nat → List (Nat × Entry) → Outline → Outline
  | _, inserted, [] => inserted.map Prod.snd
  | position, inserted, entry :: rest =>
    let here := inserted.takeWhile fun (place, _) => place ≤ position
    here.map Prod.snd ++ entry :: insertAt (position + 1) (inserted.drop here.length) rest

/-- The outline with its lists. -/
def withLists (outline : Outline) : Outline :=
  let lists := (ListFinder.run outline ⟨[], [], 0, 0, 0⟩).spans
  insertAt 0 ((lists.flatMap listEntries).mergeSort fun a b => a.1 ≤ b.1) outline

/-! ## Loose lists -/

/-- By how much an entry changes the number of blocks that are open. -/
def depthChange : Entry → Int
  | .enter _ | .enterList .. | .enterCode _ | .enterHtml | .enterTable _ | .header _
  | .enterBody => 1
  | .leave _ | .leaveList _ | .leaveCode | .leaveHtml | .leaveTable | .leaveHeader
  | .leaveBody => -1
  | _ => 0

/-- Whether the blank line after the given entries, last one first, is the rest of the line on which
an item begins. -/
def isBlankStart : List Entry → Bool
  | .enter (.item ..) :: _ => true
  | _ => false

/-- Drops the space that ends the given entries, last one first. -/
def dropSpace : List Entry → List Entry
  | .space :: before => before
  | before => before

/-- Whether the item that ends the given entries, last one first, is empty, or ends in a quotation
that ends in a bare mark. -/
def endsEmpty : List Entry → Bool
  | .leave (.item ..) :: before =>
    match dropSpace before with
    | .enter (.item ..) :: _ => true
    | .leave .quote :: .enter .quote :: _ => true
    | .leave .quote :: .quoteMark :: _ => true
    | _ => false
  | _ => false

/-- Whether a blank line sets blocks apart, where `depth` blocks are open in a list, itself
included, and the given entries come before it, last one first. -/
def setsApart (depth : Int) (before : List Entry) : Bool :=
  let before := dropSpace before
  depth < 3 && !(depth == 2 && isBlankStart before) && !(depth == 1 && endsEmpty before)

/-- Whether a list is loose, given the rest of the outline from some point in it, the number of
blocks that are open there, and the entries before, last one first. The list reaches as far as the
end of a list of its kind after which no block is open. -/
def isLoose (isOrdered : Bool) : Int → List Entry → Outline → Bool
  | _, _, [] => false
  | depth, before, entry :: rest =>
    let depth := depth + depthChange entry
    let isEnd := match entry with
      | .leaveList kind => kind == isOrdered && depth == 0
      | _ => false
    let isApart := match entry with
      | .blankEnding _ => setsApart depth before
      | _ => false
    isApart || !isEnd && isLoose isOrdered depth (entry :: before) rest

end TutorialPages.Markdown.Outline
