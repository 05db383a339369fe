import HtmlQuery.Markup.Builder

/-!
# Formatting elements

A formatting element that is ended by the end of what is around it, and not by its own end tag,
begins again with the next text: `reopenFormatting` opens the elements of the list that are not
open.  The list goes back to the latest barrier.

The end tag of a formatting element may come while other elements are open inside it.
`endFormatting` then takes the tree apart: what is inside the outermost of these others, the block,
stays there and gets a formatting element of its own, and the block moves out of the old one.  The
formatting elements between the two are made again around the block.
-/

namespace HtmlQuery.Markup

/-! ## The list -/

/-- Whether an entry is no barrier. -/
def FormattingEntry.isElement : FormattingEntry → Bool
  | .barrier => false
  | .element .. => true

/-- The number of the element of an entry. -/
def FormattingEntry.number? : FormattingEntry → Option Nat
  | .barrier => none
  | .element n _ => some n

/-- The tag of the element of an entry. -/
def FormattingEntry.tag? : FormattingEntry → Option Tag
  | .barrier => none
  | .element _ tag => some tag

/-- Whether an entry is that of the element with a number. -/
def FormattingEntry.isOf (n : Nat) (entry : FormattingEntry) : Bool :=
  entry.number? == some n

/-- The list without the element with a number. -/
def removeEntry (n : Nat) (entries : List FormattingEntry) : List FormattingEntry :=
  entries.filter (!·.isOf n)

/-- The list with an entry in place of the element with a number. -/
def replaceEntry (n : Nat) (entry : FormattingEntry) (entries : List FormattingEntry) :
    List FormattingEntry :=
  entries.map fun old => if old.isOf n then entry else old

/-- The list with an entry that is later than the element with a number. -/
def insertEntryAfter (n : Nat) (entry : FormattingEntry) (entries : List FormattingEntry) :
    List FormattingEntry :=
  entries.flatMap fun old => if old.isOf n then [entry, old] else [old]

/-- How many elements that are alike may be in the list after the latest barrier. -/
def maxAlike : Nat :=
  3

/-- The list with one element more.  Of too many that are alike the earliest is dropped. -/
def pushEntry (n : Nat) (tag : Tag) (entries : List FormattingEntry) : List FormattingEntry :=
  let alike := (entries.takeWhile (·.isElement)).filter fun entry => entry.tag?.any (·.isLike tag)
  let entries :=
    if alike.length < maxAlike then entries
    else ((alike.getLast?.bind (·.number?)).map (removeEntry · entries)).getD entries
  .element n tag :: entries

namespace Builder

/-- Changes the list of formatting elements. -/
def reformat (b : Builder) (f : List FormattingEntry → List FormattingEntry) : Builder :=
  { b with formatting := f b.formatting }

/-- What comes before does not begin again. -/
def addBarrier (b : Builder) : Builder :=
  b.reformat (.barrier :: ·)

/-- Forgets the formatting elements back to the latest barrier. -/
def dropToBarrier (b : Builder) : Builder :=
  b.reformat fun entries => (entries.dropWhile (·.isElement)).tail

/-- The element with a tag in the list, after the latest barrier. -/
def formattingOf? (b : Builder) (tag : String) : Option (Nat × Tag) :=
  (b.formatting.takeWhile (·.isElement)).findSome? fun
    | .element n found => if found.name == tag then some (n, found) else none
    | .barrier => none

/-- Whether an element is in the list. -/
def isFormatting (b : Builder) (n : Nat) : Bool :=
  b.formatting.any (·.isOf n)

/-- Whether an entry of the list is an element that is not open. -/
def isPending (b : Builder) : FormattingEntry → Bool
  | .barrier => false
  | .element n _ => !(b.isOpen n)

/-- Opens the element of an entry again. -/
def reopen (b : Builder) : FormattingEntry → Builder
  | .barrier => b
  | .element _ tag =>
    let n := b.draft.size
    (b.enter tag).reformat (.element n tag :: ·)

/-- Opens the formatting elements that are not open, back to one that is or to a barrier. -/
def reopenFormatting (b : Builder) : Builder :=
  match b.formatting.takeWhile b.isPending with
  | [] => b
  | pending =>
    pending.reverse.foldl reopen (b.reformat (·.drop pending.length))

/-- Adds a formatting element. -/
def enterFormatting (b : Builder) (tag : Tag) : Builder :=
  let n := b.draft.size
  (b.enter tag).reformat (pushEntry n tag)

/-! ## Ends -/

/-- Whether an element is one that others are placed by. -/
def isSpecial (e : OpenElement) : Bool :=
  e.isAmong specialTags

/-- Ends an element that has no rule of its own: the nearest one with this tag, unless an element
that others are placed by is nearer. -/
def endOrdinary (b : Builder) (tag : String) : Builder :=
  if reaches (·.isAmong [tag]) isSpecial b.opened then
    (b.leaveImpliedBut tag).leaveThrough [tag]
  else b

/-- The elements inside the outermost special one, that one, and those around it. -/
def splitAtBlock? : List OpenElement → Option (List OpenElement × OpenElement × List OpenElement)
  | [] => none
  | e :: outer =>
    match splitAtBlock? outer with
    | some (inside, block, around) => some (e :: inside, block, around)
    | none => if isSpecial e then some ([], e, outer) else none

/-- A block that is moving out of a formatting element. -/
structure Moving where
  /-- The builder. -/
  builder : Builder
  /-- The number of what moves: the block with what has been made again around it. -/
  moving : Nat
  /-- The elements that have been made again, the innermost first. -/
  kept : List OpenElement := []
  /-- The element of the list that the new formatting element comes after. -/
  bookmark : Option Nat := none

/-- How many of the elements around a block are made again around it. -/
def maxKept : Nat :=
  3

/-- Makes an element between the block and the formatting element again around what moves. -/
def remake (m : Moving) (e : OpenElement) (tag : Tag) : Moving :=
  let n := m.builder.draft.size
  let b := m.builder.redraft fun d =>
    (makeElement d .html tag.name tag.attributes).move (.under n) m.moving
  { builder := b.reformat (replaceEntry e.number (.element n tag))
    moving := n
    kept := m.kept ++ [⟨n, .html, tag.name⟩]
    bookmark := m.bookmark.or (some n) }

/-- Goes past an element between the block and the formatting element, the `index`-th from the block
on.  It is made again if it is in the list and not too far out, and closed if not. -/
def passBy (m : Moving) : OpenElement × Nat → Moving
  | (e, index) =>
    match (m.builder.formatting.find? (·.isOf e.number)).bind (·.tag?) with
    | none => m
    | some tag =>
      if index < maxKept then remake m e tag
      else { m with builder := m.builder.reformat (removeEntry e.number) }

/-- Moves the block out of a formatting element, and gives what is inside it a formatting element of
its own.  `inside` are the open elements inside the block, `between` those between the two, and
`outer` those around the formatting element. -/
def moveBlock (b : Builder) (n : Nat) (tag : Tag) (inside : List OpenElement) (block : OpenElement)
    (between outer : List OpenElement) : Builder :=
  let m := between.zipIdx.foldl passBy { builder := b, moving := block.number }
  let target := (outer.head?.map m.builder.spotIn).getD (.under 0)
  let new := m.builder.draft.size
  let b := m.builder.redraft fun d =>
    let d := makeElement (d.move target m.moving) .html tag.name tag.attributes
    (d.moveChildren block.number new).place (.under block.number) new
  let entry := FormattingEntry.element new tag
  let b :=
    match m.bookmark with
    | none => b.reformat (replaceEntry n entry)
    | some mark => b.reformat fun entries => removeEntry n (insertEntryAfter mark entry entries)
  { b with opened := inside ++ ⟨new, .html, tag.name⟩ :: block :: m.kept ++ outer }

/-- Ends a formatting element in the list. -/
def endEntry (b : Builder) (n : Nat) (tag : Tag) : Builder :=
  if !(b.isOpen n) then b.reformat (removeEntry n)
  else if !(b.numberInScope n) then b
  else
    let inside := b.opened.takeWhile (·.number != n)
    let outer := b.opened.drop (inside.length + 1)
    match splitAtBlock? inside with
    | none => { b with opened := outer }.reformat (removeEntry n)
    | some (inside, block, between) => b.moveBlock n tag inside block between outer

/-- Whether ending a formatting element in the list has left more to be done: a block was moved. -/
def hasBlock (b : Builder) (n : Nat) : Bool :=
  b.isOpen n && b.numberInScope n &&
    (b.opened.takeWhile (·.number != n)).any isSpecial

/-- Ends formatting elements with a tag, until no block is left to be moved or so many have been. -/
def endFormattingTimes (b : Builder) (tag : String) : Nat → Builder
  | 0 => b
  | times + 1 =>
    match b.formattingOf? tag with
    | none => b.endOrdinary tag
    | some (n, found) =>
      let ended := b.endEntry n found
      if b.hasBlock n then ended.endFormattingTimes tag times else ended

/-- How many blocks the end of a formatting element moves. -/
def maxMoves : Nat :=
  8

/-- Ends a formatting element. -/
def endFormatting (b : Builder) (tag : String) : Builder :=
  match b.opened with
  | e :: _ =>
    if e.isAmong [tag] && !(b.isFormatting e.number) then b.leave
    else b.endFormattingTimes tag maxMoves
  | [] => b

/-- Ends the link that is open, if there is one, before another one begins. -/
def endLink (b : Builder) : Builder :=
  match b.formattingOf? "a" with
  | none => b
  | some (n, _) => ((b.endFormatting "a").reformat (removeEntry n)).close n

end Builder

end HtmlQuery.Markup
