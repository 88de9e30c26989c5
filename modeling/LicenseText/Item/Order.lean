import LicenseText.Item.Joining

/-!
# The order of items

A document's items are delivered in the order of their last lines, with neighbouring
comments joined. Items that end on the same line keep the order in which they were
found, where a joined comment stands at the place of its last part.
-/

namespace LicenseText

/-- An item with its place in the order of discovery. -/
structure RankedItem where
  rank : Nat
  item : Item
  deriving Repr, DecidableEq

namespace RankedItem

/-- Whether `a` may stand before `b`: it ends on an earlier line, or on the same line
and was found no later. -/
def precedes (a b : RankedItem) : Bool :=
  a.item.lastLine < b.item.lastLine
    || (a.item.lastLine == b.item.lastLine && a.rank ≤ b.rank)

def comment? (r : RankedItem) : Option RankedComment :=
  r.item.comment?.map fun c => ⟨r.rank, c⟩

def isString (r : RankedItem) : Bool := r.item.string?.isSome

end RankedItem

namespace RankedComment

def toItem (r : RankedComment) : RankedItem := ⟨r.rank, .comment r.comment⟩

end RankedComment

def rankItems (items : List Item) : List RankedItem :=
  items.zipIdx.map fun (item, position) => ⟨position, item⟩

/-- The items with neighbouring comments joined, in the order of their last lines. -/
def arrange (items : List Item) : List Item :=
  let ranked := rankItems items
  let comments := (joinRanked (ranked.filterMap RankedItem.comment?)).map
    RankedComment.toItem
  let strings := ranked.filter RankedItem.isString
  ((comments ++ strings).mergeSort RankedItem.precedes).map RankedItem.item

end LicenseText
