import DiskPlan.Text.Width

/-!
# Clusters

The smallest pieces of a text that a display shows on their own.

A character that takes no cell belongs to the one before it, and so does an
emoji selector. A zero width joiner also draws in the character after it. What
stands at the front of a text has nothing before it and opens a cluster whatever
it is, so a joiner there joins nothing.

A text that is cut only between clusters can be measured piece by piece.

## Main definitions

* `Cluster`: Characters that are shown as one, and the cells they take.
* `clusters`: The clusters of a text.
-/

namespace DiskPlan

namespace Text

/-- Characters that are shown as one, and the cells they take together. -/
structure Cluster where
  chars : List Char
  width : Nat
  deriving DecidableEq, Repr

/-- A cluster with more characters at its end, which may widen it. -/
def Cluster.extend (k : Cluster) (cs : List Char) (widening : Nat) : Cluster :=
  ⟨k.chars ++ cs, k.width + widening⟩

/-- The clusters of a text that continues a cluster, given the character that a
    selector could still turn into an emoji. -/
def clustersAfter : Cluster → Option Char → List Char → List Cluster
  | k, _, [] => [k]
  | k, last, c :: rest =>
    if c = joiner then
      match rest with
      | [] => [k.extend [c] 0]
      | d :: rest => clustersAfter (k.extend [c, d] 0) last rest
    else if c = emojiSelector then
      if last.any (isInRanges widenedRanges) then clustersAfter (k.extend [c] 1) none rest
      else clustersAfter (k.extend [c] 0) last rest
    else if cellWidth c = 0 then
      clustersAfter (k.extend [c] 0) last rest
    else
      k :: clustersAfter ⟨[c], cellWidth c⟩ (some c) rest

/-- The clusters of a text. -/
def clusters : List Char → List Cluster
  | [] => []
  | c :: rest =>
    clustersAfter ⟨[c], cellWidth c⟩ (if cellWidth c = 0 then none else some c) rest

end Text

end DiskPlan
