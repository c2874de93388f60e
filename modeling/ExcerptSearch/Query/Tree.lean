import ExcerptSearch.Query.Term
import ExcerptSearch.Query.Token

namespace ExcerptSearch

inductive Node where
  | term (t : Term) (negated : Bool)
  | group (kind : GroupKind) (negated : Bool) (children : List Node)

namespace Node

def members : Node → List Node
  | term _ _           => []
  | group _ _ children => children

@[induction_eliminator]
theorem induction {motive : Node → Prop} (term : ∀ t negated, motive (.term t negated))
    (group : ∀ kind negated children, (∀ n ∈ children, motive n) →
      motive (.group kind negated children)) (n : Node) : motive n :=
  Node.rec (motive_2 := fun ns => ∀ n ∈ ns, motive n) term group (fun _ h => nomatch h)
    (fun _ _ hn hns => List.forall_mem_cons.mpr ⟨hn, hns⟩) n

mutual

-- Does the node match these blobs? Inside a group for single blobs every part is asked about one
-- and the same blob.
def isMatch : Node → List Text → Bool
  | term t negated, blobs                => blobs.any t.matchesBlob != negated
  | group .all negated children, blobs    => allMatch children blobs != negated
  | group .any negated children, blobs    => anyMatch children blobs != negated
  | group .single negated children, blobs =>
    blobs.any (fun blob => allMatch children [blob]) != negated

def allMatch : List Node → List Text → Bool
  | [], _               => true
  | n :: children, blobs => n.isMatch blobs && allMatch children blobs

def anyMatch : List Node → List Text → Bool
  | [], _               => false
  | n :: children, blobs => n.isMatch blobs || anyMatch children blobs

end

theorem allMatch_eq_all (children : List Node) (blobs : List Text) :
    allMatch children blobs = children.all (·.isMatch blobs) := by
  induction children <;> simp_all [allMatch]

theorem anyMatch_eq_any (children : List Node) (blobs : List Text) :
    anyMatch children blobs = children.any (·.isMatch blobs) := by
  induction children <;> simp_all [anyMatch]

mutual

-- The patterns of the terms that are wanted, in the order of the tree. What stands in a negated
-- group is not wanted.
def searchParts : Node → List TermPattern
  | term t negated           => if negated then [] else [t.pattern]
  | group _ negated children => if negated then [] else searchPartsOf children

def searchPartsOf : List Node → List TermPattern
  | []            => []
  | n :: children => n.searchParts ++ searchPartsOf children

end

mutual

def emphases : Node → List Text
  | term t _           => t.emphasis.toList
  | group _ _ children => emphasesOf children

def emphasesOf : List Node → List Text
  | []            => []
  | n :: children => n.emphases ++ emphasesOf children

end

mutual

def print : Node → Text
  | term t negated              => negationMark negated ++ t.pattern.print
  | group kind negated children =>
    negationMark negated ++ [kind.sign, '('] ++ printAll children ++ [')']

def printAll : List Node → Text
  | []                 => []
  | [n]                => n.print
  | n :: m :: children => n.print ++ ' ' :: printAll (m :: children)

end

end Node

namespace Query

structure OpenGroup where
  kind     : GroupKind
  negated  : Bool := false
  -- The members so far, the latest first.
  children : List Node := []

namespace OpenGroup

def add (g : OpenGroup) (n : Node) : OpenGroup :=
  { g with children := n :: g.children }

def close (g : OpenGroup) : Node :=
  .group g.kind g.negated g.children.reverse

end OpenGroup

structure Nesting where
  inner : OpenGroup
  outer : List OpenGroup := []

namespace Nesting

def add (s : Nesting) (n : Node) : Nesting :=
  { s with inner := s.inner.add n }

def close (s : Nesting) : Nesting :=
  match s.outer with
  | []         => s
  | g :: outer => { inner := g.add s.inner.close, outer }

def read (s : Nesting) : Token → Except QueryError Nesting
  | .opening kind negated => .ok { inner := { kind, negated }, outer := s.inner :: s.outer }
  | .closing              => .ok s.close
  | .term negated text    => do return s.add (.term (← Term.ofText text) negated)

def closeAll (s : Nesting) : OpenGroup :=
  s.outer.foldl (fun g outer => outer.add g.close) s.inner

end Nesting

-- The tree that the tokens describe, with a root of the given kind. A closing token without an open
-- group has no effect, and groups that are still open at the end are closed there.
def treeOfTokens (root : GroupKind) (ts : List Token) : Except QueryError Node := do
  return (← ts.foldlM Nesting.read { inner := { kind := root } }).closeAll.close

end Query
end ExcerptSearch
