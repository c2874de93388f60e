import ExcerptSearch.Query.Tree
import Mathlib.Data.List.Forall2

namespace ExcerptSearch

-- What a walk through a tree comes to, depth first.
inductive Visit where
  | opening (kind : GroupKind) (negated : Bool)
  | closing
  | term (t : Term) (negated : Bool)

def Visit.emphases : Visit → List Text
  | term t _ => t.emphasis.toList
  | _        => []

namespace Node

mutual

def listing : Node → List Visit
  | term t negated             => [.term t negated]
  | group kind negated members => .opening kind negated :: (listingOf members ++ [.closing])

def listingOf : List Node → List Visit
  | []           => []
  | n :: members => n.listing ++ listingOf members

end

theorem listingOf_append (ms ns : List Node) :
    listingOf (ms ++ ns) = listingOf ms ++ listingOf ns := by
  induction ms with
  | nil => rfl
  | cons m ms ih => simp [listingOf, ih]

mutual

theorem emphases_eq_flatMap : (n : Node) → n.emphases = n.listing.flatMap Visit.emphases
  | term t _           => by simp [emphases, listing, Visit.emphases]
  | group _ _ children => by
    simp [emphases, listing, Visit.emphases, emphasesOf_eq_flatMap children]

theorem emphasesOf_eq_flatMap :
    (ns : List Node) → emphasesOf ns = (listingOf ns).flatMap Visit.emphases
  | []            => rfl
  | n :: children => by
    simp [emphasesOf, listingOf, emphases_eq_flatMap n, emphasesOf_eq_flatMap children]

end

mutual

theorem exists_of_mem_searchParts {p : TermPattern} : (n : Node) → p ∈ n.searchParts →
    ∃ t negated, .term t negated ∈ n.listing ∧ t.pattern = p
  | term t false, h            => ⟨t, false, .head _, (List.mem_singleton.mp h).symm⟩
  | group _ false children, h  => by
    obtain ⟨t, negated, hmem, ht⟩ := exists_of_mem_searchPartsOf children h
    exact ⟨t, negated, .tail _ (List.mem_append_left _ hmem), ht⟩

theorem exists_of_mem_searchPartsOf {p : TermPattern} : (ns : List Node) → p ∈ searchPartsOf ns →
    ∃ t negated, .term t negated ∈ listingOf ns ∧ t.pattern = p
  | n :: children, h => by
    obtain h | h := List.mem_append.mp h
    · obtain ⟨t, negated, hmem, ht⟩ := exists_of_mem_searchParts n h
      exact ⟨t, negated, List.mem_append_left _ hmem, ht⟩
    · obtain ⟨t, negated, hmem, ht⟩ := exists_of_mem_searchPartsOf children h
      exact ⟨t, negated, List.mem_append_right _ hmem, ht⟩

end

end Node

namespace Query

inductive Compiles : Token → Visit → Prop
  | opening {kind : GroupKind} {negated : Bool} :
    Compiles (.opening kind negated) (.opening kind negated)
  | closing : Compiles .closing .closing
  | term {text : Text} {t : Term} {negated : Bool} :
    Term.ofText text = .ok t → Compiles (.term negated text) (.term t negated)

def AllCompile (ts : List Token) : Prop :=
  ∀ negated text, .term negated text ∈ ts → ∃ t, Term.ofText text = .ok t

-- The tokens with every closing token left out that closes no group, and with the missing closing
-- tokens at the end, where so many groups are open before the first token.
def balance : Nat → List Token → List Token
  | depth, []                    => List.replicate depth .closing
  | depth, .opening kind n :: ts => .opening kind n :: balance (depth + 1) ts
  | 0, .closing :: ts            => balance 0 ts
  | depth + 1, .closing :: ts    => .closing :: balance depth ts
  | depth, .term n text :: ts    => .term n text :: balance depth ts

def membersOfTokens (ts : List Token) : Except QueryError (List Node) := do
  return (← treeOfTokens .all ts).members

theorem AllCompile.tail {t : Token} {ts : List Token} (h : AllCompile (t :: ts)) : AllCompile ts :=
  fun negated text hm => h negated text (List.mem_cons_of_mem t hm)

theorem forall₂_replicate_closing (n : Nat) :
    List.Forall₂ Compiles (List.replicate n .closing) (List.replicate n .closing) := by
  induction n with
  | zero => exact .nil
  | succ n ih => exact .cons .closing ih

namespace OpenGroup

-- What the innermost group and those around it hold, from the root to the latest member.
def listing (g : OpenGroup) : List OpenGroup → List Visit
  | []         => Node.listingOf g.children.reverse
  | o :: outer =>
    o.listing outer ++ .opening g.kind g.negated :: Node.listingOf g.children.reverse

theorem listing_add (g : OpenGroup) (outer : List OpenGroup) (n : Node) :
    (g.add n).listing outer = g.listing outer ++ n.listing := by
  cases outer with
  | nil => simp [listing, add, Node.listingOf_append, Node.listingOf]
  | cons o outer => simp [listing, add, Node.listingOf_append, Node.listingOf]

theorem listing_open (g : OpenGroup) (outer : List OpenGroup) (kind : GroupKind) (negated : Bool) :
    listing { kind, negated } (g :: outer) = g.listing outer ++ [.opening kind negated] :=
  rfl

theorem listing_close (g o : OpenGroup) (outer : List OpenGroup) :
    (o.add g.close).listing outer = g.listing (o :: outer) ++ [.closing] := by
  simp [listing_add, listing, close, Node.listing]

end OpenGroup

namespace Nesting

section Root

variable {kind : GroupKind} {s : Nesting}

def inRoot (kind : GroupKind) (g : OpenGroup) : List OpenGroup → Nesting
  | []         => { inner := { g with kind, negated := false } }
  | o :: outer =>
    let around := inRoot kind o outer
    { inner := g, outer := around.inner :: around.outer }

def withRoot (kind : GroupKind) (s : Nesting) : Nesting :=
  inRoot kind s.inner s.outer

theorem add_withRoot {n : Node} : (s.withRoot kind).add n = (s.add n).withRoot kind := by
  obtain ⟨g, outer⟩ := s
  cases outer <;> rfl

theorem close_withRoot : (s.withRoot kind).close = s.close.withRoot kind := by
  match s with
  | ⟨g, []⟩         => rfl
  | ⟨g, o :: outer⟩ => exact add_withRoot (s := ⟨o, outer⟩)

theorem read_withRoot {t : Token} :
    (s.withRoot kind).read t = (s.read t).map (withRoot kind) := by
  cases t with
  | opening => rfl
  | closing => exact congrArg Except.ok close_withRoot
  | term negated text =>
    rw [read, read]
    cases Term.ofText text with
    | ok t => exact congrArg Except.ok add_withRoot
    | error e => rfl

theorem foldlM_read_withRoot {ts : List Token} :
    ts.foldlM read (s.withRoot kind) = (ts.foldlM read s).map (withRoot kind) := by
  induction ts generalizing s with
  | nil => rfl
  | cons t ts ih =>
    rw [List.foldlM_cons, List.foldlM_cons, read_withRoot]
    cases s.read t with
    | ok s' => exact ih
    | error e => rfl

theorem closeAll_withRoot :
    (s.withRoot kind).closeAll = { s.closeAll with kind, negated := false } := by
  obtain ⟨g, outer⟩ := s
  induction outer generalizing g with
  | nil => rfl
  | cons o outer ih =>
    have hclosed : (withRoot kind ⟨g, o :: outer⟩).closeAll =
        (withRoot kind ⟨o.add g.close, outer⟩).closeAll := by
      rw [withRoot, withRoot]
      cases outer <;> rfl
    exact hclosed.trans (ih (o.add g.close))

end Root

def listing (s : Nesting) : List Visit :=
  s.inner.listing s.outer

def members (s : Nesting) : List Node :=
  s.closeAll.children.reverse

theorem listingOf_members (g : OpenGroup) (outer : List OpenGroup) :
    Node.listingOf (members ⟨g, outer⟩) =
      g.listing outer ++ List.replicate outer.length .closing := by
  induction outer generalizing g with
  | nil => simp [members, closeAll, OpenGroup.listing]
  | cons o outer ih =>
    have hclosed : members ⟨g, o :: outer⟩ = members ⟨o.add g.close, outer⟩ := rfl
    rw [hclosed, ih, OpenGroup.listing_close, List.append_assoc]
    rfl

theorem foldlM_read {ts : List Token} (h : AllCompile ts) (s : Nesting) :
    ∃ s' vs, ts.foldlM read s = .ok s' ∧
      List.Forall₂ Compiles (balance s.outer.length ts) vs ∧
      Node.listingOf s'.members = s.listing ++ vs := by
  -- The depth in `balance` is the number of groups around the innermost one.
  induction ts generalizing s with
  | nil => exact ⟨s, _, rfl, forall₂_replicate_closing _, listingOf_members s.inner s.outer⟩
  | cons t ts ih =>
    cases t with
    | opening kind negated =>
      let opened : Nesting := { inner := { kind, negated }, outer := s.inner :: s.outer }
      have ⟨s', vs, hs, hvs, hl⟩ := ih h.tail opened
      refine ⟨s', .opening kind negated :: vs, hs, .cons .opening hvs, ?_⟩
      rw [hl]
      simp [listing, opened, OpenGroup.listing_open]
    | closing =>
      match s with
      | ⟨g, []⟩         => exact ih h.tail ⟨g, []⟩
      | ⟨g, o :: outer⟩ =>
        have ⟨s', vs, hs, hvs, hl⟩ := ih h.tail ⟨o.add g.close, outer⟩
        refine ⟨s', .closing :: vs, hs, .cons .closing hvs, ?_⟩
        rw [hl]
        simp [listing, OpenGroup.listing_close]
    | term negated text =>
      have ⟨t, ht⟩ := h negated text List.mem_cons_self
      have ⟨s', vs, hs, hvs, hl⟩ := ih h.tail (s.add (.term t negated))
      have hread : s.read (.term negated text) = .ok (s.add (.term t negated)) := by
        rw [read, ht]
        rfl
      refine ⟨s', .term t negated :: vs, ?_, .cons (.term ht) hvs, ?_⟩
      · rw [List.foldlM_cons, hread]
        exact hs
      · rw [hl]
        simp [listing, add, OpenGroup.listing_add, Node.listing]

end Nesting

theorem treeOfTokens_eq (root : GroupKind) (ts : List Token) :
    treeOfTokens root ts = (membersOfTokens ts).map (.group root false) := by
  have hroot : ({ inner := { kind := root } } : Nesting) =
      .withRoot root { inner := { kind := .all } } := rfl
  simp only [membersOfTokens, treeOfTokens]
  rw [hroot, Nesting.foldlM_read_withRoot]
  cases ts.foldlM Nesting.read { inner := { kind := .all } } with
  | ok s => exact congrArg (fun g => Except.ok g.close) Nesting.closeAll_withRoot
  | error e => rfl

theorem membersOfTokens_of_allCompile {ts : List Token} (h : AllCompile ts) :
    ∃ ms, membersOfTokens ts = .ok ms ∧
      List.Forall₂ Compiles (balance 0 ts) (Node.listingOf ms) := by
  have ⟨s, vs, hs, hvs, hl⟩ := Nesting.foldlM_read h { inner := { kind := .all } }
  have hempty : Nesting.listing { inner := { kind := .all } } = [] := rfl
  rw [hempty, List.nil_append] at hl
  refine ⟨s.members, ?_, hl ▸ hvs⟩
  rw [membersOfTokens, treeOfTokens, hs]
  rfl

theorem membersOfTokens_of_error {pre post : List Token} {negated : Bool} {text : Text}
    {e : QueryError} (h : AllCompile pre) (he : Term.ofText text = .error e) :
    membersOfTokens (pre ++ .term negated text :: post) = .error e := by
  have ⟨s, _, hs, _, _⟩ := Nesting.foldlM_read h { inner := { kind := .all } }
  have hread : s.read (.term negated text) = .error e := by
    rw [Nesting.read, he]
    rfl
  have hrest : (.term negated text :: post).foldlM Nesting.read s = .error e := by
    rw [List.foldlM_cons, hread]
    rfl
  have hall : (pre ++ .term negated text :: post).foldlM Nesting.read { inner := { kind := .all } } =
      .error e := by
    rw [List.foldlM_append, hs]
    exact hrest
  rw [membersOfTokens, treeOfTokens, hall]
  rfl

theorem allCompile_or_error (ts : List Token) : AllCompile ts ∨
    ∃ pre negated text post e, ts = pre ++ .term negated text :: post ∧ AllCompile pre ∧
      Term.ofText text = .error e := by
  induction ts with
  | nil => exact .inl fun _ _ h => by simp at h
  | cons t ts ih =>
    by_cases ht : AllCompile [t]
    case pos =>
      have hcons : ∀ us, AllCompile us → AllCompile (t :: us) := fun us h negated text hm =>
        (List.mem_cons.mp hm).elim (fun he => ht negated text (by simp [he])) (h negated text)
      obtain h | ⟨pre, negated, text, post, e, rfl, hpre, he⟩ := ih
      · exact .inl (hcons ts h)
      · exact .inr ⟨t :: pre, negated, text, post, e, rfl, hcons pre hpre, he⟩
    case neg =>
      unfold AllCompile at ht
      push Not at ht
      obtain ⟨negated, text, hm, ht⟩ := ht
      obtain rfl := List.mem_singleton.mp hm
      cases he : Term.ofText text with
      | ok s => exact absurd he (ht s)
      | error e =>
        exact .inr ⟨[], negated, text, ts, e, rfl, fun _ _ h => by simp at h, he⟩

theorem allCompile_of_members {ts : List Token} {ms : List Node} (h : membersOfTokens ts = .ok ms) :
    AllCompile ts := by
  obtain hall | ⟨pre, negated, text, post, e, rfl, hpre, he⟩ := allCompile_or_error ts
  · exact hall
  · rw [membersOfTokens_of_error hpre he] at h
    exact nomatch h

theorem exists_ofText_of_mem_listing {ts : List Token} {vs : List Visit} {t : Term} {negated : Bool}
    (h : List.Forall₂ Compiles ts vs) (hm : .term t negated ∈ vs) :
    ∃ text, .term negated text ∈ ts ∧ Term.ofText text = .ok t := by
  induction h with
  | nil => exact nomatch hm
  | cons hv _ ih =>
    obtain rfl | hm := List.mem_cons.mp hm
    · cases hv with
      | term ht => exact ⟨_, .head _, ht⟩
    · obtain ⟨text, hmem, ht⟩ := ih hm
      exact ⟨text, .tail _ hmem, ht⟩

theorem mem_of_mem_balance {depth : Nat} {ts : List Token} {negated : Bool} {text : Text}
    (h : .term negated text ∈ balance depth ts) : .term negated text ∈ ts := by
  induction depth, ts using balance.induct with
  | case1 depth => exact nomatch (List.mem_replicate.mp h).2
  | case2 depth kind n ts ih =>
    rw [balance, List.mem_cons] at h
    exact .tail _ (ih (h.resolve_left nofun))
  | case3 ts ih => exact .tail _ (ih h)
  | case4 depth ts ih =>
    rw [balance, List.mem_cons] at h
    exact .tail _ (ih (h.resolve_left nofun))
  | case5 depth n text' ts ih =>
    rw [balance, List.mem_cons] at h
    exact List.mem_cons.mpr (h.imp_right ih)

-- The tree lists the tokens, balanced, if all terms compile; else it is the error of the first term
-- that does not.
theorem treeOfTokens_listing (root : GroupKind) (ts : List Token) :
    ((∀ negated text, .term negated text ∈ ts → ∃ t, Term.ofText text = .ok t) →
      ∃ members, treeOfTokens root ts = .ok (.group root false members) ∧
        List.Forall₂ Compiles (balance 0 ts) (Node.listingOf members)) ∧
    ∀ pre negated text post e, ts = pre ++ .term negated text :: post →
      (∀ negated text, .term negated text ∈ pre → ∃ t, Term.ofText text = .ok t) →
      Term.ofText text = .error e → treeOfTokens root ts = .error e := by
  constructor
  case left =>
    intro h
    have ⟨ms, hms, hl⟩ := membersOfTokens_of_allCompile h
    refine ⟨ms, ?_, hl⟩
    rw [treeOfTokens_eq, hms]
    rfl
  case right =>
    rintro pre negated text post e rfl h he
    rw [treeOfTokens_eq, membersOfTokens_of_error h he]
    rfl

theorem treeOfTokens_listing_unbalanced :
    (∃ members, treeOfTokens .any [.closing, .opening .all true, .term true ['a'], .opening .any false,
        .closing, .term false ['b']] = .ok (.group .any false members) ∧
      List.Forall₂ Compiles [.opening .all true, .term true ['a'], .opening .any false, .closing,
        .term false ['b'], .closing] (Node.listingOf members)) ∧
    treeOfTokens .any [.term false ['a'], .opening .any false, .term true ['`', '('],
      .term false ['`', ')']] = .error (.invalidPattern ['`', '('] true) := by
  have hterm : ∀ text, text = ['a'] ∨ text = ['b'] → ∃ t, Term.ofText text = .ok t := by
    rintro text (rfl | rfl)
    · exact ⟨_, rfl⟩
    · exact ⟨_, rfl⟩
  refine ⟨(treeOfTokens_listing .any _).1 ?_, (treeOfTokens_listing .any _).2
    [.term false ['a'], .opening .any false] true ['`', '('] _ _ rfl ?_ rfl⟩
  all_goals
    intro negated text hm
    simp at hm
    exact hterm text (by grind)

end Query
end ExcerptSearch
