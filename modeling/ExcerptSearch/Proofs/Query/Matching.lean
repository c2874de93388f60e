import ExcerptSearch.Archive.Basic
import ExcerptSearch.Proofs.Query.Listing
import ExcerptSearch.Proofs.Query.Normalize
import ExcerptSearch.Proofs.Text
import ExcerptSearch.Query.Basic
import Mathlib.Logic.Relation

namespace ExcerptSearch

-- Does every member of either list have its like in the other?
structure Alike {α β : Type} (r : α → β → Prop) (xs : List α) (ys : List β) : Prop where
  forth : ∀ x ∈ xs, ∃ y ∈ ys, r x y
  back  : ∀ y ∈ ys, ∃ x ∈ xs, r x y

namespace Alike

variable {α β : Type} {r : α → β → Prop} {xs : List α} {ys : List β} {p : α → Bool} {q : β → Bool}

theorem any_eq (h : Alike r xs ys) (hpq : ∀ x y, r x y → p x = q y) : xs.any p = ys.any q := by
  rw [Bool.eq_iff_iff, List.any_eq_true, List.any_eq_true]
  constructor
  case mp =>
    intro ⟨x, hx, hp⟩
    have ⟨y, hy, hr⟩ := h.forth x hx
    exact ⟨y, hy, hpq x y hr ▸ hp⟩
  case mpr =>
    intro ⟨y, hy, hq⟩
    have ⟨x, hx, hr⟩ := h.back y hy
    exact ⟨x, hx, hpq x y hr ▸ hq⟩

theorem all_eq (h : Alike r xs ys) (hpq : ∀ x y, r x y → p x = q y) : xs.all p = ys.all q := by
  have hnot : ∀ x y, r x y → (!p x) = !q y := fun x y hr => congrArg not (hpq x y hr)
  rw [List.all_eq_not_any_not, List.all_eq_not_any_not, h.any_eq hnot]

theorem singleton {x : α} {y : β} (h : r x y) : Alike r [x] [y] where
  forth := by simpa
  back := by simpa

theorem of_forall₂ (h : List.Forall₂ r xs ys) : Alike r xs ys := by
  induction h with
  | nil => exact ⟨by simp, by simp⟩
  | cons hr _ ih =>
    refine ⟨List.forall_mem_cons.mpr ⟨⟨_, .head _, hr⟩, fun x hx => ?forth⟩,
      List.forall_mem_cons.mpr ⟨⟨_, .head _, hr⟩, fun y hy => ?back⟩⟩
    case forth =>
      have ⟨y, hy, hxy⟩ := ih.forth x hx
      exact ⟨y, .tail _ hy, hxy⟩
    case back =>
      have ⟨x, hx, hxy⟩ := ih.back y hy
      exact ⟨x, .tail _ hx, hxy⟩

theorem of_mem_iff {r : α → α → Prop} {xs ys : List α} (h : ∀ x, x ∈ xs ↔ x ∈ ys)
    (hr : ∀ x ∈ xs, r x x) : Alike r xs ys where
  forth x hx := ⟨x, (h x).mp hx, hr x hx⟩
  back x hx := ⟨x, (h x).mpr hx, hr x ((h x).mpr hx)⟩

theorem self {r : α → α → Prop} {xs : List α} (hr : ∀ x ∈ xs, r x x) : Alike r xs xs :=
  of_mem_iff (fun _ => Iff.rfl) hr

theorem symm {xs ys : List α} (h : Alike Eq xs ys) : Alike Eq ys xs where
  forth y hy := (h.back y hy).imp fun _ => .imp_right Eq.symm
  back x hx := (h.forth x hx).imp fun _ => .imp_right Eq.symm

end Alike

namespace Visit

def term? : Visit → Option Term
  | term t _ => some t
  | _        => none

def negated : Visit → Bool
  | opening _ negated => negated
  | closing           => false
  | term _ negated    => negated

end Visit

namespace Node

variable {kind : GroupKind} {negated : Bool} {n n' n'' : Node} {children children' : List Node}
variable {blobs blobs' : List Text}

theorem isMatch_term {t : Term} :
    (term t negated).isMatch blobs = (blobs.any t.matchesBlob != negated) := by
  rw [isMatch]

theorem isMatch_all :
    (group .all negated children).isMatch blobs =
      (children.all (·.isMatch blobs) != negated) := by
  rw [isMatch, allMatch_eq_all]

theorem isMatch_any :
    (group .any negated children).isMatch blobs =
      (children.any (·.isMatch blobs) != negated) := by
  rw [isMatch, anyMatch_eq_any]

theorem isMatch_single :
    (group .single negated children).isMatch blobs =
      (blobs.any (fun b => children.all (·.isMatch [b])) != negated) := by
  simp only [isMatch, allMatch_eq_all]

theorem mem_listing_group {v : Visit} (hn : n ∈ children) (hv : v ∈ n.listing) :
    v ∈ (group kind negated children).listing := by
  have hmem : v ∈ listingOf children := by
    induction children with
    | nil => exact nomatch hn
    | cons m children ih =>
      rw [listingOf, List.mem_append]
      cases hn with
      | head => exact .inl hv
      | tail _ hn => exact .inr (ih hn)
  exact .tail _ (List.mem_append_left _ hmem)

def terms (n : Node) : List Term :=
  n.listing.filterMap Visit.term?

theorem mem_terms_group {t : Term} (hn : n ∈ children) (ht : t ∈ n.terms) :
    t ∈ (group kind negated children).terms := by
  have ⟨v, hv, hterm⟩ := List.mem_filterMap.mp ht
  exact List.mem_filterMap.mpr ⟨v, mem_listing_group hn hv, hterm⟩

def Agree (r : Text → Text → Prop) (n n' : Node) : Prop :=
  ∀ blobs blobs', Alike r blobs blobs' → n.isMatch blobs = n'.isMatch blobs'

namespace Agree

variable {r : Text → Text → Prop}

theorem group (h : Alike (Agree r) children children') :
    Agree r (.group kind negated children) (.group kind negated children') := by
  intro blobs blobs' hblobs
  cases kind with
  | all => rw [isMatch_all, isMatch_all, h.all_eq fun n n' hn => hn blobs blobs' hblobs]
  | any => rw [isMatch_any, isMatch_any, h.any_eq fun n n' hn => hn blobs blobs' hblobs]
  | single =>
    have hone : ∀ b b', r b b' →
        children.all (·.isMatch [b]) = children'.all (·.isMatch [b']) :=
      fun b b' hb => h.all_eq fun n n' hn => hn [b] [b'] (.singleton hb)
    rw [isMatch_single, isMatch_single, hblobs.any_eq hone]

theorem self (h : ∀ t ∈ n.terms, ∀ b b', r b b' → t.matchesBlob b = t.matchesBlob b') :
    Agree r n n := by
  induction n with
  | term t negated =>
    intro blobs blobs' hblobs
    rw [isMatch_term, isMatch_term, hblobs.any_eq (h t (.head _))]
  | group kind negated children ih =>
    exact group (.self fun n hn => ih n hn fun t ht => h t (mem_terms_group hn ht))

theorem refl (n : Node) : Agree Eq n n :=
  self fun _ _ _ _ hb => congrArg _ hb

theorem symm (h : Agree Eq n n') : Agree Eq n' n :=
  fun blobs blobs' hblobs => (h blobs' blobs hblobs.symm).symm

theorem trans (h : Agree Eq n n') (h' : Agree Eq n' n'') : Agree Eq n n'' :=
  fun blobs blobs' hblobs => (h blobs blobs (.self fun _ _ => rfl)).trans (h' blobs blobs' hblobs)

end Agree

inductive Rearranges : Node → Node → Prop
  | permute {kind : GroupKind} {negated : Bool} {children children' : List Node} :
    children.Perm children' →
      Rearranges (.group kind negated children) (.group kind negated children')
  | again {kind : GroupKind} {negated : Bool} {n : Node} {children : List Node} :
    n ∈ children → Rearranges (.group kind negated children) (.group kind negated (n :: children))
  | inside {kind : GroupKind} {negated : Bool} {n n' : Node} {before behind : List Node} :
    Rearranges n n' → Rearranges (.group kind negated (before ++ n :: behind))
      (.group kind negated (before ++ n' :: behind))

theorem Rearranges.agree (h : Rearranges n n') : Agree Eq n n' := by
  induction h with
  | permute hperm => exact .group (.of_mem_iff (fun _ => hperm.mem_iff) fun n _ => .refl n)
  | again hn =>
    refine .group (.of_mem_iff (fun m => ?_) fun n _ => .refl n)
    rw [List.mem_cons]
    exact ⟨.inr, Or.rec (fun hm => hm ▸ hn) id⟩
  | @inside _ _ n n' before behind _ ih =>
    refine .group ⟨fun m hm => ?_, fun m hm => ?_⟩
    all_goals
      obtain hm | rfl | hm := by simpa using hm
      · exact ⟨m, by simp [hm], .refl m⟩
      · exact ⟨_, by simp, ih⟩
      · exact ⟨m, by simp [hm], .refl m⟩

-- Trees whose groups have the same members, in whatever order and however often, give the same
-- answers to lists of the same blobs, in whatever order and however often.
theorem isMatch_eq_of_rearranged {n n' : Node} (h : Relation.EqvGen Rearranges n n')
    {blobs blobs' : List Text} (hblobs : ∀ b, b ∈ blobs ↔ b ∈ blobs') :
    n.isMatch blobs = n'.isMatch blobs' := by
  have hagree : Agree Eq n n' := by
    induction h with
    | rel _ _ h => exact h.agree
    | refl n => exact .refl n
    | symm _ _ _ ih => exact ih.symm
    | trans _ _ _ _ _ ih ih' => exact ih.trans ih'
  exact hagree blobs blobs' (.of_mem_iff hblobs fun _ _ => rfl)

theorem isMatch_eq_of_rearranged_nested :
    ∃ t u, Term.ofText ['a'] = .ok t ∧ Term.ofText ['b'] = .ok u ∧
      Relation.EqvGen Rearranges
        (.group .all false [.term t false, .group .single true [.term u true, .term t false]])
        (.group .all false [.group .single true [.term t false, .term u true, .term t false],
          .term t false]) ∧
      (∀ b, b ∈ [['a'], ['b']] ↔ b ∈ [['b'], ['a'], ['b']]) ∧
      (group .all false [.term t false, .group .single true [.term u true, .term t false]]).isMatch
          [['a'], ['b']] =
        (group .all false [.group .single true [.term t false, .term u true, .term t false],
          .term t false]).isMatch [['b'], ['a'], ['b']] := by
  obtain ⟨t, ht⟩ : ∃ t, Term.ofText ['a'] = .ok t := ⟨_, rfl⟩
  obtain ⟨u, hu⟩ : ∃ u, Term.ofText ['b'] = .ok u := ⟨_, rfl⟩
  have hinside : Rearranges
      (.group .all false [.term t false, .group .single true [.term u true, .term t false]])
      (.group .all false [.term t false,
        .group .single true [.term t false, .term u true, .term t false]]) :=
    @Rearranges.inside _ _ _ _ [.term t false] [] (.again (by simp))
  have hrearranged := Relation.EqvGen.trans _ _ _ (.rel _ _ hinside)
    (.rel _ _ (.permute (.swap (group .single true [.term t false, .term u true, .term t false])
      (term t false) [])))
  have hblobs : ∀ b, b ∈ [['a'], ['b']] ↔ b ∈ [['b'], ['a'], ['b']] := by simp
  exact ⟨t, u, ht, hu, hrearranged, hblobs, isMatch_eq_of_rearranged hrearranged hblobs⟩

def NegationFree (n : Node) : Prop :=
  ∀ v ∈ n.listing, v.negated = false

namespace NegationFree

theorem group_negated (h : (Node.group kind negated children).NegationFree) : negated = false :=
  h _ (.head _)

theorem member (h : (Node.group kind negated children).NegationFree) (hn : n ∈ children) :
    n.NegationFree :=
  fun v hv => h v (mem_listing_group hn hv)

theorem members (h : n.NegationFree) : ∀ m ∈ n.members, m.NegationFree := by
  cases n with
  | term t negated => exact fun _ hm => nomatch hm
  | group kind negated children => exact fun _ hm => h.member hm

theorem isMatch_of_subset (hn : n.NegationFree) (hsub : blobs ⊆ blobs')
    (h : n.isMatch blobs = true) : n.isMatch blobs' = true := by
  induction n generalizing blobs blobs' with
  | term t negated =>
    obtain rfl : negated = false := hn _ (.head _)
    rw [isMatch_term, Bool.bne_false, List.any_eq_true] at h ⊢
    have ⟨b, hb, hmatch⟩ := h
    exact ⟨b, hsub hb, hmatch⟩
  | group kind negated children ih =>
    obtain rfl := hn.group_negated
    have hmember : ∀ m ∈ children, m.isMatch blobs = true → m.isMatch blobs' = true :=
      fun m hm => ih m hm (hn.member hm) hsub
    cases kind with
    | all =>
      rw [isMatch_all, Bool.bne_false, List.all_eq_true] at h ⊢
      exact fun m hm => hmember m hm (h m hm)
    | any =>
      rw [isMatch_any, Bool.bne_false, List.any_eq_true] at h ⊢
      have ⟨m, hm, hmatch⟩ := h
      exact ⟨m, hm, hmember m hm hmatch⟩
    | single =>
      -- The blob that all members match is still there.
      rw [isMatch_single, Bool.bne_false, List.any_eq_true] at h ⊢
      have ⟨b, hb, hall⟩ := h
      exact ⟨b, hsub hb, hall⟩

end NegationFree
end Node

-- Do the blobs agree up to the bar before the metadata, or to the end where there is none?
def SameText (b b' : Text) : Prop :=
  b.takeWhile (· != '|') = b'.takeWhile (· != '|')

theorem Term.matchesBlob_of_sameText {t : Term} {b b' : Text} (ht : t.seesMetadata = false)
    (h : SameText b b') : t.matchesBlob b = t.matchesBlob b' := by
  have hvisible : ∀ b, t.visible b = b.takeWhile (· != '|') := fun b => by
    simp only [visible, ht, metadataSeparator, Text.before_singleton]
    rfl
  rw [matchesBlob, matchesBlob, hvisible, hvisible, h]

namespace Query

theorem exists_of_any_toOption {ε α : Type} {x : Except ε α} {p : α → Bool}
    (h : x.toOption.any p = true) : ∃ a, x = .ok a ∧ p a = true := by
  cases x with
  | error e => exact nomatch h
  | ok a => exact ⟨a, rfl, h⟩

-- A query whose terms do not look at metadata gives the same answer for items that only differ in
-- metadata.
theorem isMatch_ignores_metadata (q : Query) (item item' : Item)
    (hplain : ∀ t ∈ q.root.terms, t.seesMetadata = false)
    (hblobs : List.Forall₂ SameText item.blobs item'.blobs) :
    q.isMatch item.blobs = q.isMatch item'.blobs := by
  have hagree : Node.Agree SameText q.root q.root := .self fun t ht _ _ hb =>
    t.matchesBlob_of_sameText (hplain t ht) hb
  exact hagree _ _ (.of_forall₂ hblobs)

theorem isMatch_ignores_metadata_raw :
    ∃ q, parse ['!', '~', '(', 'a', ' ', '`', 'b', '$', '`', ')'] false = .ok q ∧
      (∀ t ∈ q.root.terms, t.seesMetadata = false) ∧
      List.Forall₂ SameText [['a', 'b', '|', '#'], ['c']] [['a', 'b'], ['c', '|', 'a', 'b']] ∧
      q.isMatch [['a', 'b', '|', '#'], ['c']] = q.isMatch [['a', 'b'], ['c', '|', 'a', 'b']] := by
  have hparse : ((parse ['!', '~', '(', 'a', ' ', '`', 'b', '$', '`', ')'] false).toOption.any
      fun q => q.root.terms.all (!·.seesMetadata)) = true := by
    simp only [parse, normalize_eq_quickNormalize]
    decide +kernel
  have ⟨q, hq, hall⟩ := exists_of_any_toOption hparse
  have hplain : ∀ t ∈ q.root.terms, t.seesMetadata = false :=
    fun t ht => by simpa using List.all_eq_true.mp hall t ht
  have hsame : List.Forall₂ SameText [['a', 'b', '|', '#'], ['c']]
      [['a', 'b'], ['c', '|', 'a', 'b']] := .cons rfl (.cons rfl .nil)
  exact ⟨q, hq, hplain, hsame, isMatch_ignores_metadata q { blobs := _ } { blobs := _ } hplain hsame⟩

end Query
end ExcerptSearch
