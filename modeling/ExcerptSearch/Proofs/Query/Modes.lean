import ExcerptSearch.Proofs.Query.Errors
import ExcerptSearch.Proofs.Query.Matching
import Mathlib.Data.List.Forall2

namespace ExcerptSearch

namespace Node.NegationFree

variable {children : List Node} {blobs : List Text}

theorem isMatch_all_of_single (hchildren : ∀ m ∈ children, m.NegationFree)
    (h : (group .single false children).isMatch blobs = true) :
    (group .all false children).isMatch blobs = true := by
  rw [isMatch_single, Bool.bne_false, List.any_eq_true] at h
  have ⟨b, hb, hall⟩ := h
  have hsub : [b] ⊆ blobs := by simpa using hb
  rw [List.all_eq_true] at hall
  rw [isMatch_all, Bool.bne_false, List.all_eq_true]
  exact fun m hm => (hchildren m hm).isMatch_of_subset hsub (hall m hm)

end Node.NegationFree

namespace Query

variable {text : Text} {strict mode : Bool} {q : Query}

-- Where nothing is negated, a match is kept when blobs are added, and what matches in strict mode
-- matches in the other, too.
theorem isMatch_monotone :
    (∀ (n : Node) (blobs blobs' : List Text), n.NegationFree → blobs ⊆ blobs' →
      n.isMatch blobs = true → n.isMatch blobs' = true) ∧
    ∀ (q : Query) (item : Item), q.root.NegationFree →
      (q.setStrict true).isMatch item.blobs = true →
      (q.setStrict false).isMatch item.blobs = true := by
  constructor
  case left => exact fun _ _ _ hn => hn.isMatch_of_subset
  case right => exact fun _ _ hn => Node.NegationFree.isMatch_all_of_single hn.members

theorem isMatch_monotone_nested :
    ∃ q, parse ['~', '(', 'a', ' ', 'b', ')', '|', '(', 'c', ' ', '~', '(', ')', ')'] false =
        .ok q ∧
      q.root.NegationFree ∧ [['a', 'b']] ⊆ [['d'], ['a', 'b']] ∧
      q.root.isMatch [['a', 'b']] = true ∧ q.root.isMatch [['d'], ['a', 'b']] = true ∧
      (q.setStrict true).isMatch [['d'], ['a', 'b']] = true ∧
      (q.setStrict false).isMatch [['d'], ['a', 'b']] = true := by
  have hparse : ((parse ['~', '(', 'a', ' ', 'b', ')', '|', '(', 'c', ' ', '~', '(', ')', ')']
      false).toOption.any fun q => q.root.listing.all (!·.negated) &&
        (q.root.isMatch [['a', 'b']] && (q.setStrict true).isMatch [['d'], ['a', 'b']])) = true := by
    simp only [parse, normalize_eq_quickNormalize]
    decide +kernel
  obtain ⟨q, hq, hcheck⟩ := exists_of_any_toOption hparse
  simp only [Bool.and_eq_true] at hcheck
  obtain ⟨hlisting, hmatch, hstrict⟩ := hcheck
  have hfree : q.root.NegationFree := fun v hv => by simpa using List.all_eq_true.mp hlisting v hv
  have hsub : [['a', 'b']] ⊆ [['d'], ['a', 'b']] := by simp
  exact ⟨q, hq, hfree, hsub, hmatch, isMatch_monotone.1 q.root _ _ hfree hsub hmatch, hstrict,
    isMatch_monotone.2 q { blobs := _ } hfree hstrict⟩

theorem foldl_setStrict {modes : List Bool} (hne : modes ≠ []) :
    modes.foldl setStrict q = q.setStrict (modes.getLast hne) := by
  induction modes generalizing q with
  | nil => exact absurd rfl hne
  | cons mode modes ih =>
    cases modes with
    | nil => rfl
    | cons mode' modes =>
      rw [List.foldl_cons, ih (List.cons_ne_nil _ _), List.getLast_cons (List.cons_ne_nil _ _)]
      rfl

theorem parse_setStrict (h : parse text strict = .ok q) :
    parse text mode = .ok (q.setStrict mode) := by
  obtain ⟨ms, highlighter, hms, hh, rfl⟩ := exists_members_of_parse h
  exact parse_of_members hms hh

theorem searchParts_setStrict (h : parse text strict = .ok q) :
    (q.setStrict mode).searchParts = q.searchParts := by
  obtain ⟨ms, highlighter, -, -, rfl⟩ := exists_members_of_parse h
  rfl

-- After any changes of its mode a query is the one that its text gives in the last of them. Its
-- text, what it marks, its wanted patterns and the members of its root are what they were at first.
theorem parse_foldl_setStrict (text : Text) (strict : Bool) (q : Query) (modes : List Bool)
    (hq : parse text strict = .ok q) (hne : modes ≠ []) :
    parse text (modes.getLast hne) = .ok (modes.foldl setStrict q) ∧
      (modes.foldl setStrict q).text = q.text ∧
      (modes.foldl setStrict q).highlighter = q.highlighter ∧
      (modes.foldl setStrict q).searchParts = q.searchParts ∧
      (modes.foldl setStrict q).root.members = q.root.members := by
  rw [foldl_setStrict hne]
  exact ⟨parse_setStrict hq, rfl, rfl, searchParts_setStrict hq, rfl⟩

theorem parse_foldl_setStrict_unbalanced :
    ∃ q, parse ['a', ')', ' ', '!', '(', 'b'] true = .ok q ∧ [false, true, false] ≠ [] ∧
      parse ['a', ')', ' ', '!', '(', 'b'] false = .ok ([false, true, false].foldl setStrict q) ∧
      ([false, true, false].foldl setStrict q).searchParts = q.searchParts ∧
      q.print = "~(`a` !&(`b`))".toList ∧
      ([false, true, false].foldl setStrict q).print = "&(`a` !&(`b`))".toList := by
  have hparse : ((parse ['a', ')', ' ', '!', '(', 'b'] true).toOption.any fun q =>
      q.print = "~(`a` !&(`b`))".toList &&
        ([false, true, false].foldl setStrict q).print = "&(`a` !&(`b`))".toList) = true := by
    simp only [parse, normalize_eq_quickNormalize]
    decide +kernel
  obtain ⟨q, hq, hprint⟩ := exists_of_any_toOption hparse
  simp only [Bool.and_eq_true, decide_eq_true_eq] at hprint
  have hne : [false, true, false] ≠ [] := List.cons_ne_nil _ _
  have h := parse_foldl_setStrict _ true q [false, true, false] hq hne
  exact ⟨q, hq, hne, h.1, h.2.2.2.1, hprint⟩

end Query

namespace Node

-- Trees that are the same but for groups which want all members to match. Any of these may look for
-- them within one blob in one of the trees, and anywhere in the other.
inductive Regrouped : Node → Node → Prop
  | term (t : Term) (negated : Bool) : Regrouped (.term t negated) (.term t negated)
  | someOf {negated : Bool} {children children' : List Node} :
    List.Forall₂ Regrouped children children' →
      Regrouped (.group .any negated children) (.group .any negated children')
  | allOf {kind kind' : GroupKind} {negated : Bool} {children children' : List Node} :
    kind ≠ .any → kind' ≠ .any → List.Forall₂ Regrouped children children' →
      Regrouped (.group kind negated children) (.group kind' negated children')

namespace Regrouped

variable {n n' : Node} {kind : GroupKind} {children : List Node} {negated : Bool} {blob : Text}

theorem refl (n : Node) : Regrouped n n := by
  induction n with
  | term t negated => exact .term t negated
  | group kind negated children ih =>
    have hchildren := List.forall₂_same.mpr ih
    cases kind with
    | any => exact .someOf hchildren
    | all | single => exact .allOf nofun nofun hchildren

theorem isMatch_allOf (hkind : kind ≠ .any) :
    (group kind negated children).isMatch [blob] =
      (children.all (·.isMatch [blob]) != negated) := by
  cases kind with
  | all => exact isMatch_all
  | any => exact absurd rfl hkind
  | single => rw [isMatch_single, List.any_cons, List.any_nil, Bool.or_false]

theorem isMatch_eq (h : Regrouped n n') : n.isMatch [blob] = n'.isMatch [blob] := by
  induction n generalizing n' with
  | term t negated =>
    cases h with
    | term => rfl
  | group kind negated children ih =>
    have halike {children'} (hchildren : List.Forall₂ Regrouped children children') :
        Alike (fun n n' => n.isMatch [blob] = n'.isMatch [blob]) children children' :=
      .of_forall₂ <| ((List.forall₂_and_left children children').mpr ⟨ih, hchildren⟩).imp
        fun _ _ hn => hn.1 hn.2
    cases h with
    | someOf hchildren =>
      rw [isMatch_any, isMatch_any, (halike hchildren).any_eq fun _ _ => id]
    | allOf hkind hkind' hchildren =>
      rw [isMatch_allOf hkind, isMatch_allOf hkind', (halike hchildren).all_eq fun _ _ => id]

end Regrouped
end Node

namespace Query

variable {text : Text} {strict mode : Bool} {q : Query}

theorem regrouped_setStrict (h : parse text strict = .ok q) :
    (q.setStrict mode).root.Regrouped q.root := by
  obtain ⟨ms, highlighter, -, -, rfl⟩ := exists_members_of_parse h
  have hkind : ∀ strict, rootKind strict ≠ .any := by decide
  exact .allOf (hkind mode) (hkind strict) (List.forall₂_same.mpr fun n _ => .refl n)

-- For an item with a single blob it makes no difference which groups look for all their members
-- within one blob, wherever in the tree they stand and whatever is negated. In particular a query
-- gives the same answer in either mode.
theorem isMatch_of_single_blob (item : Item) (hitem : item.blobs.length = 1) :
    (∀ n n' : Node, n.Regrouped n' → n.isMatch item.blobs = n'.isMatch item.blobs) ∧
    ∀ text strict q, parse text strict = .ok q → ∀ modes : List Bool,
      (modes.foldl setStrict q).isMatch item.blobs = q.isMatch item.blobs := by
  obtain ⟨blob, hblob⟩ := List.length_eq_one_iff.mp hitem
  rw [hblob]
  refine ⟨fun n n' h => h.isMatch_eq, fun text strict q hq modes => ?_⟩
  -- Each change of the mode leaves a query that its text gives, too.
  induction modes generalizing strict q with
  | nil => rfl
  | cons mode modes ih =>
    rw [List.foldl_cons, ih mode _ (parse_setStrict hq)]
    exact (regrouped_setStrict hq).isMatch_eq

theorem isMatch_of_single_blob_nested : [['a', 'c']].length = 1 ∧
    (∃ n n' : Node, n.Regrouped n' ∧ n.isMatch [['a', 'c']] = n'.isMatch [['a', 'c']] ∧
      n.isMatch [['a'], ['b']] ≠ n'.isMatch [['a'], ['b']]) ∧
    ∃ q, parse ['a', ' ', '!', 'b'] true = .ok q ∧
      ([true, false].foldl setStrict q).isMatch [['a', 'c']] = q.isMatch [['a', 'c']] ∧
      ([true, false].foldl setStrict q).isMatch [['a'], ['b']] ≠ q.isMatch [['a'], ['b']] := by
  have hone : [['a', 'c']].length = 1 := rfl
  obtain ⟨hnodes, hmodes⟩ := isMatch_of_single_blob { blobs := [['a', 'c']] } hone
  refine ⟨hone, ?nodes, ?modes⟩
  case nodes =>
    have hterms : ((Term.ofText ['a']).toOption.any fun t =>
        (Term.ofText ['b']).toOption.any fun u =>
          (Node.group .all true [.term t false, .group .single false [.term u false]]).isMatch
              [['a'], ['b']] !=
            (Node.group .single true [.term t false, .group .all false [.term u false]]).isMatch
              [['a'], ['b']]) = true := by decide
    obtain ⟨t, -, hterms⟩ := exists_of_any_toOption hterms
    obtain ⟨u, -, hne⟩ := exists_of_any_toOption hterms
    have hregrouped :
        (Node.group .all true [.term t false, .group .single false [.term u false]]).Regrouped
          (.group .single true [.term t false, .group .all false [.term u false]]) :=
      .allOf nofun nofun (.cons (.term t false)
        (.cons (.allOf nofun nofun (.cons (.term u false) .nil)) .nil))
    exact ⟨_, _, hregrouped, hnodes _ _ hregrouped, bne_iff_ne.mp hne⟩
  case modes =>
    have hparse : ((parse ['a', ' ', '!', 'b'] true).toOption.any fun q =>
        ([true, false].foldl setStrict q).isMatch [['a'], ['b']] !=
          q.isMatch [['a'], ['b']]) = true := by
      simp only [parse, normalize_eq_quickNormalize]
      decide +kernel
    obtain ⟨q, hq, hne⟩ := exists_of_any_toOption hparse
    exact ⟨q, hq, hmodes _ _ q hq _, bne_iff_ne.mp hne⟩

end Query
end ExcerptSearch
