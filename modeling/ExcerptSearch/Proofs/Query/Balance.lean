import ExcerptSearch.Proofs.Query.Matching
import Mathlib.Data.List.Infix

namespace ExcerptSearch

namespace Node

variable {n n' : Node} {ms ms' : List Node} {vs vs' : List Visit}

theorem listingOf_closing_inj
    (hms : ∀ n ∈ ms, ∀ n' vs vs', n.listing ++ vs = n'.listing ++ vs' → n = n' ∧ vs = vs')
    (h : listingOf ms ++ .closing :: vs = listingOf ms' ++ .closing :: vs') :
    ms = ms' ∧ vs = vs' := by
  induction ms generalizing ms' with
  | nil =>
    cases ms' with
    | nil => exact ⟨rfl, (List.cons.inj h).2⟩
    | cons n' ms' => cases n' <;> simp [listingOf, listing] at h
  | cons n ms ih =>
    cases ms' with
    | nil => cases n <;> simp [listingOf, listing] at h
    | cons n' ms' =>
      rw [listingOf, listingOf, List.append_assoc, List.append_assoc] at h
      have ⟨hn, hrest⟩ := hms n (.head _) n' _ _ h
      have ⟨hms, hvs⟩ := ih (fun m hm => hms m (.tail _ hm)) hrest
      exact ⟨by rw [hn, hms], hvs⟩

theorem listing_append_inj (h : n.listing ++ vs = n'.listing ++ vs') : n = n' ∧ vs = vs' := by
  induction n generalizing n' vs vs' with
  | term t negated =>
    cases n' with
    | term => simpa [listing] using h
    | group => simp [listing] at h
  | group kind negated children ih =>
    cases n' with
    | term => simp [listing] at h
    | group kind' negated' children' =>
      have ⟨hopening, hrest⟩ := List.cons.inj h
      have ⟨hkind, hnegated⟩ := Visit.opening.inj hopening
      have hclosing : listingOf children ++ .closing :: vs =
          listingOf children' ++ .closing :: vs' := by simpa using hrest
      have ⟨hchildren, hvs⟩ := listingOf_closing_inj (fun m hm _ _ _ => ih m hm) hclosing
      exact ⟨by rw [hkind, hnegated, hchildren], hvs⟩

theorem listingOf_injective : Function.Injective listingOf := by
  intro ms ms' h
  have hclosing : listingOf ms ++ [.closing] = listingOf ms' ++ [.closing] := by rw [h]
  exact (listingOf_closing_inj (fun _ _ _ _ _ => listing_append_inj) hclosing).1

end Node

namespace Query

variable {ts us : List Token} {ms ns : List Node} {vs : List Visit} {kind : GroupKind}
variable {negated : Bool} {depth : Nat}

theorem Compiles.rightUnique : Relator.RightUnique Compiles := by
  intro t v v' h h'
  cases h with
  | opening => cases h'; rfl
  | closing => cases h'; rfl
  | term ht =>
    cases h' with
    | term ht' => rw [Except.ok.inj (ht.symm.trans ht')]

theorem allCompile_of_compiles (h : List.Forall₂ Compiles (balance depth ts) vs) :
    AllCompile ts := by
  fun_induction balance depth ts generalizing vs with
  | case1 => exact fun _ _ hm => nomatch hm
  | case2 depth kind negated ts ih =>
    cases h with
    | cons _ h => exact fun _ _ hm => ih h _ _ (List.mem_of_ne_of_mem (by simp) hm)
  | case3 ts ih => exact fun _ _ hm => ih h _ _ (List.mem_of_ne_of_mem (by simp) hm)
  | case4 depth ts ih =>
    cases h with
    | cons _ h => exact fun _ _ hm => ih h _ _ (List.mem_of_ne_of_mem (by simp) hm)
  | case5 depth negated text ts ih =>
    cases h with
    | cons hterm h =>
      cases hterm with
      | term ht =>
        intro negated' text' hm
        cases hm with
        | head => exact ⟨_, ht⟩
        | tail _ hm => exact ih h _ _ hm

theorem membersOfTokens_eq_ok_iff :
    membersOfTokens ts = .ok ms ↔ List.Forall₂ Compiles (balance 0 ts) (Node.listingOf ms) := by
  have hlisting : ∀ {ms}, membersOfTokens ts = .ok ms →
      List.Forall₂ Compiles (balance 0 ts) (Node.listingOf ms) := by
    intro ms h
    have ⟨ms', hms', hl⟩ := membersOfTokens_of_allCompile (allCompile_of_members h)
    cases h.symm.trans hms'
    exact hl
  constructor
  case mp => exact hlisting
  case mpr =>
    intro h
    have ⟨ms', hms', _⟩ := membersOfTokens_of_allCompile (allCompile_of_compiles h)
    have hone := Compiles.rightUnique.forall₂ h (hlisting hms')
    rw [hms', Node.listingOf_injective hone]

theorem treeOfTokens_of_members (h : membersOfTokens ts = .ok ms) :
    treeOfTokens kind ts = .ok (.group kind false ms) := by
  rw [treeOfTokens_eq, h]
  rfl

def depthBehind : Nat → List Token → Nat
  | depth, []                 => depth
  | depth, .opening _ _ :: ts => depthBehind (depth + 1) ts
  | depth, .closing :: ts     => depthBehind (depth - 1) ts
  | depth, .term _ _ :: ts    => depthBehind depth ts

theorem balance_append (h : depthBehind depth ts = 0) :
    balance depth (ts ++ us) = balance depth ts ++ balance 0 us := by
  fun_induction balance depth ts with
  | case1 depth =>
    obtain rfl : depth = 0 := h
    rfl
  | case2 depth kind negated ts ih => exact congrArg _ (ih h)
  | case3 ts ih => exact ih h
  | case4 depth ts ih => exact congrArg _ (ih h)
  | case5 depth negated text ts ih =>
    rw [List.cons_append, balance, ih h, List.cons_append]

theorem membersOfTokens_append (h : depthBehind 0 ts = 0) (hts : membersOfTokens ts = .ok ms)
    (hus : membersOfTokens us = .ok ns) : membersOfTokens (ts ++ us) = .ok (ms ++ ns) := by
  rw [membersOfTokens_eq_ok_iff] at hts hus ⊢
  rw [balance_append h, Node.listingOf_append]
  exact List.rel_append hts hus

-- How many groups the tokens open, and how many closing tokens there are among them.
def openings (ts : List Token) : Nat :=
  ts.countP fun
    | .opening _ _ => true
    | _            => false

def closings (ts : List Token) : Nat :=
  ts.count .closing

-- Where tokens close groups of their own only, so does a closing behind them, or it closes the
-- group around them. Either way as many are missing as before.
theorem balance_concat_closing (h : ∀ pre, pre <+: ts → closings pre ≤ depth + openings pre) :
    balance (depth + 1) (ts ++ [.closing]) = balance depth ts ++ [.closing] := by
  have htail : ∀ {t : Token} {ts : List Token} {depth : Nat},
      (∀ pre, pre <+: t :: ts → closings pre ≤ depth + openings pre) →
        ∀ pre, pre <+: ts → closings (t :: pre) ≤ depth + openings (t :: pre) :=
    fun h pre hpre => h (_ :: pre) (List.cons_prefix_cons.mpr ⟨rfl, hpre⟩)
  induction ts generalizing depth with
  | nil =>
    have hmissing : List.replicate (depth + 1) Token.closing =
        List.replicate depth .closing ++ [.closing] := List.replicate_succ'
    exact hmissing
  | cons t ts ih =>
    cases t with
    | opening kind negated =>
      refine congrArg (.opening kind negated :: ·) (ih fun pre hpre => ?_)
      have hpre := htail h pre hpre
      simp [closings, openings] at hpre ⊢
      omega
    | closing =>
      cases depth with
      | zero =>
        have hfirst := h [.closing] (by simp)
        simp [closings, openings] at hfirst
      | succ depth =>
        refine congrArg (.closing :: ·) (ih fun pre hpre => ?_)
        have hpre := htail h pre hpre
        simp [closings, openings] at hpre ⊢
        omega
    | term negated text =>
      have hterms := ih fun pre hpre => by simpa [closings, openings] using htail h pre hpre
      rw [List.cons_append, balance, hterms, balance, List.cons_append]

theorem membersOfTokens_group (h : ∀ pre, pre <+: ts → closings pre ≤ openings pre)
    (hts : membersOfTokens ts = .ok ms) :
    membersOfTokens (.opening kind negated :: (ts ++ [.closing])) =
      .ok [.group kind negated ms] := by
  rw [membersOfTokens_eq_ok_iff] at hts ⊢
  have hbalance : balance 1 (ts ++ [.closing]) = balance 0 ts ++ [.closing] :=
    balance_concat_closing (by simpa using h)
  have hlisting : Node.listingOf [.group kind negated ms] =
      .opening kind negated :: (Node.listingOf ms ++ [.closing]) := by
    simp [Node.listingOf, Node.listing]
  rw [balance, hbalance, hlisting]
  exact .cons .opening (List.rel_append hts (.cons .closing .nil))

-- The tree for strict mode matches what the other matches where a group for single blobs stands
-- around all tokens, which then is the only member of the root. Groups that the tokens leave open
-- take in the closing of that group, but it is closed behind them.
theorem treeOfTokens_wrapped (ts : List Token)
    (hterms : ∀ negated text, .term negated text ∈ ts → ∃ t, Term.ofText text = .ok t)
    (h : ∀ pre, pre <+: ts → closings pre ≤ openings pre) :
    ∃ strict wrapped, treeOfTokens .single ts = .ok strict ∧
      treeOfTokens .all (.opening .single false :: (ts ++ [.closing])) = .ok wrapped ∧
      wrapped = .group .all false [strict] ∧
      ∀ item : Item, strict.isMatch item.blobs = wrapped.isMatch item.blobs := by
  have ⟨ms, hms, _⟩ := membersOfTokens_of_allCompile hterms
  refine ⟨.group .single false ms, .group .all false [.group .single false ms],
    treeOfTokens_of_members hms, treeOfTokens_of_members (membersOfTokens_group h hms), rfl, ?_⟩
  intro item
  simp [Node.isMatch_all]

theorem treeOfTokens_wrapped_open :
    let ts : List Token := [.opening .any true, .term false ['a'], .closing, .opening .all false,
      .term true ['b']]
    (∀ negated text, .term negated text ∈ ts → ∃ t, Term.ofText text = .ok t) ∧
    (∀ pre, pre <+: ts → closings pre ≤ openings pre) ∧
    ∃ strict wrapped, treeOfTokens .single ts = .ok strict ∧
      treeOfTokens .all [.opening .single false, .opening .any true, .term false ['a'], .closing,
        .opening .all false, .term true ['b'], .closing] = .ok wrapped ∧
      strict.isMatch [['a'], ['c']] = wrapped.isMatch [['a'], ['c']] := by
  intro ts
  have hterms : ∀ negated text, .term negated text ∈ ts → ∃ t, Term.ofText text = .ok t := by
    intro negated text hm
    obtain ⟨-, rfl⟩ | ⟨-, rfl⟩ :
        (negated = false ∧ text = ['a']) ∨ (negated = true ∧ text = ['b']) :=
      by simpa [ts] using hm
    · exact ⟨_, rfl⟩
    · exact ⟨_, rfl⟩
  have hinits : ∀ pre ∈ ts.inits, closings pre ≤ openings pre := by decide
  have hclosed : ∀ pre, pre <+: ts → closings pre ≤ openings pre :=
    fun pre hpre => hinits pre ((List.mem_inits pre ts).mpr hpre)
  have ⟨strict, wrapped, hstrict, hwrapped, _, hanswers⟩ := treeOfTokens_wrapped ts hterms hclosed
  exact ⟨hterms, hclosed, strict, wrapped, hstrict, hwrapped, hanswers { blobs := _ }⟩

end Query
end ExcerptSearch
