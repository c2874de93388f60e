import ExcerptSearch.Proofs.Query.Matching
import ExcerptSearch.Proofs.Query.Reprint

namespace ExcerptSearch

namespace Visit

def token : Visit → Token
  | opening kind negated => .opening kind negated
  | closing              => .closing
  | term t negated       => .term negated t.pattern.print

end Visit

namespace TermPattern

open Query

variable {p : TermPattern} {rest : Text}

theorem not_mem_print_scope (s : TagScope) : '`' ∉ s.print := by
  cases s <;> decide

theorem part?_print (hp : '`' ∉ p.source) :
    part? (p.print ++ rest) = some (.term p.print, rest) := by
  have hbody : '`' ∉ p.source ++ p.scope.print := by
    simpa [not_mem_print_scope] using hp
  have hprint : p.print = '`' :: (p.source ++ p.scope.print) ++ ['`'] := by simp [print]
  have htrim : p.print.trim = p.print := hprint ▸ trim_bracketed rfl rfl
  have hread : quoted? '`' (p.print ++ rest) = some (p.print, rest) := by
    rw [hprint, List.append_assoc]
    exact quoted?_closed hbody
  have hpart := part?_of_quoted? (.inr rfl) hread rfl htrim
  rwa [htrim] at hpart

end TermPattern

namespace Node

open Query

def tokens (n : Node) : List Token :=
  n.listing.map Visit.token

def Printable (n : Node) : Prop :=
  ∀ t ∈ n.terms, '`' ∉ t.pattern.source

-- Is the printed node read as its tokens, whatever stands behind it?
def ReadsBack (n : Node) : Prop :=
  ∀ rest, tokenize (n.print ++ rest) = n.tokens ++ tokenize rest

variable {t : Term} {kind : GroupKind} {negated : Bool} {children ns : List Node} {rest : Text}

theorem Printable.member {n : Node} (h : (group kind negated children).Printable)
    (hn : n ∈ children) : n.Printable :=
  fun t ht => h t (mem_terms_group hn ht)

theorem readsBack_term (h : (term t negated).Printable) : (term t negated).ReadsBack := by
  intro rest
  have hterm : t ∈ (term t negated).terms := List.mem_singleton_self t
  have hpart := @TermPattern.part?_print t.pattern rest (h t hterm)
  have hprint : (term t negated).print ++ rest =
      negationMark negated ++ '`' :: (t.pattern.print.tail ++ rest) := by
    simp [print, TermPattern.print]
  rw [hprint]
  exact tokenize_of_part? negated rfl (by decide) (by decide) hpart

theorem tokenize_space : tokenize (' ' :: rest) = tokenize rest :=
  tokenize_congr rfl

theorem tokenize_closing : tokenize (')' :: rest) = .closing :: tokenize rest :=
  tokenize_of_first? rfl rfl

theorem tokenize_opening : tokenize (negationMark negated ++ [kind.sign, '('] ++ rest) =
    .opening kind negated :: tokenize rest := by
  have hpart : part? (kind.sign :: '(' :: rest) = some (.opening kind, rest) := by
    cases kind <;> rfl
  have hsign : Unicode.isWhiteSpace kind.sign = false ∧ kind.sign ≠ '!' ∧ kind.sign ≠ ')' := by
    cases kind <;> decide
  rw [List.append_assoc]
  exact tokenize_of_part? negated hsign.1 hsign.2.1 hsign.2.2 hpart

theorem tokenize_printAll (h : ∀ n ∈ ns, n.ReadsBack) :
    tokenize (printAll ns ++ rest) = (listingOf ns).map Visit.token ++ tokenize rest := by
  induction ns with
  | nil => rfl
  | cons n ns ih =>
    have hrest := ih fun m hm => h m (.tail n hm)
    cases ns with
    | nil => simpa [printAll, listingOf, tokens] using h n (.head _) rest
    | cons m ns =>
      calc tokenize (printAll (n :: m :: ns) ++ rest)
        _ = tokenize (n.print ++ ' ' :: (printAll (m :: ns) ++ rest)) := by simp [printAll]
        _ = n.tokens ++ tokenize (printAll (m :: ns) ++ rest) := by
          rw [h n (.head _), tokenize_space]
        _ = (listingOf (n :: m :: ns)).map Visit.token ++ tokenize rest := by
          simp [hrest, listingOf, tokens]

theorem readsBack_group (h : ∀ n ∈ children, n.ReadsBack) :
    (group kind negated children).ReadsBack := by
  intro rest
  calc tokenize ((group kind negated children).print ++ rest)
    _ = tokenize (negationMark negated ++ [kind.sign, '('] ++
        (printAll children ++ ')' :: rest)) := by
      simp [print]
    _ = .opening kind negated ::
        ((listingOf children).map Visit.token ++ .closing :: tokenize rest) := by
      rw [tokenize_opening, tokenize_printAll h, tokenize_closing]
    _ = (group kind negated children).tokens ++ tokenize rest := by
      simp [tokens, listing, Visit.token]

theorem Printable.readsBack {n : Node} (h : n.Printable) : n.ReadsBack := by
  induction n with
  | term => exact readsBack_term h
  | group _ _ _ ih => exact readsBack_group fun n hn => ih n hn (h.member hn)

-- The tokens of a printed tree are those of a walk through the tree. So trees on which these walks
-- differ differ in print.
theorem tokenize_print : (∀ n : Node, n.Printable → tokenize n.print = n.tokens) ∧
    ∀ n n' : Node, n.Printable → n'.Printable → n.tokens ≠ n'.tokens → n.print ≠ n'.print := by
  have hread : ∀ n : Node, n.Printable → tokenize n.print = n.tokens := by
    intro n hn
    have hempty : tokenize [] = [] := tokenize_of_trimStart_nil rfl
    simpa [hempty] using hn.readsBack []
  refine ⟨hread, fun n n' hn hn' hne hprint => hne ?_⟩
  rw [← hread n hn, ← hread n' hn', hprint]

theorem tokenize_print_patterns : ∃ n : Node,
    treeOfTokens .all (tokenize ['!', '~', '(', '`', '(', '!', ' ', '|', '(', 'a', '"', ')', ')',
      '`', ' ', '!', '[', 'b', ']', '/', '/', ' ', ')', ' ', '|', '(']) = .ok n ∧
    n.Printable ∧ (group .all false []).Printable ∧
    tokenize n.print = [.opening .all false, .opening .single true,
      .term false ['`', '(', '!', ' ', '|', '(', 'a', '"', ')', ')', '`'],
      .term true ['`', '\\', '[', 'b', '\\', ']', '(', '?', '=', '.', '*', '/', '/', ')', '`'],
      .closing, .opening .any false, .closing, .closing] ∧
    n.print ≠ (group .all false []).print := by
  have hcheck : ((treeOfTokens .all (tokenize ['!', '~', '(', '`', '(', '!', ' ', '|', '(', 'a',
      '"', ')', ')', '`', ' ', '!', '[', 'b', ']', '/', '/', ' ', ')', ' ', '|', '('])).toOption.any
      fun n => n.terms.all (!·.pattern.source.contains '`') &&
        n.tokens == [.opening .all false, .opening .single true,
          .term false ['`', '(', '!', ' ', '|', '(', 'a', '"', ')', ')', '`'],
          .term true ['`', '\\', '[', 'b', '\\', ']', '(', '?', '=', '.', '*', '/', '/', ')', '`'],
          .closing, .opening .any false, .closing, .closing]) = true := by
    decide +kernel
  have ⟨n, htree, hcheck⟩ := exists_of_any_toOption hcheck
  rw [Bool.and_eq_true, beq_iff_eq] at hcheck
  have hprintable : n.Printable := by simpa [Printable] using hcheck.1
  have hempty : (group .all false []).Printable := fun _ ht => nomatch ht
  have hne : n.tokens ≠ (group .all false []).tokens := by rw [hcheck.2]; decide
  have htokens := tokenize_print.1 n hprintable
  rw [hcheck.2] at htokens
  exact ⟨n, htree, hprintable, hempty, htokens, tokenize_print.2 n _ hprintable hempty hne⟩

end Node
end ExcerptSearch
