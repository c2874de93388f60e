import ExcerptSearch.Proofs.Query.Balance
import ExcerptSearch.Proofs.Query.Layout

namespace ExcerptSearch

namespace Node

def negate : Node → Node
  | term t _              => term t true
  | group kind _ children => group kind true children

def Affirmed : Node → Prop
  | term _ negated    => negated = false
  | group _ negated _ => negated = false

theorem isMatch_negate {n : Node} (h : n.Affirmed) (blobs : List Text) :
    n.negate.isMatch blobs = !n.isMatch blobs := by
  cases n with
  | term t negated =>
    obtain rfl : negated = false := h
    simp [negate, isMatch_term]
  | group kind negated children =>
    obtain rfl : negated = false := h
    cases kind with
    | all => simp [negate, isMatch_all]
    | any => simp [negate, isMatch_any]
    | single => simp [negate, isMatch_single]

end Node

namespace Query

variable {c : Char} {cs rest : Text} {p : Part} {ts : List Token} {ms : List Node}

theorem exists_balance_part (p : Part) (ts : List Token) :
    ∃ us, ∀ negated, balance 0 (p.token negated :: ts) = p.token negated :: us := by
  cases p with
  | opening kind => exact ⟨balance 1 ts, fun _ => rfl⟩
  | term text => exact ⟨balance 0 ts, fun _ => by rw [Part.token, balance]⟩

theorem exists_membersOfTokens_part (h : membersOfTokens (p.token false :: ts) = .ok ms) :
    ∃ n ns, ms = n :: ns ∧ n.Affirmed ∧
      membersOfTokens (p.token true :: ts) = .ok (n.negate :: ns) := by
  have ⟨us, hus⟩ := exists_balance_part p ts
  rw [membersOfTokens_eq_ok_iff, hus] at h
  cases ms with
  | nil => exact nomatch h
  | cons n ns =>
    refine ⟨n, ns, rfl, ?_⟩
    rw [membersOfTokens_eq_ok_iff, hus]
    cases p with
    | opening kind =>
      cases n with
      | term =>
        cases h with
        | cons hopening => exact nomatch hopening
      | group =>
        cases h with
        | cons hopening hrest =>
          cases hopening
          exact ⟨rfl, .cons .opening hrest⟩
    | term text =>
      cases n with
      | group =>
        cases h with
        | cons hterm => exact nomatch hterm
      | term =>
        cases h with
        | cons hterm hrest =>
          cases hterm with
          | term ht => exact ⟨rfl, .cons (.term ht) hrest⟩

theorem exists_tokenize_mark (hc : Unicode.isWhiteSpace c = false) (hmark : c ≠ '!')
    (hclosing : c ≠ ')') : ∃ (p : Part) (ts : List Token),
      tokenize (c :: cs) = p.token false :: ts ∧
      tokenize ('!' :: c :: cs) = p.token true :: ts := by
  obtain ⟨t, rest, hfirst⟩ := exists_first?_of_trimStart (trimStart_cons hc)
  have hsome : (part? (c :: cs)).isSome := by
    simp only [first?, beq_iff_eq, hclosing, hmark, if_false] at hfirst
    simpa using congrArg Option.isSome hfirst
  obtain ⟨⟨p, rest⟩, hp⟩ := Option.isSome_iff_exists.mp hsome
  have hread := fun negated => tokenize_of_part? negated hc hmark hclosing hp
  exact ⟨p, tokenize rest, hread false, hread true⟩

-- A negation mark before a query for one term or one group negates this term or group, so the query
-- then matches just what it did not match.
theorem treeOfTokens_mark {c : Char} {cs : Text} {n : Node} (hc : Unicode.isWhiteSpace c = false)
    (hmark : c ≠ '!') (hclosing : c ≠ ')')
    (h : treeOfTokens .all (tokenize (c :: cs)) = .ok (.group .all false [n])) :
    treeOfTokens .all (tokenize ('!' :: c :: cs)) = .ok (.group .all false [n.negate]) ∧
      ∀ item : Item, (Node.group .all false [n.negate]).isMatch item.blobs =
        !(Node.group .all false [n]).isMatch item.blobs := by
  obtain ⟨p, ts, htokens, hnegated⟩ := @exists_tokenize_mark c cs hc hmark hclosing
  have hmembers : membersOfTokens (p.token false :: ts) = .ok [n] := by
    rw [membersOfTokens, ← htokens, h]
    rfl
  obtain ⟨n', ns, hms, hn, hmembers'⟩ := exists_membersOfTokens_part hmembers
  obtain ⟨rfl, rfl⟩ := List.cons.inj hms
  constructor
  case left =>
    rw [hnegated]
    exact treeOfTokens_of_members hmembers'
  case right =>
    intro item
    simp [Node.isMatch_all, Node.isMatch_negate hn]

theorem treeOfTokens_mark_open :
    Unicode.isWhiteSpace '~' = false ∧ '~' ≠ '!' ∧ '~' ≠ ')' ∧
    ∃ n, treeOfTokens .all (tokenize ['~', '(', 'a', ' ', '|', '(', '!', 'b', ')']) =
        .ok (.group .all false [n]) ∧
      treeOfTokens .all (tokenize ['!', '~', '(', 'a', ' ', '|', '(', '!', 'b', ')']) =
        .ok (.group .all false [n.negate]) ∧
      (Node.group .all false [n]).isMatch [['a', 'b'], ['a']] = true ∧
      (Node.group .all false [n.negate]).isMatch [['a', 'b'], ['a']] = false := by
  have hmembers :
      ((membersOfTokens (tokenize ['~', '(', 'a', ' ', '|', '(', '!', 'b', ')'])).toOption.any
        fun ms => ms.length == 1 && (Node.group .all false ms).isMatch [['a', 'b'], ['a']]) =
      true := by
    decide +kernel
  have ⟨ms, hms, hcheck⟩ := exists_of_any_toOption hmembers
  rw [Bool.and_eq_true, beq_iff_eq] at hcheck
  have ⟨n, hn⟩ := List.length_eq_one_iff.mp hcheck.1
  rw [hn] at hms hcheck
  have hspace : Unicode.isWhiteSpace '~' = false := by decide
  have htree : treeOfTokens .all (tokenize ['~', '(', 'a', ' ', '|', '(', '!', 'b', ')']) =
      .ok (.group .all false [n]) := treeOfTokens_of_members hms
  have ⟨hnegated, hanswers⟩ := treeOfTokens_mark hspace (by decide) (by decide) htree
  refine ⟨hspace, by decide, by decide, n, htree, hnegated, hcheck.2, ?_⟩
  exact (hanswers { blobs := _ }).trans (congrArg not hcheck.2)

end Query
end ExcerptSearch
