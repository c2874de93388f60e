import ExcerptSearch.Proofs.Query.Balance
import ExcerptSearch.Proofs.Query.Spaces

namespace ExcerptSearch.Query

variable {c : Char} {cs s t : Text}

-- What a quotation or a field begins with. Only these look for their ends behind a space.
def longMarks : Text :=
  ['"', '`', '[', '{']

section Parts

theorem source?_eq_plain? (hfirst : ∀ c ∈ t.head?, c ∉ longMarks)
    (hslashes : ∀ c ∈ (t.dropWhile (· == '/')).head?, c ∉ longMarks) : source? t = plain? t := by
  have hhead : ∀ {q}, q ∈ longMarks → t.head? ≠ some q := fun hq hc => hfirst _ hc hq
  have htag : tagField? t = none := by
    rw [tagField?_eq_none_iff]
    exact enclosed?_of_head fun hc => hslashes _ hc (by decide)
  rw [source?, quoted?_of_head (hhead (by decide)), quoted?_of_head (hhead (by decide)),
    enclosed?_of_head (hhead (by decide)), htag]
  rfl

theorem source?_of_unmarked (hs : ∀ c ∈ s, c ∉ longMarks) : source? s = plain? s := by
  apply source?_eq_plain?
  · exact fun c hc => hs c (List.mem_of_mem_head? hc)
  · exact fun c hc => hs c ((List.dropWhile_suffix _).subset (List.mem_of_mem_head? hc))

theorem source?_append_of_unmarked (hs : ∀ c ∈ s, c ∉ longMarks) :
    source? (s ++ ' ' :: t) = plain? (s ++ ' ' :: t) := by
  -- The space is no mark, so it does not matter whether `s` has any characters but slashes.
  have hhead : ∀ u : Text, (∀ c ∈ u, c ∉ longMarks) →
      ∀ c ∈ (u ++ ' ' :: t).head?, c ∉ longMarks := by
    intro u hu c hc
    cases u with
    | nil => exact Option.some.inj hc ▸ by decide
    | cons d u => exact Option.some.inj hc ▸ hu d (.head u)
  apply source?_eq_plain? (hhead s hs)
  rw [List.dropWhile_append]
  split
  case isTrue => exact hhead [] (fun _ h => nomatch h)
  case isFalse => exact hhead _ fun c hc => hs c ((List.dropWhile_suffix _).subset hc)

theorem part?_append_space (hs : ∀ c ∈ s, c ∉ longMarks) :
    part? (s ++ ' ' :: t) = (part? s).map (Prod.map id (· ++ ' ' :: t)) := by
  have hopening := opening?_append_space (t := s) (u := t)
  rw [part?, part?, hopening]
  cases opening? s with
  | some => rfl
  | none =>
    rw [source?_append_of_unmarked hs, source?_of_unmarked hs, plain?_append_space]
    cases plain? s with
    | none => rfl
    | some => rfl

theorem first?_append_space (hcs : ∀ d ∈ c :: cs, d ∉ longMarks) :
    first? c (cs ++ ' ' :: t) = (first? c cs).map (Prod.map id (· ++ ' ' :: t)) := by
  have hbehind : part? (cs ++ ' ' :: t) = (part? cs).map (Prod.map id (· ++ ' ' :: t)) :=
    part?_append_space fun d hd => hcs d (.tail c hd)
  have hwhole : part? (c :: (cs ++ ' ' :: t)) = _ := part?_append_space (s := c :: cs) (t := t) hcs
  have hnegated : (if c == '!' then part? (cs ++ ' ' :: t) else none) =
      (if c == '!' then part? cs else none).map (Prod.map id (· ++ ' ' :: t)) := by
    split
    case isTrue => exact hbehind
    case isFalse => rfl
  rw [first?, first?, hnegated, hwhole]
  split
  case isTrue => rfl
  case isFalse =>
    cases (if c == '!' then part? cs else none) with
    | some => rfl
    | none =>
      cases part? (c :: cs) with
      | none => rfl
      | some => rfl

end Parts

theorem tokenize_append_space (hs : ∀ c ∈ s, c ∉ longMarks) :
    tokenize (s ++ ' ' :: t) = tokenize s ++ tokenize t := by
  induction s using tokenize.induct with
  | case1 s h =>
    rw [tokenize_of_trimStart_nil h, List.nil_append]
    apply tokenize_congr
    have hspace : ∀ c ∈ s, Unicode.isWhiteSpace c := List.dropWhile_eq_nil_iff.mp h
    rw [Text.trimStart, List.dropWhile_append_of_pos hspace]
    rfl
  | case2 s c cs h token rest hfirst ih =>
    have hstart : Text.trimStart (s ++ ' ' :: t) = c :: (cs ++ ' ' :: t) := by
      simp only [Text.trimStart, List.dropWhile_append] at h ⊢
      rw [h]
      rfl
    have hcs : ∀ d ∈ c :: cs, d ∉ longMarks :=
      fun d hd => hs d ((List.dropWhile_suffix _).subset (h ▸ hd))
    have hfirst' : first? c (cs ++ ' ' :: t) = some (token, rest ++ ' ' :: t) := by
      rw [first?_append_space hcs, hfirst]
      rfl
    obtain ⟨source, happend, _⟩ := exists_source_of_first? hfirst
    have hrest : ∀ d ∈ rest, d ∉ longMarks :=
      fun d hd => hcs d (happend ▸ List.mem_append_right source hd)
    rw [tokenize_of_first? h hfirst, tokenize_of_first? hstart hfirst', ih hrest]
    rfl
  | case3 s c cs h hnone =>
    obtain ⟨token, rest, hfirst⟩ := exists_first?_of_trimStart h
    cases hnone.symm.trans hfirst

-- A query behind another one, with a space between them, adds its tokens, if there are no quotation
-- marks and no opening brackets in the other. If that leaves no group open, what matches are the
-- items that both queries match.
theorem tokenize_joined (q q' : Text) (hq : ∀ c ∈ q, c ∉ ['"', '`', '[', '{']) :
    tokenize (q ++ ' ' :: q') = tokenize q ++ tokenize q' ∧
      ((∀ negated text, .term negated text ∈ tokenize q ++ tokenize q' →
          ∃ t, Term.ofText text = .ok t) →
        depthBehind 0 (tokenize q) = 0 →
        ∃ n n' joined, treeOfTokens .all (tokenize q) = .ok n ∧
          treeOfTokens .all (tokenize q') = .ok n' ∧
          treeOfTokens .all (tokenize (q ++ ' ' :: q')) = .ok joined ∧
          ∀ item : Item,
            joined.isMatch item.blobs = (n.isMatch item.blobs && n'.isMatch item.blobs)) := by
  have htokens : tokenize (q ++ ' ' :: q') = tokenize q ++ tokenize q' := tokenize_append_space hq
  refine ⟨htokens, fun hterms hdepth => ?_⟩
  have ⟨ms, hms, _⟩ := membersOfTokens_of_allCompile
    fun negated text hm => hterms negated text (List.mem_append_left _ hm)
  have ⟨ms', hms', _⟩ := membersOfTokens_of_allCompile
    fun negated text hm => hterms negated text (List.mem_append_right _ hm)
  have hjoined := membersOfTokens_append hdepth hms hms'
  refine ⟨.group .all false ms, .group .all false ms', .group .all false (ms ++ ms'),
    treeOfTokens_of_members hms, treeOfTokens_of_members hms', ?joined, ?answers⟩
  case joined =>
    rw [htokens]
    exact treeOfTokens_of_members hjoined
  case answers =>
    intro item
    simp [Node.isMatch_all]

theorem tokenize_joined_stray :
    (∀ c ∈ ['(', 'a', ')', '!', ')'], c ∉ ['"', '`', '[', '{']) ∧
    tokenize ['(', 'a', ')', '!', ')', ' ', '!', '(', '[', 'b', ']'] =
      [.opening .all false, .term false ['a'], .closing, .term false ['!'], .closing,
        .opening .all true, .term false ['[', 'b', ']']] ∧
    depthBehind 0 (tokenize ['(', 'a', ')', '!', ')']) = 0 ∧
    ∃ n n' joined, treeOfTokens .all (tokenize ['(', 'a', ')', '!', ')']) = .ok n ∧
      treeOfTokens .all (tokenize ['!', '(', '[', 'b', ']']) = .ok n' ∧
      treeOfTokens .all (tokenize ['(', 'a', ')', '!', ')', ' ', '!', '(', '[', 'b', ']']) =
        .ok joined ∧
      joined.isMatch [['a', '!']] = (n.isMatch [['a', '!']] && n'.isMatch [['a', '!']]) := by
  have hq : ∀ c ∈ ['(', 'a', ')', '!', ')'], c ∉ ['"', '`', '[', '{'] := by simp
  have hleft : tokenize ['(', 'a', ')', '!', ')'] =
      [.opening .all false, .term false ['a'], .closing, .term false ['!'], .closing] := by cbv
  have hright : tokenize ['!', '(', '[', 'b', ']'] =
      [.opening .all true, .term false ['[', 'b', ']']] := by cbv
  obtain ⟨htokens, htrees⟩ := tokenize_joined _ ['!', '(', '[', 'b', ']'] hq
  have hterms : ∀ negated text, .term negated text ∈ tokenize ['(', 'a', ')', '!', ')'] ++
      tokenize ['!', '(', '[', 'b', ']'] → ∃ t, Term.ofText text = .ok t := by
    intro negated text hm
    rw [hleft, hright] at hm
    have htext : text = ['a'] ∨ text = ['!'] ∨ text = ['[', 'b', ']'] := by
      simp at hm
      grind
    obtain rfl | rfl | rfl := htext
    all_goals exact ⟨_, rfl⟩
  have hdepth : depthBehind 0 (tokenize ['(', 'a', ')', '!', ')']) = 0 := by
    rw [hleft]
    rfl
  obtain ⟨n, n', joined, hn, hn', hjoined, hanswers⟩ := htrees hterms hdepth
  rw [hleft, hright] at htokens
  exact ⟨hq, htokens, hdepth, n, n', joined, hn, hn', hjoined, hanswers { blobs := _ }⟩

end ExcerptSearch.Query
