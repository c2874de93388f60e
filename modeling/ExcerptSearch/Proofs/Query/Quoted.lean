import ExcerptSearch.Proofs.Query.Errors
import ExcerptSearch.Proofs.Query.Inert
import ExcerptSearch.Proofs.Query.Reprint
import ExcerptSearch.Proofs.Query.Sides

namespace ExcerptSearch

def inQuotes (t : Text) : Text :=
  '"' :: (t ++ ['"'])

namespace Term

theorem questionSide_inQuotes (t : Text) : questionSide (inQuotes t) = (inQuotes t, .any) := by
  simp [questionSide, inQuotes, List.isSuffixOf]

theorem answerSide_inQuotes (t : Text) : answerSide (inQuotes t) = (inQuotes t, .any) := by
  simp [answerSide, inQuotes]

def quotedSource (t : Text) : Text :=
  Query.expandWildcards (quotesToBoundaries (inQuotes t))

def bordered (t : Text) : Text :=
  Query.bounded (quotesToBoundaries (inQuotes t))

theorem quotedSource_eq_flatMap (t : Text) :
    quotedSource t = (bordered t).flatMap Query.charPattern :=
  Query.expandWildcards_eq_flatMap _

theorem exists_ofText_inQuotes (t : Text) :
    ∃ s, ofText (inQuotes t) = .ok s ∧ s.pattern.source = quotedSource t ∧
      s.pattern.scope = .any := by
  have hnumber : quoteNumber (inQuotes t) = inQuotes t :=
    quoteNumber_of_mem (.head _) (by decide : '"'.isDigit = false)
  have helement : element (quoteNumber (inQuotes t)) = (inQuotes t, .any) := by
    simp [hnumber, element, questionSide_inQuotes, answerSide_inQuotes, TagScope.restrict]
  obtain ⟨p, hp, hs⟩ := @exists_ofText_plain (inQuotes t) (by simp [inQuotes])
  rw [plainSource, helement] at hp
  obtain ⟨c, hc, rfl⟩ := Option.map_eq_some_iff.mp hp
  exact ⟨_, hs, Regex.Compiled.source_of_ofSource? hc, rfl⟩

end Term

namespace Query

variable {t text : Text} {negated : Bool}

theorem normalize_inQuotes (t : Text) : normalize (inQuotes t) = inQuotes (normalize t) := by
  rw [inQuotes, inert_quote.normalize_cons, inert_quote.normalize_concat, ← inQuotes]

theorem tokenize_inQuotes (ht : '"' ∉ t) : tokenize (inQuotes t) = [.term false (inQuotes t)] := by
  have htrim : Text.trim (inQuotes t) = inQuotes t := trim_bracketed rfl rfl
  have hread : quoted? '"' (inQuotes t ++ []) = some (inQuotes t, []) := by
    rw [List.append_nil]
    exact quoted?_closed ht
  have hpart : part? (inQuotes t) = some (.term (inQuotes t), []) := by
    have h := part?_of_quoted? (.inl rfl) hread rfl htrim
    rwa [htrim, List.append_nil] at h
  have hfirst : first? '"' (t ++ ['"']) = some (.term false (inQuotes t), []) := by
    have hquote : part? ('"' :: (t ++ ['"'])) = some (.term (inQuotes t), []) := hpart
    simp [first?, hquote, Part.token]
  rw [tokenize_of_first? rfl hfirst, tokenize_of_trimStart_nil rfl]

theorem membersOfTokens_singleton {s : Term} (h : Term.ofText text = .ok s) :
    membersOfTokens [.term negated text] = .ok [.term s negated] := by
  simp only [membersOfTokens, treeOfTokens, List.foldlM_cons, Nesting.read, h]
  rfl

theorem exists_parse_inQuotes (ht : '"' ∉ normalize t) (strict : Bool) :
    ∃ q p, parse (inQuotes t) strict = .ok q ∧ q.searchParts = [p] ∧
      p.source = Term.quotedSource (normalize t) ∧ p.scope = .any := by
  obtain ⟨s, hs, hsource, hscope⟩ := Term.exists_ofText_inQuotes (normalize t)
  have hmembers : membersOfTokens (tokenize (normalize (inQuotes t))) = .ok [.term s false] := by
    rw [normalize_inQuotes, tokenize_inQuotes ht]
    exact membersOfTokens_singleton hs
  obtain ⟨highlighter, hh⟩ := exists_highlighter hmembers
  exact ⟨_, s.pattern, parse_of_members hmembers hh, rfl, hsource, hscope⟩

end Query
end ExcerptSearch
