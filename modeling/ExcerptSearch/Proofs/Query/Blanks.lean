import ExcerptSearch.Proofs.Query.Joining
import ExcerptSearch.Proofs.Query.Quoted
import ExcerptSearch.Proofs.Query.Sides

namespace ExcerptSearch.Query

structure BlankRun (w : Text) : Prop where
  ne_nil  : w ≠ []
  isBlank : w.isBlank
  noSpace : ' ' ∉ w

def EndsPlain (rest : Text) : Prop :=
  ∀ c cs, rest = c :: cs → endsPlain c cs = true

section Parts

variable {c : Char} {cs t rest w : Text} {negated : Bool}

theorem trim_eq_nil_iff : t.trim = [] ↔ t.isBlank := by
  constructor
  case mp =>
    intro h
    obtain ⟨w₁, w₂, h₁, h₂, ht⟩ := exists_trim t
    rw [h, List.append_nil] at ht
    rw [ht, Text.isBlank, List.all_append]
    exact Bool.and_eq_true_iff.mpr ⟨h₁, h₂⟩
  case mpr =>
    intro h
    have hstart : t.trimStart = [] := List.dropWhile_eq_nil_iff.mpr (List.all_eq_true.mp h)
    rw [Text.trim, hstart]
    rfl

theorem endsPlain_of_isWhiteSpace (hc : Unicode.isWhiteSpace c = true) (hspace : c ≠ ' ') :
    endsPlain c cs = false := by
  unfold endsPlain
  split
  case h_3 => exact absurd rfl hspace
  case h_8 => rfl
  all_goals exact absurd hc (by decide)

theorem endsPlain_plain (t : Text) : EndsPlain (plain t).2 := by
  fun_induction plain t with
  | case1 => rintro _ _ ⟨⟩
  | case2 c cs hend =>
    rintro _ _ ⟨⟩
    exact hend
  | case3 c cs _ run rest hplain ih =>
    rw [hplain] at ih
    exact ih

theorem plain_of_endsPlain (h : EndsPlain rest) : plain rest = ([], rest) := by
  cases rest with
  | nil => rfl
  | cons c cs => simp [plain, h c cs rfl]

theorem plain_blank_append (hblank : w.isBlank) (hspace : ' ' ∉ w) (h : EndsPlain rest) :
    plain (w ++ rest) = (w, rest) := by
  induction w with
  | nil => exact plain_of_endsPlain h
  | cons c w ih =>
    obtain ⟨hc, hw⟩ := Bool.and_eq_true_iff.mp hblank
    have hne : c ≠ ' ' := fun he => hspace (he ▸ .head w)
    simp [plain, endsPlain_of_isWhiteSpace hc hne, ih hw fun hm => hspace (.tail c hm)]

theorem source?_of_blank (hc : Unicode.isWhiteSpace c = true) :
    source? (c :: cs) = plain? (c :: cs) := by
  have hmark : c ∉ longMarks := fun hm => by
    simp only [longMarks, List.mem_cons, List.not_mem_nil, or_false] at hm
    obtain rfl | rfl | rfl | rfl := hm
    all_goals exact absurd hc (by decide)
  have hslash : c ≠ '/' := by
    rintro rfl
    exact absurd hc (by decide)
  apply source?_eq_plain?
  · exact fun d hd => Option.some.inj hd ▸ hmark
  · rw [List.dropWhile_cons_of_neg (by simpa using hslash)]
    exact fun d hd => Option.some.inj hd ▸ hmark

theorem opening?_of_blank (hc : Unicode.isWhiteSpace c = true) : opening? (c :: cs) = none := by
  unfold opening?
  split
  case h_5 => rfl
  all_goals
    rename_i heq
    obtain ⟨rfl, -⟩ := List.cons.inj heq
    exact absurd hc (by decide)

theorem part?_eq_blank_iff : part? t = some (.term [], rest) ↔
    ∃ w, t = w ++ rest ∧ BlankRun w ∧ EndsPlain rest := by
  constructor
  case mp =>
    intro h
    obtain ⟨s, hsource, hblank⟩ : ∃ s, source? t = some (s, rest) ∧ s.isBlank := by
      unfold part? at h
      split at h
      case h_1 => cases h
      case h_2 =>
        obtain ⟨⟨s, rest'⟩, hsource, h⟩ := Option.map_eq_some_iff.mp h
        obtain ⟨hs, rfl⟩ := Prod.mk.inj h
        exact ⟨s, hsource, trim_eq_nil_iff.mp (Part.term.inj hs)⟩
    obtain ⟨rfl, hne⟩ := eq_append_of_source? hsource
    obtain ⟨c, s, rfl⟩ := List.exists_cons_of_ne_nil hne
    obtain ⟨hc, -⟩ := Bool.and_eq_true_iff.mp hblank
    have hplain : plain? (c :: s ++ rest) = some (c :: s, rest) := by
      rw [← hsource]
      exact (source?_of_blank hc).symm
    have hrest : (plain (c :: s ++ rest)).2 = rest := by
      simp only [plain?] at hplain
      split at hplain
      case isTrue => cases hplain
      case isFalse => exact (Prod.mk.inj (Option.some.inj hplain)).2
    exact ⟨c :: s, rfl, ⟨hne, hblank, (plain?_form hplain).1⟩, hrest ▸ endsPlain_plain _⟩
  case mpr =>
    rintro ⟨w, rfl, hw, hrest⟩
    obtain ⟨c, w, rfl⟩ := List.exists_cons_of_ne_nil hw.ne_nil
    obtain ⟨hc, -⟩ := Bool.and_eq_true_iff.mp hw.isBlank
    have hrun : plain (c :: w ++ rest) = (c :: w, rest) :=
      plain_blank_append hw.isBlank hw.noSpace hrest
    have hsource : source? (c :: w ++ rest) = some (c :: w, rest) := by
      have hplain : plain? (c :: w ++ rest) = some (c :: w, rest) := by
        rw [plain?, hrun]
        rfl
      exact (source?_of_blank hc).trans hplain
    have hopening : opening? (c :: w ++ rest) = none := opening?_of_blank hc
    have htrim : Text.trim (c :: w) = [] := trim_eq_nil_iff.mpr hw.isBlank
    simp only [part?, hopening, hsource, Option.map_some, htrim]

theorem first?_eq_blank_iff (hc : Unicode.isWhiteSpace c = false) :
    first? c cs = some (.term negated [], rest) ↔
      negated = true ∧ c = '!' ∧ part? cs = some (.term [], rest) := by
  constructor
  case mp =>
    intro h
    unfold first? at h
    split at h
    case isTrue => exact nomatch h
    case isFalse =>
      split at h
      case h_1 p rest' hp =>
        obtain ⟨htoken, rfl⟩ := Prod.mk.inj (Option.some.inj h)
        split at hp
        case isTrue hmark =>
          cases p with
          | opening => exact nomatch htoken
          | term text =>
            obtain ⟨rfl, rfl⟩ := Token.term.inj htoken
            exact ⟨rfl, beq_iff_eq.mp hmark, hp⟩
        case isFalse => exact nomatch hp
      case h_2 =>
        obtain ⟨⟨p, rest'⟩, hp, h⟩ := Option.map_eq_some_iff.mp h
        obtain ⟨htoken, -⟩ := Prod.mk.inj h
        -- The text of a term that is not negated begins with `c`.
        obtain ⟨kind, rfl⟩ | ⟨s, rfl⟩ := part?_cases hp hc
        · exact nomatch htoken
        · exact nomatch htoken
  case mpr =>
    rintro ⟨rfl, rfl, hpart⟩
    simp [first?, hpart, Part.token]

end Parts

section Tokens

variable {c : Char} {cs q r rest : Text} {t : Token}

-- `Leaves q r` says that `r` is all of the query, or what is left of it behind some of its tokens.
inductive Leaves : Text → Text → Prop
  | all {q : Text} : Leaves q q
  | behind {c : Char} {cs q r rest : Text} {t : Token} : q.trimStart = c :: cs →
    first? c cs = some (t, rest) → Leaves rest r → Leaves q r

theorem Leaves.suffix (h : Leaves q r) : r <:+ q := by
  induction h with
  | all => exact List.suffix_rfl
  | @behind c cs q r rest t hstart hfirst _ ih =>
    obtain ⟨s, hs, -⟩ := exists_source_of_first? hfirst
    have hrest : rest <:+ c :: cs := hs ▸ List.suffix_append s rest
    exact ih.trans (hrest.trans (hstart ▸ List.dropWhile_suffix _))

theorem mem_tokenize_iff : t ∈ tokenize q ↔
    ∃ r c cs rest, Leaves q r ∧ r.trimStart = c :: cs ∧ first? c cs = some (t, rest) := by
  constructor
  case mp =>
    intro h
    induction q using tokenize.induct with
    | case1 q hq =>
      rw [tokenize_of_trimStart_nil hq] at h
      exact absurd h List.not_mem_nil
    | case2 q c cs hq t' rest hfirst ih =>
      rw [tokenize_of_first? hq hfirst] at h
      cases h with
      | head => exact ⟨q, c, cs, rest, .all, hq, hfirst⟩
      | tail _ h =>
        obtain ⟨r, d, ds, rest', hr, htail⟩ := ih h
        exact ⟨r, d, ds, rest', .behind hq hfirst hr, htail⟩
    | case3 q c cs hq hnone =>
      obtain ⟨t', rest, hfirst⟩ := exists_first?_of_trimStart hq
      cases hnone.symm.trans hfirst
  case mpr =>
    rintro ⟨r, c, cs, rest, hleaves, hstart, hfirst⟩
    induction hleaves with
    | all =>
      rw [tokenize_of_first? hstart hfirst]
      exact .head _
    | behind hq hfirst' _ ih =>
      rw [tokenize_of_first? hq hfirst']
      exact .tail _ (ih hstart)

theorem isWhiteSpace_of_trimStart (h : q.trimStart = c :: cs) :
    Unicode.isWhiteSpace c = false := by
  have hhead : c ∈ (q.dropWhile Unicode.isWhiteSpace).head? := congrArg List.head? h
  exact head?_dropWhile hhead

theorem first?_mark_of_apart (h : Apart cs) : first? '!' cs = some (.term false ['!'], cs) := by
  have hnone : part? cs = none := part?_of_apart h
  have hsome : (first? '!' cs).isSome := isSome_first? (by decide)
  have hclosing : ('!' == ')') = false := rfl
  simp only [first?, hclosing, hnone, Bool.false_eq_true, if_false, ite_self,
    Option.isSome_map] at hsome ⊢
  obtain ⟨⟨p, rest⟩, hp⟩ := Option.isSome_iff_exists.mp hsome
  obtain ⟨rfl, rfl⟩ := eq_mark_of_part? hp hnone
  rw [hp]
  rfl

-- A term of a query is without text if, and only if, it is negated and stands for white space
-- directly behind its mark, which begins with no space and reaches up to where a plain term ends.
-- There is none where all white space behind marks begins with a space, and a mark with a space or
-- nothing behind it is a term by itself.
theorem blankTerm_mem_tokenize_iff (q : Text) :
    (∀ negated, .term negated [] ∈ tokenize q ↔ negated = true ∧
      ∃ r w rest, Leaves q r ∧ r.trimStart = '!' :: (w ++ rest) ∧ BlankRun w ∧ EndsPlain rest) ∧
    ((∀ c, Unicode.isWhiteSpace c = true → ['!', c] <:+: q → c = ' ') →
      ∀ negated text, .term negated text ∈ tokenize q → text ≠ []) ∧
    ∀ r cs, Leaves q r → r.trimStart = '!' :: cs → Apart cs → .term false ['!'] ∈ tokenize q := by
  have hblank : ∀ negated, .term negated [] ∈ tokenize q ↔ negated = true ∧
      ∃ r w rest, Leaves q r ∧ r.trimStart = '!' :: (w ++ rest) ∧ BlankRun w ∧
        EndsPlain rest := by
    intro negated
    rw [mem_tokenize_iff]
    constructor
    case mp =>
      rintro ⟨r, c, cs, rest, hleaves, hstart, hfirst⟩
      obtain ⟨rfl, rfl, hpart⟩ :=
        (first?_eq_blank_iff (isWhiteSpace_of_trimStart hstart)).mp hfirst
      obtain ⟨w, rfl, hw, hrest⟩ := part?_eq_blank_iff.mp hpart
      exact ⟨rfl, r, w, rest, hleaves, hstart, hw, hrest⟩
    case mpr =>
      rintro ⟨rfl, r, w, rest, hleaves, hstart, hw, hrest⟩
      have hpart := part?_eq_blank_iff.mpr ⟨w, rfl, hw, hrest⟩
      exact ⟨r, '!', w ++ rest, rest, hleaves, hstart,
        (first?_eq_blank_iff (by decide)).mpr ⟨rfl, rfl, hpart⟩⟩
  refine ⟨hblank, ?text, ?mark⟩
  case text =>
    rintro hspaces negated _ hmem rfl
    obtain ⟨-, r, w, rest, hleaves, hstart, hw, -⟩ := (hblank negated).mp hmem
    obtain ⟨c, w, rfl⟩ := List.exists_cons_of_ne_nil hw.ne_nil
    have hc : Unicode.isWhiteSpace c = true := (Bool.and_eq_true_iff.mp hw.isBlank).1
    have hmark : ['!', c] <:+: r.trimStart := hstart ▸ ⟨[], w ++ rest, rfl⟩
    have hr : r.trimStart <:+: q :=
      (List.dropWhile_suffix _).isInfix.trans hleaves.suffix.isInfix
    exact hw.noSpace (hspaces c hc (hmark.trans hr) ▸ .head w)
  case mark =>
    intro r cs hleaves hstart hcs
    exact mem_tokenize_iff.mpr ⟨r, '!', cs, cs, hleaves, hstart, first?_mark_of_apart hcs⟩

theorem blankTerm_mem_tokenize_iff_marks :
    (∀ c, Unicode.isWhiteSpace c = true → ['!', c] <:+: ['!', ' ', '!', '!', 'a', '\t'] → c = ' ') ∧
    tokenize ['!', ' ', '!', '!', 'a', '\t'] = [.term false ['!'], .term true ['!', 'a']] ∧
    (∀ negated text, .term negated text ∈ tokenize ['!', ' ', '!', '!', 'a', '\t'] → text ≠ []) := by
  have hspaces : ∀ c, Unicode.isWhiteSpace c = true →
      ['!', c] <:+: ['!', ' ', '!', '!', 'a', '\t'] → c = ' ' := by
    intro c hc h
    simp [List.infix_cons_iff] at h
    obtain rfl | rfl | rfl := h
    · rfl
    · exact absurd hc (by decide)
    · exact absurd hc (by decide)
  exact ⟨hspaces, by cbv, (blankTerm_mem_tokenize_iff _).2.1 hspaces⟩

end Tokens

theorem exists_ofText_nil : ∃ s, Term.ofText [] = .ok s ∧ ∀ blob, s.matchesBlob blob = true := by
  have hcheck : ((Term.ofText []).toOption.any fun s =>
      s.pattern.source = [] && s.pattern.scope = .any) = true := by decide
  obtain ⟨s, hs, hpattern⟩ := exists_of_any_toOption hcheck
  simp only [Bool.and_eq_true, decide_eq_true_eq] at hpattern
  obtain ⟨hsource, hscope⟩ := hpattern
  have hparse : Regex.parse? s.pattern.pattern.source = some Regex.empty := by
    rw [show s.pattern.pattern.source = [] from hsource]
    rfl
  have hregex := Regex.Compiled.regex_eq_of_parse? hparse
  refine ⟨s, hs, fun blob => (TermPattern.isMatch_iff_covers hscope).mpr ?_⟩
  rw [hregex]
  exact ⟨[], [], s.visible blob, rfl, Regex.covers_empty.mpr rfl⟩

-- A tab behind a negation mark is read as a term without text. The mark negates it, so the query
-- matches nothing that has a blob.
theorem tokenize_mark_tab : tokenize ['!', '\t'] = [.term true []] ∧
    ∃ q, parse ['!', '\t'] false = .ok q ∧ ∀ blobs, blobs ≠ [] → q.isMatch blobs = false := by
  have htokens : tokenize ['!', '\t'] = [.term true []] := by cbv
  have hnormal : normalize ['!', '\t'] = ['!', '\t'] := normalize_eq_self_of_ascii rfl
  obtain ⟨s, hs, hmatch⟩ := exists_ofText_nil
  have hmembers : membersOfTokens (tokenize (normalize ['!', '\t'])) = .ok [.term s true] := by
    rw [hnormal, htokens]
    exact membersOfTokens_singleton hs
  obtain ⟨highlighter, hh⟩ := exists_highlighter hmembers
  refine ⟨htokens, _, parse_of_members hmembers hh, fun blobs hne => ?_⟩
  obtain ⟨blob, blobs, rfl⟩ := List.exists_cons_of_ne_nil hne
  have hany : (blob :: blobs).any s.matchesBlob = true := by
    rw [List.any_cons, hmatch blob, Bool.true_or]
  simp [isMatch, rootKind, Node.isMatch_all, Node.isMatch_term, hany]

end ExcerptSearch.Query
