import ExcerptSearch.Proofs.Query.Layout
import ExcerptSearch.Proofs.Query.Readers

namespace ExcerptSearch.Query

variable {c o q : Char} {s t u v run rest gap : Text}

def OnlySpaces (t : Text) : Prop :=
  ∀ c ∈ t, Unicode.isWhiteSpace c → c = ' '

theorem OnlySpaces.of_append (h : OnlySpaces (s ++ t)) : OnlySpaces s ∧ OnlySpaces t :=
  ⟨fun c hc => h c (List.mem_append_left t hc), fun c hc => h c (List.mem_append_right s hc)⟩

theorem OnlySpaces.of_cons (h : OnlySpaces (c :: t)) : OnlySpaces t :=
  fun d hd => h d (List.mem_cons_of_mem c hd)

theorem OnlySpaces.isWhiteSpace_eq_false (h : OnlySpaces t) (hc : c ∈ t) (hne : c ≠ ' ') :
    Unicode.isWhiteSpace c = false :=
  Bool.eq_false_iff.mpr fun hw => hne (h c hc hw)

section Trim

theorem dropEndWhile_cons {p : Char → Bool} (hc : p c = false) :
    Text.dropEndWhile p (c :: t) = c :: Text.dropEndWhile p t := by
  simp only [Text.dropEndWhile, List.reverse_cons, List.dropWhile_append]
  split
  case isTrue h => simp_all
  case isFalse => simp

theorem trim_cons (hc : Unicode.isWhiteSpace c = false) : Text.trim (c :: t) = c :: t.trimEnd := by
  simp only [Text.trim, Text.trimStart, Text.trimEnd]
  rw [List.dropWhile_cons_of_neg (by simp [hc]), dropEndWhile_cons hc]

theorem trim_of_ends (hfirst : ∀ c ∈ t.head?, Unicode.isWhiteSpace c = false)
    (hlast : ∀ c ∈ t.getLast?, Unicode.isWhiteSpace c = false) : t.trim = t := by
  rw [Text.trim, Text.trimStart, dropWhile_of_stop hfirst, Text.trimEnd, dropEndWhile_of_stop hlast]

theorem trim_bracketed {d : Char} (hc : Unicode.isWhiteSpace c = false)
    (hd : Unicode.isWhiteSpace d = false) : Text.trim (c :: t ++ [d]) = c :: t ++ [d] := by
  apply trim_of_ends
  · exact fun e he => Option.some.inj he ▸ hc
  · rw [List.getLast?_concat]
    exact fun e he => Option.some.inj he ▸ hd

theorem prefix_of_trimEnd (t : Text) : t.trimEnd <+: t := by
  have h := List.dropWhile_suffix Unicode.isWhiteSpace (l := t.reverse)
  simpa [Text.trimEnd, Text.dropEndWhile] using List.reverse_prefix.mpr h

theorem exists_trim (t : Text) :
    ∃ w₁ w₂ : Text, w₁.isBlank ∧ w₂.isBlank ∧ t = w₁ ++ t.trim ++ w₂ := by
  let u := t.trimStart
  have hstart : t.takeWhile Unicode.isWhiteSpace ++ u = t := List.takeWhile_append_dropWhile
  have hend : u.trimEnd ++ (u.reverse.takeWhile Unicode.isWhiteSpace).reverse = u := by
    simp only [Text.trimEnd, Text.dropEndWhile, ← List.reverse_append]
    rw [List.takeWhile_append_dropWhile, List.reverse_reverse]
  refine ⟨t.takeWhile Unicode.isWhiteSpace, (u.reverse.takeWhile Unicode.isWhiteSpace).reverse,
    List.all_takeWhile, ?_, ?_⟩
  · rw [Text.isBlank, List.all_reverse]
    exact List.all_takeWhile
  · rw [List.append_assoc, Text.trim, hend, hstart]

theorem trimEnd_trimEnd (t : Text) : t.trimEnd.trimEnd = t.trimEnd := by
  simp only [Text.trimEnd, Text.dropEndWhile, List.reverse_reverse]
  rw [dropWhile_of_stop fun _ hc => head?_dropWhile hc]

end Trim

section Respacing

-- `Respaced s t` says that `t` is `s` with spaces left out or put in, and with `&` put in.
inductive Respaced : Text → Text → Prop
  | nil : Respaced [] []
  | same {c : Char} {s t : Text} : Respaced s t → Respaced (c :: s) (c :: t)
  | dropped {s t : Text} : Respaced s t → Respaced (' ' :: s) t
  | added {c : Char} {s t : Text} : c = ' ' ∨ c = '&' → Respaced s t → Respaced s (c :: t)

namespace Respaced

theorem refl : (t : Text) → Respaced t t
  | []     => .nil
  | _ :: t => .same (refl t)

theorem append (h₁ : Respaced s t) (h₂ : Respaced u v) : Respaced (s ++ u) (t ++ v) := by
  induction h₁ with
  | nil => exact h₂
  | same _ ih => exact .same ih
  | dropped _ ih => exact .dropped ih
  | added hc _ ih => exact .added hc ih

theorem of_spaces (h : ∀ c ∈ s, c = ' ') : Respaced s [] := by
  induction s with
  | nil => exact .nil
  | cons c s ih =>
    have hc : c = ' ' := h c List.mem_cons_self
    rw [hc]
    exact .dropped (ih fun d hd => h d (List.mem_cons_of_mem c hd))

theorem mem (h : Respaced s t) (hne : c ≠ ' ') (hc : c ∈ s) : c ∈ t := by
  induction h with
  | nil => exact hc
  | same _ ih =>
    cases List.mem_cons.mp hc with
    | inl he => exact he ▸ List.mem_cons_self
    | inr hc => exact List.mem_cons_of_mem _ (ih hc)
  | dropped _ ih =>
    cases List.mem_cons.mp hc with
    | inl he => exact absurd he hne
    | inr hc => exact ih hc
  | added _ _ ih => exact List.mem_cons_of_mem _ (ih hc)

theorem split (h : Respaced s (t ++ q :: v)) (hq : q ≠ ' ' ∧ q ≠ '&') :
    ∃ s₁ s₂, s = s₁ ++ q :: s₂ ∧ Respaced s₁ t := by
  generalize hw : t ++ q :: v = w at h
  induction h generalizing t with
  | nil => simp at hw
  | @same c s w hs ih =>
    cases t with
    | nil =>
      have ⟨hqc, _⟩ := List.cons.inj hw
      exact ⟨[], s, by simp [hqc], .nil⟩
    | cons d t =>
      have ⟨hdc, hw⟩ := List.cons.inj hw
      have ⟨s₁, s₂, hs, hsplit⟩ := ih hw
      exact ⟨c :: s₁, s₂, by simp [hs], hdc ▸ .same hsplit⟩
  | dropped _ ih =>
    have ⟨s₁, s₂, hs, hsplit⟩ := ih hw
    exact ⟨' ' :: s₁, s₂, by simp [hs], .dropped hsplit⟩
  | @added c s w hc hs ih =>
    cases t with
    | nil =>
      have ⟨hqc, _⟩ := List.cons.inj hw
      exact absurd hc (by simp [← hqc, hq])
    | cons d t =>
      have ⟨hdc, hw⟩ := List.cons.inj hw
      have ⟨s₁, s₂, hs, hsplit⟩ := ih hw
      exact ⟨s₁, s₂, hs, hdc ▸ .added hc hsplit⟩

theorem trim (h : OnlySpaces t) : Respaced t t.trim := by
  have ⟨w₁, w₂, hw₁, hw₂, ht⟩ := exists_trim t
  have hspaces : ∀ w : Text, w.isBlank → (∀ c ∈ w, c ∈ t) → ∀ c ∈ w, c = ' ' :=
    fun w hw hsub c hc => h c (hsub c hc) (List.all_eq_true.mp hw c hc)
  have h₁ := of_spaces (hspaces w₁ hw₁ fun c hc => by rw [ht]; simp [hc])
  have h₂ := of_spaces (hspaces w₂ hw₂ fun c hc => by rw [ht]; simp [hc])
  have htrim := (h₁.append (refl t.trim)).append h₂
  rwa [← ht, List.nil_append, List.append_nil] at htrim

end Respaced

def spaced (ts : List Token) : Text :=
  ts.flatMap fun t => ' ' :: t.print

theorem apart_spaced (ts : List Token) : Apart (spaced ts) := by
  cases ts with
  | nil => exact .nil
  | cons => exact .space

theorem join_print (t : Token) (ts : List Token) :
    Text.join [' '] ((t :: ts).map Token.print) = t.print ++ spaced ts := by
  induction ts generalizing t with
  | nil => simp [Text.join, spaced]
  | cons t' ts ih =>
    have hjoin : Text.join [' '] ((t :: t' :: ts).map Token.print) =
        t.print ++ ' ' :: Text.join [' '] ((t' :: ts).map Token.print) := by
      simp [Text.join]
    rw [hjoin, ih]
    rfl

theorem respaced_of_source {t : Token} (h : Source t s) (hs : OnlySpaces s) :
    Respaced s t.print := by
  cases h with
  | closing => exact .refl _
  | @opening kind negated s hm =>
    apply (Respaced.refl (negationMark negated)).append
    cases kind with
    | all =>
      simp only [groupMarks, List.mem_cons, List.not_mem_nil, or_false] at hm
      cases hm with
      | inl hm => exact hm ▸ .added (.inr rfl) (.refl _)
      | inr hm => exact hm ▸ .refl _
    | any => exact List.mem_singleton.mp hm ▸ .refl _
    | single => exact List.mem_singleton.mp hm ▸ .refl _
  | term => exact (Respaced.refl _).append (.trim hs.of_append.2)

theorem respaced_of_laid {ts : List Token} (h : Laid ts t) (ht : OnlySpaces t) :
    Respaced t (spaced ts) := by
  induction h with
  | nil hw => exact .of_spaces fun c hc => ht c hc (List.all_eq_true.mp hw c hc)
  | @cons t ts w s q hw hsource _ ih =>
    have ⟨hws, hq⟩ := ht.of_append
    have ⟨hwspaces, hs⟩ := hws.of_append
    have hblank : Respaced w [' '] :=
      .added (.inl rfl) (.of_spaces fun c hc => hwspaces c hc (List.all_eq_true.mp hw c hc))
    have hspaced : spaced (t :: ts) = [' '] ++ t.print ++ spaced ts := rfl
    rw [hspaced]
    exact (hblank.append (respaced_of_source hsource hs)).append (ih hq)

end Respacing

section Parts

theorem enclosed?_of_respaced (hq : q ≠ ' ' ∧ q ≠ '&') (hspace : ' ' ∉ run) (hne : run ≠ [])
    (h : Respaced rest gap) (hgap : Apart gap) (hnone : enclosed? o q (run ++ rest) = none) :
    enclosed? o q (run ++ gap) = none := by
  by_contra hsome
  have ⟨⟨s, gap'⟩, hsome⟩ := Option.ne_none_iff_exists'.mp hsome
  have ⟨hform, heq⟩ := enclosed?_eq_some_iff.mp hsome
  -- It is enough to find a field in the text as it was.
  suffices hfield : ∃ s' rest', FieldForm o q s' ∧ run ++ rest = s' ++ rest' by
    have ⟨s', rest', hfield⟩ := hfield
    exact nomatch hnone.symm.trans (enclosed?_eq_some_iff.mpr hfield)
  have ⟨c, tail, hrun⟩ := List.exists_cons_of_ne_nil hne
  have hspace' : ' ' ∉ tail := fun hm => hspace (hrun ▸ List.mem_cons_of_mem c hm)
  have hdrop : ∀ u : Text, (tail ++ u).dropWhile (· != ' ') = u.dropWhile (· != ' ') :=
    fun u => List.dropWhile_append_of_pos (bne_of_not_mem hspace')
  cases hform with
  | @mk body hbody hstops =>
    have ⟨hc, htail⟩ : c = o ∧ tail ++ gap = body ++ q :: gap' := by simpa [hrun] using heq
    cases List.append_eq_append_iff.mp htail with
    | inl h' =>
      -- The field ends behind the run, so it takes the beginning `u` of what was respaced.
      have ⟨u, hu, hgap'⟩ := h'
      have ⟨r₁, r₂, hrest, hr⟩ := (hgap' ▸ h).split hq
      have hapart : Apart u := by
        cases u with
        | nil => exact .nil
        | cons d u =>
          cases hgap with
          | nil => exact nomatch hgap'
          | space => exact (List.cons.inj hgap').1 ▸ .space
      refine ⟨o :: (tail ++ r₁) ++ [q], r₂, .mk ?_ ?_, by simp [hrun, hc, hrest]⟩
      · intro hm
        cases List.mem_append.mp hm with
        | inl hm => exact hbody (hu ▸ List.mem_append_left u hm)
        | inr hm => exact hbody (hu ▸ List.mem_append_right tail (hr.mem hq.1 hm))
      · intro d hd hstop
        have hne : d ≠ ' ' := fun he => absurd hstop (by rw [he]; decide)
        have hdu : d ∈ u := hr.mem hne ((List.dropWhile_suffix _).subset (hdrop r₁ ▸ hd))
        have hall : body.dropWhile (· != ' ') = u := by
          rw [hu, hdrop]
          exact dropWhile_of_stop (hapart.stop rfl)
        exact hstops d (hall ▸ hdu) hstop
    | inr h' =>
      -- The field ends in the run.
      have ⟨u, hu, hgap'⟩ := h'
      cases u with
      | nil =>
        cases hgap with
        | nil => exact nomatch hgap'
        | space => exact absurd (List.cons.inj hgap').1 hq.1
      | cons d u =>
        have ⟨hd, _⟩ := List.cons.inj hgap'
        exact ⟨o :: body ++ [q], u ++ rest, .mk hbody hstops, by simp [hrun, hc, hu, hd]⟩

theorem tagField?_of_respaced (hspace : ' ' ∉ run) (h : Respaced rest gap) (hgap : Apart gap)
    (hnone : tagField? (run ++ rest) = none) : tagField? (run ++ gap) = none := by
  rw [tagField?_eq_none_iff] at hnone ⊢
  rw [List.dropWhile_append] at hnone ⊢
  split
  case isTrue =>
    cases hgap with
    | nil => rfl
    | space => exact enclosed?_of_head (by simp)
  case isFalse hne =>
    rw [if_neg hne] at hnone
    have hspace' : ' ' ∉ run.dropWhile (· == '/') :=
      fun hm => hspace ((List.dropWhile_suffix _).subset hm)
    exact enclosed?_of_respaced (by decide) hspace' (by simpa using hne) h hgap hnone

theorem part?_of_source? (ho : opening? (s ++ gap) = none)
    (hs : source? (s ++ gap) = some (s, gap)) (htrim : s.trim = s) :
    part? (s.trim ++ gap) = some (.term s.trim, gap) := by
  simp [part?, htrim, ho, hs]

theorem isWhiteSpace_quote (hq : q = '"' ∨ q = '`') : Unicode.isWhiteSpace q = false := by
  cases hq with
  | inl hq => exact hq ▸ rfl
  | inr hq => exact hq ▸ rfl

theorem part?_of_quoted? (hq : q = '"' ∨ q = '`') (hread : quoted? q (s ++ gap) = some (s, gap))
    (hs : s.head? = some q) (htrim : s.trim = s) :
    part? (s.trim ++ gap) = some (.term s.trim, gap) := by
  have ⟨u, hu⟩ := List.head?_eq_some_iff.mp hs
  have ho : opening? (s ++ gap) = none := by
    rw [hu]
    exact opening?_of_quote_or_bracket (by grind)
  apply part?_of_source? ho ?_ htrim
  cases hq with
  | inl hq =>
    rw [hq] at hread
    rw [source?, hread]
    rfl
  | inr hq =>
    rw [hq] at hread
    have hdouble : quoted? '"' (s ++ gap) = none := quoted?_of_head (by simp [hu, hq])
    rw [source?, hdouble, hread]
    rfl

theorem part?_quotation (hq : q = '"' ∨ q = '`') (hread : quoted? q t = some (s, rest))
    (hend : rest = [] → gap = []) : part? (s.trim ++ gap) = some (.term s.trim, gap) := by
  have hblack := isWhiteSpace_quote hq
  have ⟨body, hbody, hform⟩ := quoted?_cases hread
  cases hform with
  | inl hs =>
    apply part?_of_quoted? hq
    · rw [hs, List.append_assoc]
      exact quoted?_closed hbody
    · rw [hs]
      rfl
    · exact hs ▸ trim_bracketed hblack hblack
  | inr hs =>
    have hbody' : q ∉ body.trimEnd := fun hm => hbody ((prefix_of_trimEnd body).subset hm)
    have htrim : s.trim = q :: body.trimEnd := by rw [hs.1, trim_cons hblack]
    have htrim' : Text.trim (q :: body.trimEnd) = q :: body.trimEnd := by
      rw [trim_cons hblack, trimEnd_trimEnd]
    rw [htrim, hend hs.2, ← htrim']
    apply part?_of_quoted? hq ?_ rfl htrim'
    rw [List.append_nil]
    exact quoted?_unclosed hbody'

theorem part?_field (h : FieldForm '{' '}' s) :
    part? (s.trim ++ gap) = some (.term s.trim, gap) := by
  have hread := enclosed?_eq_some_iff.mpr ⟨h, (rfl : s ++ gap = _)⟩
  have hhead := h.head? (t := gap)
  have hdouble : quoted? '"' (s ++ gap) = none := quoted?_of_head (by simp [hhead])
  have hback : quoted? '`' (s ++ gap) = none := quoted?_of_head (by simp [hhead])
  have hsource : source? (s ++ gap) = some (s, gap) := by
    rw [source?, hdouble, hback, hread]
    rfl
  cases h with
  | mk => exact part?_of_source? rfl hsource (trim_bracketed rfl rfl)

theorem part?_tag (h : TagForm s) (hgap : Apart gap) :
    part? (s.trim ++ gap) = some (.term s.trim, gap) := by
  have hread := tagField?_append h hgap
  have hhead := h.head? (t := gap)
  have hne : ∀ {c}, c ≠ '/' → c ≠ '[' → (s ++ gap).head? ≠ some c := by
    intro c hslash hopen hc
    rw [hc] at hhead
    simp [hslash, hopen] at hhead
  have hdouble : quoted? '"' (s ++ gap) = none := quoted?_of_head (hne (by decide) (by decide))
  have hback : quoted? '`' (s ++ gap) = none := quoted?_of_head (hne (by decide) (by decide))
  have hbrace : enclosed? '{' '}' (s ++ gap) = none :=
    enclosed?_of_head (hne (by decide) (by decide))
  have hsource : source? (s ++ gap) = some (s, gap) := by
    rw [source?, hdouble, hback, hbrace, hread]
    rfl
  have ho : opening? (s ++ gap) = none := by
    obtain ⟨c, u, hc, hu⟩ : ∃ c u, (c = '/' ∨ c = '[') ∧ s ++ gap = c :: u := by
      simp only [List.head?_eq_some_iff] at hhead
      grind
    rw [hu]
    exact opening?_of_quote_or_bracket (by grind)
  apply part?_of_source? ho hsource
  apply trim_of_ends
  case hfirst =>
    intro c hc
    have hfirst := h.head? (t := [])
    rw [List.append_nil, hc] at hfirst
    cases hfirst with
    | inl hfirst => exact Option.some.inj hfirst ▸ rfl
    | inr hfirst => exact Option.some.inj hfirst ▸ rfl
  case hlast =>
    intro c hc
    obtain rfl | rfl | rfl := h.getLast? hc
    all_goals rfl

theorem part?_plain (hne : run ≠ []) (hrun : PlainForm run) (hspaces : OnlySpaces run)
    (h : Respaced rest gap) (hgap : Apart gap) (hdouble : quoted? '"' (run ++ rest) = none)
    (hback : quoted? '`' (run ++ rest) = none) (hfield : enclosed? '{' '}' (run ++ rest) = none)
    (htag : tagField? (run ++ rest) = none) :
    part? (run.trim ++ gap) = some (.term run.trim, gap) := by
  have ⟨c, u, hu⟩ := List.exists_cons_of_ne_nil hne
  have hquoted : ∀ {q}, quoted? q (run ++ rest) = none → quoted? q (run ++ gap) = none := by
    intro q hnone
    apply quoted?_of_head
    intro hc
    have hcq : c = q := by simpa [hu] using hc
    simp [hu, hcq, quoted?] at hnone
  have hsource : source? (run ++ gap) = some (run, gap) := by
    rw [source?, hquoted hdouble, hquoted hback,
      enclosed?_of_respaced (by decide) hrun.1 hne h hgap hfield,
      tagField?_of_respaced hrun.1 h hgap htag, plain?_append hne hrun hgap]
    rfl
  apply part?_of_source? (opening?_of_not_mem hrun.2.1 hgap) hsource
  have hblack : ∀ c ∈ run, Unicode.isWhiteSpace c = false := fun c hc =>
    hspaces.isWhiteSpace_eq_false hc fun he => hrun.1 (he ▸ hc)
  exact trim_of_ends (fun c hc => hblack c (List.mem_of_mem_head? hc))
    fun c hc => hblack c (List.mem_of_mem_getLast? hc)

theorem part?_respaced {p : Part} (hp : part? t = some (p, rest)) (ht : OnlySpaces t)
    (h : Respaced rest gap) (hgap : Apart gap) (hend : rest = [] → gap = []) :
    part? ((p.token false).print ++ gap) = some (p, gap) := by
  simp only [part?] at hp
  split at hp
  case h_1 kind rest' hopening =>
    obtain ⟨hp, _⟩ := Prod.mk.inj (Option.some.inj hp)
    rw [← hp]
    cases kind
    all_goals rfl
  case h_2 =>
    obtain ⟨⟨s, rest'⟩, hsource, hp⟩ := Option.map_eq_some_iff.mp hp
    obtain ⟨hp, hrest⟩ := Prod.mk.inj hp
    have hprint : (p.token false).print = s.trim := by rw [← hp]; rfl
    rw [hprint, ← hp]
    simp only at hrest
    rw [hrest] at hsource
    obtain ⟨hs, hne⟩ := eq_append_of_source? hsource
    simp only [source?, Option.or_eq_some_iff] at hsource
    obtain hread | ⟨hdouble, hread | ⟨hback, hread | ⟨hfield, hread | ⟨htag, hread⟩⟩⟩⟩ := hsource
    · exact part?_quotation (.inl rfl) hread hend
    · exact part?_quotation (.inr rfl) hread hend
    · exact part?_field (enclosed?_eq_some_iff.mp hread).1
    · exact part?_tag (tagField?_form hread) hgap
    · rw [hs] at ht hdouble hback hfield htag
      exact part?_plain hne (plain?_form hread) ht.of_append.1 h hgap hdouble hback hfield htag

end Parts

section Tokens

theorem eq_mark_of_part? {p : Part} (h : part? ('!' :: t) = some (p, rest))
    (hnone : part? t = none) :
    p = .term ['!'] ∧ rest = t := by
  have hopening : opening? t = none := by
    cases ho : opening? t with
    | none => rfl
    | some => simp [part?, ho] at hnone
  have hplain : (plain t).1 = [] := by
    have hsource : source? t = none := by simpa [part?, hopening] using hnone
    simp only [source?, Option.or_eq_none_iff, plain?] at hsource
    simpa using hsource.2.2.2.2
  have hrest : (plain t).2 = t := by
    have happend := eq_append_plain t
    rw [hplain] at happend
    exact happend.symm
  have hmark : source? ('!' :: t) = some (['!'], t) := by
    have hread : plain? ('!' :: t) = some (['!'], t) := by
      simp [plain?, plain, endsPlain, hopening, hplain, hrest]
    rw [source?, quoted?_of_head (by simp), quoted?_of_head (by simp), enclosed?_of_head (by simp),
      tagField?_of_head (by simp) (by simp), hread]
    rfl
  have hpart : part? ('!' :: t) = some (.term ['!'], t) := by
    rw [part?, hmark]
    rfl
  obtain ⟨hp, hrest⟩ := Prod.mk.inj (Option.some.inj (h.symm.trans hpart))
  exact ⟨hp, hrest⟩

theorem part?_of_apart (hgap : Apart gap) : part? gap = none := by
  cases hgap with
  | nil => rfl
  | @space t =>
    have hread : plain? (' ' :: t) = none := by simp [plain?, plain, endsPlain]
    have hsource : source? (' ' :: t) = none := by
      rw [source?, quoted?_of_head (by simp), quoted?_of_head (by simp),
        enclosed?_of_head (by simp), tagField?_of_head (by simp) (by simp), hread]
      rfl
    rw [part?, hsource]
    rfl

theorem part?_cases {p : Part} (h : part? (c :: t) = some (p, rest))
    (hc : Unicode.isWhiteSpace c = false) :
    (∃ kind, p = .opening kind) ∨ ∃ s, p = .term (c :: s) := by
  simp only [part?] at h
  split at h
  case h_1 kind _ _ =>
    obtain ⟨hp, _⟩ := Prod.mk.inj (Option.some.inj h)
    exact .inl ⟨kind, hp.symm⟩
  case h_2 =>
    obtain ⟨⟨s, rest'⟩, hsource, h⟩ := Option.map_eq_some_iff.mp h
    obtain ⟨hp, _⟩ := Prod.mk.inj h
    obtain ⟨hs, hne⟩ := eq_append_of_source? hsource
    obtain ⟨d, s', hs'⟩ := List.exists_cons_of_ne_nil hne
    have hd : c = d := by
      rw [hs'] at hs
      exact (List.cons.inj hs).1
    exact .inr ⟨Text.trimEnd s', by rw [← hp, hs', ← hd, trim_cons hc]⟩

theorem first?_respaced {k : Token} (h : first? c t = some (k, rest)) (ht : OnlySpaces (c :: t))
    (hc : Unicode.isWhiteSpace c = false) (hr : Respaced rest gap) (hgap : Apart gap)
    (hend : rest = [] → gap = []) : ∃ d u, k.print ++ gap = d :: u ∧
      Unicode.isWhiteSpace d = false ∧ first? d u = some (k, gap) := by
  simp only [first?] at h
  split at h
  case isTrue =>
    obtain ⟨hk, _⟩ := Prod.mk.inj (Option.some.inj h)
    exact hk ▸ ⟨')', gap, rfl, rfl, rfl⟩
  case isFalse hclose =>
    split at h
    case h_1 p rest' hp =>
      obtain ⟨hk, hrest⟩ := Prod.mk.inj (Option.some.inj h)
      split at hp
      case isFalse => cases hp
      case isTrue =>
        have hpart := part?_respaced (hrest ▸ hp) ht.of_cons hr hgap hend
        have hprint : (p.token true).print = '!' :: (p.token false).print := by
          cases p
          all_goals rfl
        refine ⟨'!', (p.token false).print ++ gap, by rw [← hk, hprint]; rfl, rfl, ?_⟩
        simp [first?, hpart, hk]
    case h_2 hnone =>
      obtain ⟨⟨p, rest'⟩, hp, h⟩ := Option.map_eq_some_iff.mp h
      obtain ⟨hk, hrest⟩ := Prod.mk.inj h
      simp only at hrest
      rw [hrest] at hp
      have hpart := part?_respaced hp ht hr hgap hend
      rw [← hk]
      by_cases hmark : c = '!'
      case pos =>
        rw [hmark] at hp hnone
        obtain ⟨hp', _⟩ := eq_mark_of_part? hp (by simpa using hnone)
        rw [hp'] at hpart ⊢
        have hread : part? ('!' :: gap) = some (.term ['!'], gap) := hpart
        exact ⟨'!', gap, rfl, rfl, by simp [first?, part?_of_apart hgap, hread]⟩
      case neg =>
        cases part?_cases hp hc with
        | inl hopening =>
          obtain ⟨kind, hp'⟩ := hopening
          rw [hp']
          cases kind
          all_goals exact ⟨_, '(' :: gap, rfl, rfl, rfl⟩
        | inr hterm =>
          obtain ⟨s, hp'⟩ := hterm
          rw [hp'] at hpart ⊢
          refine ⟨c, s ++ gap, rfl, hc, ?_⟩
          have hread : part? (c :: (s ++ gap)) = some (.term (c :: s), gap) := hpart
          simp [first?, hclose, hmark, hread]

end Tokens

theorem tokenize_congr (h : s.trimStart = t.trimStart) : tokenize s = tokenize t := by
  cases ht : t.trimStart with
  | nil => rw [tokenize_of_trimStart_nil ht, tokenize_of_trimStart_nil (h.trans ht)]
  | cons c cs =>
    have ⟨k, rest, hfirst⟩ := exists_first?_of_trimStart ht
    rw [tokenize_of_first? ht hfirst, tokenize_of_first? (h.trans ht) hfirst]

theorem tokenize_spaced (ts : List Token) :
    tokenize (spaced ts) = tokenize (Text.join [' '] (ts.map Token.print)) := by
  cases ts with
  | nil => rfl
  | cons t ts =>
    rw [join_print]
    exact tokenize_congr rfl

-- Printed with a space between any two, the tokens of a query are the tokens of what is printed.
theorem tokenize_join_print (q : Text) (hq : ∀ c ∈ q, Unicode.isWhiteSpace c → c = ' ') :
    tokenize (Text.join [' '] ((tokenize q).map Token.print)) = tokenize q := by
  induction q using tokenize.induct with
  | case1 q h =>
    rw [tokenize_of_trimStart_nil h]
    exact tokenize_of_trimStart_nil rfl
  | case2 q c cs h k rest hfirst ih =>
    have hq' : OnlySpaces (c :: cs) := fun d hd => hq d ((List.dropWhile_suffix _).subset (h ▸ hd))
    have hrest : OnlySpaces rest := by
      obtain ⟨s, hs, _⟩ := exists_source_of_first? hfirst
      exact (hs ▸ hq').of_append.2
    have hc : Unicode.isWhiteSpace c = false := head?_dropWhile (t := q) (congrArg List.head? h)
    have hend : rest = [] → spaced (tokenize rest) = [] := by
      intro hnil
      rw [hnil, tokenize_of_trimStart_nil rfl]
      rfl
    obtain ⟨d, u, hprint, hd, hread⟩ := first?_respaced hfirst hq' hc
      (respaced_of_laid (laid_tokenize rest) hrest) (apart_spaced _) hend
    rw [tokenize_of_first? h hfirst, join_print, hprint,
      tokenize_of_first? (trimStart_cons hd) hread, tokenize_spaced, ih hrest]
  | case3 q c cs h hfirst =>
    obtain ⟨t, rest, hfirst'⟩ := exists_first?_of_trimStart h
    cases hfirst.symm.trans hfirst'

theorem tokenize_join_print_fields :
    (∀ c ∈ ['[', 'a', '(', ' ', '[', 'b', ']', '"', ' '], Unicode.isWhiteSpace c → c = ' ') ∧
    tokenize ['[', 'a', '(', ' ', '[', 'b', ']', '"', ' '] = [.term false ['[', 'a'],
      .opening .all false, .term false ['[', 'b', ']'], .term false ['"']] ∧
    tokenize ['[', 'a', ' ', '&', '(', ' ', '[', 'b', ']', ' ', '"'] = [.term false ['[', 'a'],
      .opening .all false, .term false ['[', 'b', ']'], .term false ['"']] := by
  have hall : ['[', 'a', '(', ' ', '[', 'b', ']', '"', ' '].all
      (fun c => !Unicode.isWhiteSpace c || c == ' ') = true := by decide
  have hspaces : ∀ c ∈ ['[', 'a', '(', ' ', '[', 'b', ']', '"', ' '],
      Unicode.isWhiteSpace c → c = ' ' := by
    intro c hc hspace
    simpa [hspace] using List.all_eq_true.mp hall c hc
  have htokens : tokenize ['[', 'a', '(', ' ', '[', 'b', ']', '"', ' '] = [.term false ['[', 'a'],
      .opening .all false, .term false ['[', 'b', ']'], .term false ['"']] := by cbv
  have hback := tokenize_join_print _ hspaces
  rw [htokens] at hback
  exact ⟨hspaces, htokens, hback⟩

end ExcerptSearch.Query
