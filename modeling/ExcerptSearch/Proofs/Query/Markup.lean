import ExcerptSearch.Proofs.Query.Runs
import Mathlib.Data.List.Basic

namespace ExcerptSearch.Highlighter

open Regex

-- `Tagged ts t` says that `t` is made of characters other than angle brackets, and of tags with the
-- bodies `ts`.
inductive Tagged : List Text → Text → Prop
  | nil : Tagged [] []
  | char {c : Char} {ts : List Text} {t : Text} : c ≠ '<' → c ≠ '>' → Tagged ts t →
    Tagged ts (c :: t)
  | tag {body : Text} {ts : List Text} {t : Text} : '<' ∉ body → '>' ∉ body → Tagged ts t →
    Tagged (body :: ts) ('<' :: (body ++ '>' :: t))

def isOther (body : Text) : Bool :=
  body != ['b'] && body != ['/', 'b']

variable {ts ts' : List Text} {s t u v html body : Text} {c : Char}

namespace Tagged

theorem append (h : Tagged ts s) (h' : Tagged ts' t) : Tagged (ts ++ ts') (s ++ t) := by
  induction h with
  | nil => exact h'
  | char hopen hclose _ ih => exact .char hopen hclose ih
  | @tag body ts s hopen hclose _ ih =>
    have htag := Tagged.tag hopen hclose ih
    rw [← List.cons_append, List.append_assoc]
    exact htag

theorem of_plain (hopen : '<' ∉ t) (hclose : '>' ∉ t) : Tagged [] t := by
  induction t with
  | nil => exact .nil
  | cons c t ih =>
    simp only [List.mem_cons, not_or] at hopen hclose
    exact .char (Ne.symm hopen.1) (Ne.symm hclose.1) (ih hopen.2 hclose.2)

theorem eq_nil (h : Tagged ts t) (hopen : '<' ∉ t) : ts = [] := by
  induction h with
  | nil => rfl
  | char _ _ _ ih => exact ih fun hm => hopen (.tail _ hm)
  | tag => exact absurd (.head _) hopen

theorem tail (h : Tagged ts (c :: t)) (hc : c ≠ '<') : c ≠ '>' ∧ Tagged ts t := by
  cases h with
  | char _ hclose h => exact ⟨hclose, h⟩
  | tag => exact absurd rfl hc

theorem not_close (h : Tagged ts (s ++ '>' :: t)) (hs : '<' ∉ s) : False := by
  induction s with
  | nil => exact (h.tail (by decide)).1 rfl
  | cons c s ih =>
    simp only [List.mem_cons, not_or] at hs
    exact ih (h.tail (Ne.symm hs.1)).2 hs.2

theorem of_tag (h : Tagged ts ('<' :: (body ++ '>' :: t))) (hbody : '>' ∉ body) :
    '<' ∉ body ∧ ∃ ts', ts = body :: ts' ∧ Tagged ts' t := by
  generalize hu : body ++ '>' :: t = u at h
  cases h with
  | char hne => exact absurd rfl hne
  | tag hopen hclose h =>
    obtain ⟨rfl, rfl⟩ := Text.append_stop_inj hbody hclose hu
    exact ⟨hopen, _, rfl, h⟩

theorem cut (h : Tagged ts (u ++ v)) :
    (∃ ts₁ ts₂, ts = ts₁ ++ ts₂ ∧ Tagged ts₁ u ∧ Tagged ts₂ v) ∨
    ∃ s b s' t, u = s ++ '<' :: b ∧ '>' ∉ b ∧ v = s' ++ '>' :: t ∧ '<' ∉ s' := by
  generalize ht : u ++ v = t at h
  induction h generalizing u with
  | nil =>
    obtain ⟨rfl, rfl⟩ := List.append_eq_nil_iff.mp ht
    exact .inl ⟨[], [], rfl, .nil, .nil⟩
  | @char c ts t hopen hclose h ih =>
    cases u with
    | nil =>
      obtain rfl := ht
      exact .inl ⟨[], ts, rfl, .nil, .char hopen hclose h⟩
    | cons d u =>
      obtain ⟨rfl, hu⟩ := List.cons.inj ht
      obtain ⟨ts₁, ts₂, rfl, h₁, h₂⟩ | ⟨s, b, s', t', rfl, hb, hv, hs'⟩ := ih hu
      · exact .inl ⟨ts₁, ts₂, rfl, .char hopen hclose h₁, h₂⟩
      · exact .inr ⟨d :: s, b, s', t', rfl, hb, hv, hs'⟩
  | @tag body ts t hopen hclose h ih =>
    cases u with
    | nil =>
      obtain rfl := ht
      exact .inl ⟨[], body :: ts, rfl, .nil, .tag hopen hclose h⟩
    | cons d u =>
      obtain ⟨rfl, hu⟩ := List.cons.inj ht
      obtain ⟨b, rfl, hv⟩ | ⟨b, rfl, hv⟩ := List.append_eq_append_iff.mp hu
      · refine .inr ⟨[], u, b, t, rfl, fun hm => hclose ?_, hv, fun hm => hopen ?_⟩
        · exact List.mem_append_left b hm
        · exact List.mem_append_right u hm
      · cases b with
        | nil => exact .inr ⟨[], body, [], t, by simp, hclose, hv.symm, by simp⟩
        | cons e b =>
          obtain ⟨rfl, rfl⟩ := List.cons.inj hv
          obtain ⟨ts₁, ts₂, rfl, h₁, h₂⟩ | ⟨s, b', s', t', rfl, hb, hv, hs'⟩ := ih rfl
          · exact .inl ⟨body :: ts₁, ts₂, rfl, .tag hopen hclose h₁, h₂⟩
          · exact .inr ⟨'<' :: (body ++ '>' :: s), b', s', t', by simp, hb, hv, hs'⟩

theorem split (h : Tagged ts (u ++ v)) (hv : Tagged ts' v) :
    ∃ ts₁ ts₂, ts = ts₁ ++ ts₂ ∧ Tagged ts₁ u ∧ Tagged ts₂ v := by
  obtain h | ⟨_, _, s, t, _, _, rfl, hs⟩ := h.cut
  · exact h
  · exact absurd hs hv.not_close

theorem split_close (h : Tagged ts (u ++ ['>'] ++ v)) :
    ∃ ts₁ ts₂, ts = ts₁ ++ ts₂ ∧ Tagged ts₁ (u ++ ['>']) ∧ Tagged ts₂ v := by
  obtain h | ⟨s, b, _, _, hu, hb, _⟩ := h.cut
  · exact h
  · have hlast := congrArg List.getLast? hu
    simp only [List.getLast?_append_cons] at hlast
    have hmem := List.mem_of_getLast? hlast.symm
    exact absurd hmem (by simpa using hb)

end Tagged

theorem tagged_openBold : Tagged [['b']] openBold :=
  .tag (by decide) (by decide) .nil

theorem tagged_closeBold : Tagged [['/', 'b']] closeBold :=
  .tag (by decide) (by decide) .nil

inductive Aligned : List Text → List Run → Prop
  | nil : Aligned [] []
  | cons {ts ts' : List Text} {r : Run} {rs : List Run} :
    Tagged ts r.text → Aligned ts' rs → Aligned (ts ++ ts') (r :: rs)

theorem Aligned.consPlain {rs : List Run} (hopen : c ≠ '<') (hclose : c ≠ '>')
    (h : Aligned ts rs) : Aligned ts (consPlain c rs) := by
  have hsingle : Tagged [] (Run.plain [c]).text := .char hopen hclose .nil
  cases h with
  | nil => exact .cons hsingle .nil
  | @cons ts ts' r rs hr hrs =>
    cases r with
    | plain t => exact .cons (.char hopen hclose hr) hrs
    | markup t =>
      have haligned := Aligned.cons hsingle (.cons hr hrs)
      exact haligned

-- From each ampersand outside tags, the next semicolon is outside tags, too.
def EntitiesClosed (html : Text) : Prop :=
  ∀ s body rest, html = s ++ '&' :: (body ++ ';' :: rest) → ';' ∉ body → (∃ ts, Tagged ts s) →
    ∃ ts, Tagged ts rest

theorem EntitiesClosed.of_append (h : EntitiesClosed (u ++ v)) (hu : Tagged ts u) :
    EntitiesClosed v := by
  rintro s body rest rfl hbody ⟨ts', hs⟩
  exact h (u ++ s) body rest (by simp) hbody ⟨ts ++ ts', hu.append hs⟩

theorem Markup.split {rest : Text} (h : Markup s rest) (ht : Tagged ts (s ++ rest))
    (hc : EntitiesClosed (s ++ rest)) :
    ∃ ts₁ ts₂, ts = ts₁ ++ ts₂ ∧ Tagged ts₁ s ∧ Tagged ts₂ rest := by
  cases h with
  | boldRun hs =>
    obtain ⟨body, _, rfl⟩ := hs
    rw [append_closeBold] at ht ⊢
    exact ht.split_close
  | @tag body _ hbody _ =>
    rw [← List.cons_append] at ht ⊢
    exact ht.split_close
  | @entity body _ hbody =>
    have ⟨_, hrest⟩ := hc [] body rest (by simp) hbody ⟨[], .nil⟩
    exact ht.split hrest
  | @loose c _ hsign hopen _ =>
    obtain rfl | rfl | rfl := mem_markupSigns.mp hsign
    · cases ht with
      | char hne => exact absurd rfl hne
      | tag => exact absurd (by simp) (hopen rfl)
    · exact absurd rfl (ht.tail (by decide)).1
    · exact ⟨[], ts, rfl, .char (by decide) (by decide) .nil, (ht.tail (by decide)).2⟩

theorem aligned_runs (h : Tagged ts html) (hc : EntitiesClosed html) : Aligned ts (runs html) := by
  fun_induction runs html generalizing ts with
  | case1 =>
    cases h with
    | nil => exact .nil
  | case2 c cs s rest hm ih =>
    obtain ⟨hs, hmarkup⟩ := markup?_eq_some_iff.mp hm
    rw [hs] at h hc
    obtain ⟨ts₁, ts₂, rfl, h₁, h₂⟩ := hmarkup.split h hc
    exact .cons h₁ (ih h₂ (hc.of_append h₁))
  | case3 c cs hnone ih =>
    obtain ⟨hopen, hclose, _⟩ : c ≠ '<' ∧ c ≠ '>' ∧ c ≠ '&' := by
      simpa only [mem_markupSigns, not_or] using markup?_eq_none_iff.mp hnone
    have htail := (h.tail hopen).2
    exact (ih htail (hc.of_append (u := [c]) (.char hopen hclose .nil))).consPlain hopen hclose

theorem exists_tagged_embolden (hopen : '<' ∉ t) (hclose : '>' ∉ t) (i : Nat) (ms : List Found) :
    ∃ ts, Tagged ts (embolden i t ms) ∧ ts.filter isOther = [] := by
  induction ms generalizing i t with
  | nil => exact ⟨[], .of_plain hopen hclose, rfl⟩
  | cons m ms ih =>
    have hbefore : Tagged [] (t.take (m.start - i)) :=
      .of_plain (mt List.mem_of_mem_take hopen) (mt List.mem_of_mem_take hclose)
    have hinside : Tagged [] ((t.drop (m.start - i)).take (m.stop - m.start)) :=
      .of_plain (fun hm => hopen (List.mem_of_mem_drop (List.mem_of_mem_take hm)))
        (fun hm => hclose (List.mem_of_mem_drop (List.mem_of_mem_take hm)))
    have ⟨ts, hrest, hother⟩ := ih (mt List.mem_of_mem_drop hopen) (mt List.mem_of_mem_drop hclose)
      m.stop (t := t.drop (m.stop - i))
    have hbold := (((hbefore.append tagged_openBold).append hinside).append
      tagged_closeBold).append hrest
    refine ⟨_, hbold, ?_⟩
    simpa [isOther] using hother

theorem exists_tagged_boldRun {m : Highlighter} {r : Run} (h : Tagged ts r.text)
    (hplain : ∀ t, r = .plain t → '<' ∉ t ∧ '>' ∉ t) :
    ∃ ts', Tagged ts' (m.boldRun r) ∧ ts'.filter isOther = ts.filter isOther := by
  cases r with
  | markup t => exact ⟨ts, h, rfl⟩
  | plain t =>
    have ⟨hopen, hclose⟩ := hplain t rfl
    rw [h.eq_nil hopen]
    exact exists_tagged_embolden hopen hclose 0 (m.spans t)

theorem Aligned.exists_tagged {m : Highlighter} {rs : List Run} (h : Aligned ts rs)
    (hplain : ∀ t, .plain t ∈ rs → '<' ∉ t ∧ '>' ∉ t) :
    ∃ ts', Tagged ts' (rs.flatMap m.boldRun) ∧ ts'.filter isOther = ts.filter isOther := by
  induction h with
  | nil => exact ⟨[], .nil, rfl⟩
  | cons hr _ ih =>
    have ⟨ts₁, h₁, hother₁⟩ := exists_tagged_boldRun (m := m) hr fun t ht => hplain t (ht ▸ .head _)
    have ⟨ts₂, h₂, hother₂⟩ := ih fun t ht => hplain t (.tail _ ht)
    refine ⟨ts₁ ++ ts₂, h₁.append h₂, ?_⟩
    rw [List.filter_append, List.filter_append, hother₁, hother₂]

theorem Tagged.exists_replace (h : Tagged ts t) :
    ∃ ts', Tagged ts' (Text.replace (closeBold ++ openBold) [] t) ∧
      ts'.filter isOther = ts.filter isOther := by
  induction h with
  | nil => exact ⟨[], .nil, rfl⟩
  | @char c ts t hopen hclose _ ih =>
    have ⟨ts', ht, hother⟩ := ih
    have hprefix : ¬closeBold ++ openBold <+: c :: t :=
      fun hp => hopen (List.cons_prefix_cons.mp hp).1.symm
    rw [Text.replace_cons hprefix]
    exact ⟨ts', .char hopen hclose ht, hother⟩
  | @tag body ts t hopen hclose h ih =>
    have ⟨ts', ht, hother⟩ := ih
    by_cases hp : closeBold ++ openBold <+: '<' :: (body ++ '>' :: t)
    case neg =>
      have hsplit : body ++ '>' :: t = body ++ ['>'] ++ t := by simp
      rw [hsplit] at hp ⊢
      rw [replace_tag (by simpa using hopen) hp]
      refine ⟨body :: ts', ?_, by simp [List.filter_cons, hother]⟩
      simpa using Tagged.tag hopen hclose ht
    case pos =>
      obtain ⟨w, hw⟩ := hp
      obtain ⟨rfl, rfl⟩ : ['/', 'b'] = body ∧ openBold ++ w = t :=
        Text.append_stop_inj (by decide) hclose (List.cons.inj hw).2
      -- What stands behind the two is what is left of the text behind the first without the second.
      have hprefix : ¬closeBold ++ openBold <+: '<' :: (['b', '>'] ++ w) := fun hp =>
        absurd (List.cons_prefix_cons.mp (List.cons_prefix_cons.mp hp).2).1 (by decide)
      have hsecond : Text.replace (closeBold ++ openBold) [] (openBold ++ w) =
          '<' :: (['b'] ++ '>' :: Text.replace (closeBold ++ openBold) [] w) :=
        replace_tag (by decide) hprefix
      rw [hsecond] at ht
      obtain ⟨-, ts', rfl, hrest⟩ := ht.of_tag (by decide)
      have hboth : Text.replace (closeBold ++ openBold) [] (closeBold ++ openBold ++ w) =
          Text.replace (closeBold ++ openBold) [] w := Text.replace_append (by decide)
      exact ⟨ts', hboth ▸ hrest, hother⟩

-- If no entity reaches into a tag, marked text is tagged as before, but for bold tags.
theorem bold_tagged (m : Highlighter) (ts : List Text) (html : Text) (h : Tagged ts html)
    (hc : EntitiesClosed html) :
    ∃ ts', Tagged ts' (m.bold html) ∧ ts'.filter isOther = ts.filter isOther := by
  unfold bold
  split
  case isTrue => exact ⟨ts, h, rfl⟩
  case isFalse =>
    have hplain : ∀ t, .plain t ∈ runs html → '<' ∉ t ∧ '>' ∉ t := fun t ht =>
      ⟨fun hm => absurd ((cut_runs html).not_mem_markupSigns ht hm) (by decide),
        fun hm => absurd ((cut_runs html).not_mem_markupSigns ht hm) (by decide)⟩
    have ⟨ts₁, h₁, hother₁⟩ := (aligned_runs h hc).exists_tagged (m := m) hplain
    have ⟨ts₂, h₂, hother₂⟩ := h₁.exists_replace
    exact ⟨ts₂, h₂, hother₂.trans hother₁⟩

theorem bold_tagged_entity : ∃ m, ofPatterns? [['b']] = some m ∧
    Tagged [['i']] ['&', 'b', ';', '<', 'i', '>', 'b'] ∧
    EntitiesClosed ['&', 'b', ';', '<', 'i', '>', 'b'] ∧
    ∃ ts, Tagged ts (m.bold ['&', 'b', ';', '<', 'i', '>', 'b']) ∧ ts.filter isOther = [['i']] := by
  have hsome : (ofPatterns? [['b']]).isSome = true := by decide
  have ⟨m, hm⟩ := Option.isSome_iff_exists.mp hsome
  have hentity : Tagged [] ['&', 'b', ';'] := .of_plain (by decide) (by decide)
  have hrest : Tagged [['i']] ['<', 'i', '>', 'b'] :=
    .tag (by decide) (by decide) (.of_plain (by decide) (by decide))
  have htagged : Tagged [['i']] ['&', 'b', ';', '<', 'i', '>', 'b'] := hentity.append hrest
  have hclosed : EntitiesClosed ['&', 'b', ';', '<', 'i', '>', 'b'] := by
    intro s body rest hs hbody _
    cases s with
    | nil =>
      have ⟨_, hbehind⟩ : ['b'] = body ∧ ['<', 'i', '>', 'b'] = rest :=
        Text.append_stop_inj (by decide) hbody (List.cons.inj hs).2
      exact ⟨_, hbehind ▸ hrest⟩
    | cons c s =>
      have hmem : '&' ∈ ['b', ';', '<', 'i', '>', 'b'] := by
        rw [(List.cons.inj hs).2]
        simp
      exact absurd hmem (by decide)
  exact ⟨m, hm, htagged, hclosed, bold_tagged m _ _ htagged hclosed⟩

-- The ampersand in the text begins what is taken for an entity, which ends within the tag.
theorem bold_within_tag : ∃ m, ofPatterns? [['b']] = some m ∧
    Tagged [['i', ' ', 'i', 'd', '=', '"', ';', 'b', '"'], ['/', 'i']] (['Q', '&', 'A'] ++
      ['<', 'i', ' ', 'i', 'd', '=', '"', ';', 'b', '"', '>'] ++ ['b', '<', '/', 'i', '>']) ∧
    ¬∃ ts, Tagged ts (m.bold (['Q', '&', 'A'] ++
      ['<', 'i', ' ', 'i', 'd', '=', '"', ';', 'b', '"', '>'] ++ ['b', '<', '/', 'i', '>'])) := by
  have hsome : (ofPatterns? [['b']]).isSome = true := by decide
  have ⟨m, hm⟩ := Option.isSome_iff_exists.mp hsome
  refine ⟨m, hm, ?_, ?_⟩
  · have htext : Tagged [] ['Q', '&', 'A'] := .of_plain (by decide) (by decide)
    have hopening : Tagged [['i', ' ', 'i', 'd', '=', '"', ';', 'b', '"']]
        ['<', 'i', ' ', 'i', 'd', '=', '"', ';', 'b', '"', '>'] :=
      .tag (by decide) (by decide) .nil
    have hclosing : Tagged [['/', 'i']] ['b', '<', '/', 'i', '>'] :=
      .char (by decide) (by decide) (.tag (by decide) (by decide) .nil)
    exact (htext.append hopening).append hclosing
  · intro ⟨ts, h⟩
    have hbold : m.bold (['Q', '&', 'A'] ++
        ['<', 'i', ' ', 'i', 'd', '=', '"', ';', 'b', '"', '>'] ++ ['b', '<', '/', 'i', '>']) =
        'Q' :: '&' :: 'A' :: '<' :: (['i', ' ', 'i', 'd', '=', '"', ';', '<', 'b'] ++
          '>' :: (['b', '<', '/', 'b', '>', '"', '>', '<', 'b', '>', 'b', '<', '/', 'b', '>'] ++
            ['<', '/', 'i', '>'])) := bold_of_map hm (by decide +kernel)
    rw [hbold] at h
    have htag := (((h.tail (by decide)).2.tail (by decide)).2.tail (by decide)).2
    exact absurd (htag.of_tag (by decide)).1 (by decide)

end ExcerptSearch.Highlighter
