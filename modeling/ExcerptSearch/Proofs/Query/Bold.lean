import ExcerptSearch.Proofs.Query.Runs
import ExcerptSearch.Proofs.Regex.Successive

namespace ExcerptSearch.Highlighter

open Regex

inductive Sign where
  | char (c : Char)
  | openBold
  | closeBold
  deriving DecidableEq

namespace Sign

def ofText : Text → List Sign
  | '<' :: 'b' :: '>' :: t        => openBold :: ofText t
  | '<' :: '/' :: 'b' :: '>' :: t => closeBold :: ofText t
  | c :: t                        => char c :: ofText t
  | []                            => []

def text : Sign → Text
  | char c    => [c]
  | openBold  => Highlighter.openBold
  | closeBold => Highlighter.closeBold

def print (us : List Sign) : Text :=
  us.flatMap text

def char? : Sign → Option Char
  | char c               => some c
  | openBold | closeBold => none

def chars (us : List Sign) : Text :=
  us.filterMap char?

def tags (us : List Sign) : List Sign :=
  us.filter (·.char?.isNone)

-- The characters, each with whether it stands in bold. The signs begin in bold or not.
def shade : Bool → List Sign → List (Char × Bool)
  | _, []              => []
  | b, char c :: us    => (c, b) :: shade b us
  | _, openBold :: us  => shade true us
  | _, closeBold :: us => shade false us

def plain (t : Text) : List Sign :=
  t.map char

variable {us vs : List Sign} {s t : Text} {c : Char} {b : Bool}

theorem print_char_cons : print (char c :: us) = c :: print us :=
  rfl

theorem print_append : print (us ++ vs) = print us ++ print vs :=
  List.flatMap_append

theorem chars_append : chars (us ++ vs) = chars us ++ chars vs :=
  List.filterMap_append

theorem print_plain (t : Text) : print (plain t) = t := by
  simp [print, plain, List.flatMap_map, text]

theorem chars_plain (t : Text) : chars (plain t) = t := by
  have hchar : char? ∘ char = some := rfl
  rw [chars, plain, List.filterMap_map, hchar, List.filterMap_some]

theorem prefix_chars (hs : '<' ∉ s) (h : s <+: print us) : s <+: chars us := by
  induction us generalizing s with
  | nil => exact h
  | cons u us ih =>
    cases s with
    | nil => exact List.nil_prefix
    | cons c s =>
      cases u with
      | char d =>
        have ⟨hc, h⟩ := List.cons_prefix_cons.mp h
        exact List.cons_prefix_cons.mpr ⟨hc, ih (fun hm => hs (.tail _ hm)) h⟩
      | openBold | closeBold =>
        have hc : c = '<' := (List.cons_prefix_cons.mp h).1
        exact absurd (hc ▸ .head _) hs

structure Untagged (t : Text) : Prop where
  noOpenBold  : ¬Highlighter.openBold <:+: t
  noCloseBold : ¬Highlighter.closeBold <:+: t

theorem Untagged.of_suffix (h : Untagged t) (hs : s <:+ t) : Untagged s :=
  ⟨fun hi => h.noOpenBold (hi.trans hs.isInfix), fun hi => h.noCloseBold (hi.trans hs.isInfix)⟩

theorem not_prefix_print (hs : '<' ∉ s) (h : ¬('<' :: s) <:+: chars (char c :: us)) :
    ¬('<' :: s) <+: c :: print us := by
  intro hp
  have ⟨hc, hp⟩ := List.cons_prefix_cons.mp hp
  exact h (List.cons_prefix_cons.mpr ⟨hc, prefix_chars hs hp⟩).isInfix

theorem ofText_cons (hopen : ¬Highlighter.openBold <+: c :: t)
    (hclose : ¬Highlighter.closeBold <+: c :: t) : ofText (c :: t) = char c :: ofText t := by
  rw [ofText]
  · rintro t rfl rfl
    exact hopen (List.prefix_append _ t)
  · rintro t rfl rfl
    exact hclose (List.prefix_append _ t)

theorem ofText_print (h : Untagged (chars us)) : ofText (print us) = us := by
  induction us with
  | nil => rfl
  | cons u us ih =>
    cases u with
    | openBold | closeBold => exact congrArg _ (ih h)
    | char c =>
      have hopen := not_prefix_print (s := ['b', '>']) (by decide) h.noOpenBold
      have hclose := not_prefix_print (s := ['/', 'b', '>']) (by decide) h.noCloseBold
      rw [print_char_cons, ofText_cons hopen hclose, ih (h.of_suffix (List.suffix_cons _ _))]

def merge : List Sign → List Sign
  | closeBold :: openBold :: us => merge us
  | u :: us                     => u :: merge us
  | []                          => []

theorem chars_merge : chars (merge us) = chars us := by
  fun_induction merge us with
  | case1 us ih => exact ih
  | case2 u us _ ih =>
    cases u with
    | char c => exact congrArg (c :: ·) ih
    | openBold | closeBold => exact ih
  | case3 => rfl

theorem exists_openBold (h : Untagged (chars us)) (hp : Highlighter.openBold <+: print us) :
    ∃ vs, us = openBold :: vs := by
  cases us with
  | nil => exact absurd hp (by decide)
  | cons u us =>
    cases u with
    | openBold => exact ⟨us, rfl⟩
    | closeBold =>
      have hp := (List.cons_prefix_cons.mp hp).2
      exact absurd (List.cons_prefix_cons.mp hp).1 (by decide)
    | char c => exact absurd hp (not_prefix_print (s := ['b', '>']) (by decide) h.noOpenBold)

theorem replace_print (h : Untagged (chars us)) :
    Text.replace (Highlighter.closeBold ++ Highlighter.openBold) [] (print us) =
      print (merge us) := by
  fun_induction merge us with
  | case1 us ih =>
    have hprint : print (closeBold :: openBold :: us) =
        Highlighter.closeBold ++ Highlighter.openBold ++ print us := rfl
    rw [hprint, Text.replace_append (by decide), ih h]
    rfl
  | case2 u us hne ih =>
    cases u with
    | char c =>
      have hclose := not_prefix_print (s := ['/', 'b', '>']) (by decide) h.noCloseBold
      have hprefix : ¬Highlighter.closeBold ++ Highlighter.openBold <+: c :: print us :=
        fun hp => hclose ((List.prefix_append _ _).trans hp)
      rw [print_char_cons, Text.replace_cons hprefix, ih (h.of_suffix (List.suffix_cons _ _))]
      rfl
    | openBold =>
      have hprefix : ¬Highlighter.closeBold ++ Highlighter.openBold <+:
          '<' :: (['b', '>'] ++ print us) := fun hp =>
        absurd (List.cons_prefix_cons.mp (List.cons_prefix_cons.mp hp).2).1 (by decide)
      exact (replace_tag (by decide) hprefix).trans (congrArg (Highlighter.openBold ++ ·) (ih h))
    | closeBold =>
      have hprefix : ¬Highlighter.closeBold ++ Highlighter.openBold <+:
          '<' :: (['/', 'b', '>'] ++ print us) := by
        intro hp
        have hopen := (List.prefix_append_right_inj Highlighter.closeBold).mp hp
        have ⟨vs, hvs⟩ : ∃ vs, us = openBold :: vs := exists_openBold h hopen
        exact hne vs rfl hvs
      exact (replace_tag (by decide) hprefix).trans (congrArg (Highlighter.closeBold ++ ·) (ih h))
  | case3 => rfl

inductive Balanced : Bool → List Sign → Prop
  | nil : Balanced false []
  | char {b : Bool} {c : Char} {us : List Sign} : Balanced b us → Balanced b (char c :: us)
  | openBold {c : Char} {us : List Sign} :
    Balanced true (Sign.char c :: us) → Balanced false (openBold :: Sign.char c :: us)
  | closeBold {us : List Sign} : Balanced false us → Balanced true (closeBold :: us)

namespace Balanced

theorem append (h : Balanced b us) (h' : Balanced false vs) : Balanced b (us ++ vs) := by
  induction h with
  | nil => exact h'
  | char _ ih => exact .char ih
  | openBold _ ih => exact .openBold ih
  | closeBold _ ih => exact .closeBold ih

theorem shade_append (h : Balanced b us) : shade b (us ++ vs) = shade b us ++ shade false vs := by
  induction h with
  | nil => rfl
  | char _ ih => exact congrArg _ ih
  | openBold _ ih => exact ih
  | closeBold _ ih => exact ih

theorem merge (h : Balanced b us) : Balanced b (merge us) := by
  fun_induction Sign.merge us generalizing b with
  | case1 us ih =>
    cases h with
    | closeBold h =>
      cases h with
      | openBold h => exact ih h
  | case2 u us _ ih =>
    cases h with
    | char h => exact .char (ih h)
    | openBold h => exact .openBold (ih h)
    | closeBold h => exact .closeBold (ih h)
  | case3 => exact h

theorem shade_merge (h : Balanced b us) : shade b (Sign.merge us) = shade b us := by
  fun_induction Sign.merge us generalizing b with
  | case1 us ih =>
    cases h with
    | closeBold h =>
      cases h with
      | openBold h => exact ih h
  | case2 u us _ ih =>
    cases h with
    | @char _ c _ h => exact congrArg ((c, b) :: ·) (ih h)
    | openBold h => exact ih h
    | closeBold h => exact ih h
  | case3 => rfl

theorem exists_tags (h : Balanced b us) : ∃ n, tags us =
    (if b then [Sign.closeBold] else []) ++
      (List.replicate n [Sign.openBold, Sign.closeBold]).flatten := by
  induction h with
  | nil => exact ⟨0, rfl⟩
  | char _ ih => exact ih
  | openBold _ ih =>
    have ⟨n, hn⟩ := ih
    exact ⟨n + 1, congrArg (Sign.openBold :: ·) hn⟩
  | closeBold _ ih =>
    have ⟨n, hn⟩ := ih
    exact ⟨n, congrArg (Sign.closeBold :: ·) hn⟩

theorem not_empty_run (h : Balanced b us) : ¬[Sign.openBold, Sign.closeBold] <:+: us := by
  induction h with
  | nil => simp
  | char _ ih => simpa [List.infix_cons_iff] using ih
  | openBold _ ih => simpa [List.infix_cons_iff] using ih
  | closeBold _ ih => simpa [List.infix_cons_iff] using ih

theorem not_touching (h : Balanced b us) :
    ¬[Sign.closeBold, Sign.openBold] <:+: Sign.merge us := by
  fun_induction Sign.merge us generalizing b with
  | case1 us ih =>
    cases h with
    | closeBold h =>
      cases h with
      | openBold h => exact ih h
  | case2 u us hne ih =>
    intro hi
    cases h with
    | char h => exact ih h (by simpa [List.infix_cons_iff] using hi)
    | openBold h => exact ih h (by simpa [List.infix_cons_iff] using hi)
    | closeBold h =>
      cases List.infix_cons_iff.mp hi with
      | inr hi => exact ih h hi
      | inl hp =>
        have hp := (List.cons_prefix_cons.mp hp).2
        -- No opening tag stands here, for then the two had been merged.
        cases h with
        | nil => exact absurd hp (by decide)
        | char => exact nomatch (List.cons_prefix_cons.mp hp).1
        | openBold => exact hne _ rfl rfl
  | case3 => simp

theorem plain_append (h : Balanced b us) (t : Text) : Balanced b (plain t ++ us) := by
  induction t with
  | nil => exact h
  | cons c t ih => exact .char ih

theorem plain (t : Text) : Balanced false (plain t) := by
  simpa using nil.plain_append t

end Balanced

theorem shade_plain_append : shade b (plain t ++ us) = t.map (·, b) ++ shade b us := by
  induction t with
  | nil => rfl
  | cons c t ih => exact congrArg ((c, b) :: ·) ih

theorem shade_plain : shade b (plain t) = t.map (·, b) := by
  have h : shade b (plain t ++ []) = t.map (·, b) ++ [] := shade_plain_append
  simpa using h

end Sign

open Sign

-- The signs `us` of the marked text `out` have the characters of `t` with this shading.
structure Depicts (us : List Sign) (out t : Text) (shading : List (Char × Bool)) : Prop where
  balanced : Balanced false us
  print    : print us = out
  chars    : chars us = t
  shade    : shade false us = shading

namespace Depicts

variable {us vs : List Sign} {out out' s t : Text} {shading shading' : List (Char × Bool)}

theorem append (h : Depicts us out s shading) (h' : Depicts vs out' t shading') :
    Depicts (us ++ vs) (out ++ out') (s ++ t) (shading ++ shading') where
  balanced := h.balanced.append h'.balanced
  print    := by rw [print_append, h.print, h'.print]
  chars    := by rw [chars_append, h.chars, h'.chars]
  shade    := by rw [h.balanced.shade_append, h.shade, h'.shade]

theorem plain (t : Text) : Depicts (plain t) t t (t.map (·, false)) :=
  ⟨.plain t, print_plain t, chars_plain t, shade_plain⟩

theorem bold (ht : t ≠ []) : Depicts (.openBold :: (Sign.plain t ++ [.closeBold]))
    (openBold ++ t ++ closeBold) t (t.map (·, true)) where
  balanced := by
    cases t with
    | nil => exact absurd rfl ht
    | cons c t => exact .openBold ((Balanced.closeBold .nil).plain_append (c :: t))
  print    := by
    have h : Sign.print (Sign.plain t ++ [.closeBold]) = t ++ closeBold := by
      rw [print_append, print_plain]
      rfl
    rw [List.append_assoc, ← h]
    rfl
  chars    := by
    have h : Sign.chars (Sign.plain t ++ [.closeBold]) = t := by
      rw [chars_append, chars_plain]
      exact List.append_nil t
    exact h
  shade    := by simp [Sign.shade, shade_plain_append]

end Depicts

section Spans

variable {i k n : Nat} {t u v w : Text} {ms : List Found}

-- The spans mark parts that are not empty of a text that begins at place `i`.
inductive Marks : Nat → Text → List Found → Prop
  | nil {i : Nat} {t : Text} : Marks i t []
  | cons {i : Nat} {u v w : Text} {ms : List Found} : v ≠ [] →
    Marks (i + u.length + v.length) w ms →
    Marks i (u ++ v ++ w) (⟨i + u.length, i + u.length + v.length⟩ :: ms)

theorem marks_of_ascends (h : Ascends n i ms) (hn : n = i + t.length)
    (hne : ∀ m ∈ ms, m.isEmpty = false) : Marks i t ms := by
  induction ms generalizing i t with
  | nil => exact .nil
  | cons m ms ih =>
    have ⟨start, stop⟩ := m
    cases h with
    | cons hstart hle hstop hrest =>
      dsimp only at hstart hle hstop hrest
      obtain ⟨u, v, w, rfl, hu, huv⟩ : ∃ u v w, t = u ++ v ++ w ∧ start - i = u.length ∧
          stop - i = (u ++ v).length := Text.exists_append_append (by omega) (by omega)
      simp only [List.length_append] at hn huv
      obtain rfl : start = i + u.length := by omega
      obtain rfl : stop = i + u.length + v.length := by omega
      have hv : v ≠ [] := by
        rintro rfl
        exact absurd (hne _ (.head _)) (by simp [Found.isEmpty])
      exact .cons hv (ih hrest (by omega) fun m hm => hne m (.tail _ hm))

theorem marks_spans (m : Highlighter) (t : Text) : Marks 0 t (m.spans t) := by
  unfold spans
  split
  case h_1 => exact .nil
  case h_2 p _ =>
    apply marks_of_ascends (Compiled.ascends_findAll.filter _) (Nat.zero_add _).symm
    exact fun m hm => by simpa using (List.mem_filter.mp hm).2

def covered (ms : List Found) (k : Nat) : Bool :=
  ms.any fun m => m.start ≤ k && k < m.stop

theorem covered_spans {m : Highlighter} {p : Compiled} (hp : m.pattern = some p) :
    covered (m.spans t) k = covered (p.findAll t) k := by
  simp only [spans, hp, covered, List.any_filter]
  congr 1
  funext f
  by_cases hempty : f.isEmpty
  case neg => simp [hempty]
  case pos =>
    have hplace : f.start = f.stop := by simpa [Found.isEmpty] using hempty
    simp [hempty, hplace]

def shading (i : Nat) (t : Text) (ms : List Found) : List (Char × Bool) :=
  (t.zipIdx i).map fun p => (p.1, covered ms p.2)

theorem embolden_cons :
    embolden i (u ++ v ++ w) (⟨i + u.length, i + u.length + v.length⟩ :: ms) =
      u ++ (openBold ++ v ++ closeBold) ++ embolden (i + u.length + v.length) w ms := by
  have hboth : i + u.length + v.length - i = (u ++ v).length := by
    rw [List.length_append]
    omega
  simp only [embolden, hboth, Nat.add_sub_cancel_left, List.drop_left]
  simp

theorem covered_eq_false (h : Marks i t ms) (hk : k < i) : covered ms k = false := by
  induction h with
  | nil => rfl
  | @cons i u v w ms _ _ ih =>
    have hstart : ¬i + u.length ≤ k := by omega
    simpa [covered, hstart] using ih (by omega)

theorem map_zipIdx_congr {f g : Nat → Bool} (h : ∀ k, i ≤ k → k < i + t.length → f k = g k) :
    (t.zipIdx i).map (fun p => (p.1, f p.2)) = (t.zipIdx i).map fun p => (p.1, g p.2) := by
  apply List.map_congr_left
  intro p hp
  have ⟨hi, hlt, _⟩ := List.mem_zipIdx hp
  rw [h p.2 hi hlt]

theorem shading_of_covered {b : Bool} (h : ∀ k, i ≤ k → k < i + t.length → covered ms k = b) :
    shading i t ms = t.map (·, b) := by
  calc shading i t ms
    _ = (t.zipIdx i).map (fun p => (p.1, b)) := map_zipIdx_congr h
    _ = ((t.zipIdx i).map Prod.fst).map (·, b) := by rw [List.map_map]; rfl
    _ = t.map (·, b) := by rw [List.zipIdx_map_fst]

theorem shading_append : shading i (u ++ v) ms = shading i u ms ++ shading (i + u.length) v ms := by
  simp [shading, List.zipIdx_append]

theorem shading_cons (h : Marks (i + u.length + v.length) w ms) :
    shading i (u ++ v ++ w) (⟨i + u.length, i + u.length + v.length⟩ :: ms) =
      u.map (·, false) ++ v.map (·, true) ++ shading (i + u.length + v.length) w ms := by
  let m : Found := ⟨i + u.length, i + u.length + v.length⟩
  have hu : shading i u (m :: ms) = u.map (·, false) := by
    apply shading_of_covered
    intro k _ hk
    have hm : ¬i + u.length ≤ k := by omega
    have hms := covered_eq_false h (k := k) (by omega)
    simpa [covered, m, hm] using hms
  have hv : shading (i + u.length) v (m :: ms) = v.map (·, true) := by
    apply shading_of_covered
    intro k hk hk'
    simp [covered, m, hk, hk']
  have hw : shading (i + u.length + v.length) w (m :: ms) =
      shading (i + u.length + v.length) w ms := by
    apply map_zipIdx_congr
    intro k hk _
    have hm : ¬k < i + u.length + v.length := by omega
    simp [covered, m, hm]
  rw [shading_append, shading_append, List.length_append, ← Nat.add_assoc, hu, hv, hw]

theorem exists_depicts_embolden (h : Marks i t ms) :
    ∃ us, Depicts us (embolden i t ms) t (shading i t ms) := by
  induction h with
  | nil =>
    rw [embolden, shading_of_covered fun _ _ _ => rfl]
    exact ⟨_, .plain _⟩
  | @cons i u v w ms hv hms ih =>
    have ⟨us, hus⟩ := ih
    rw [embolden_cons, shading_cons hms]
    exact ⟨_, ((Depicts.plain u).append (.bold hv)).append hus⟩

end Spans

variable {html : Text} {c : Char}

-- The characters of a run, each with whether a span covers it. Markup has no spans.
def shadingOf (m : Highlighter) : Run → List (Char × Bool)
  | .plain t  => shading 0 t (m.spans t)
  | .markup t => t.map (·, false)

theorem exists_depicts_runs (m : Highlighter) (rs : List Run) :
    ∃ us, Depicts us (rs.flatMap m.boldRun) (rs.flatMap Run.text) (rs.flatMap m.shadingOf) := by
  induction rs with
  | nil => exact ⟨[], .plain []⟩
  | cons r rs ih =>
    have ⟨us, hus⟩ := ih
    cases r with
    | plain t =>
      have ⟨vs, hvs⟩ := exists_depicts_embolden (marks_spans m t)
      exact ⟨vs ++ us, hvs.append hus⟩
    | markup t => exact ⟨_, (Depicts.plain t).append hus⟩

theorem exists_bold_eq_print (m : Highlighter) (hp : m.pattern.isSome) (h : Untagged html) :
    ∃ us, Depicts us ((runs html).flatMap m.boldRun) html ((runs html).flatMap m.shadingOf) ∧
      m.bold html = print (merge us) := by
  have ⟨us, hus⟩ := exists_depicts_runs m (runs html)
  rw [(cut_runs html).flatMap_text] at hus
  have hchars : Untagged (Sign.chars us) := hus.chars ▸ h
  have hpattern : m.pattern.isNone = false := by simpa using hp
  refine ⟨us, hus, ?_⟩
  unfold bold
  rw [hpattern, if_neg Bool.false_ne_true, ← hus.print, replace_print hchars]

theorem not_mem_markupSigns_of_shadingOf {m : Highlighter}
    (h : (c, true) ∈ (runs html).flatMap m.shadingOf) : c ∉ markupSigns := by
  have ⟨r, hr, hc⟩ := List.mem_flatMap.mp h
  cases r with
  | plain t =>
    have ⟨p, hp, hpc⟩ := List.mem_map.mp hc
    have hmem : p.1 ∈ t := by
      rw [← List.zipIdx_map_fst 0 t]
      exact List.mem_map_of_mem hp
    exact (cut_runs html).not_mem_markupSigns hr ((Prod.mk.inj hpc).1 ▸ hmem)
  | markup t => simp [shadingOf] at hc

-- A text without bold tags is cut into markup and plain runs. In the marked text, bold tags open
-- and close by turns. But for them the text is as it was, and the characters in bold are those that
-- a match in their run covers. No bold run is empty, holds a sign of markup, or touches the next.
theorem bold_exact (m : Highlighter) (p : Compiled) (html : Text) (hp : m.pattern = some p)
    (hopen : ¬openBold <:+: html) (hclose : ¬closeBold <:+: html) :
    Cut html (runs html) ∧
    (∀ t k, covered (m.spans t) k = covered (p.findAll t) k) ∧
    print (ofText (m.bold html)) = m.bold html ∧
    (∃ n, tags (ofText (m.bold html)) =
      (List.replicate n [Sign.openBold, Sign.closeBold]).flatten) ∧
    chars (ofText (m.bold html)) = html ∧
    shade false (ofText (m.bold html)) = (runs html).flatMap m.shadingOf ∧
    (∀ c, (c, true) ∈ shade false (ofText (m.bold html)) → c ∉ markupSigns) ∧
    ¬[Sign.openBold, Sign.closeBold] <:+: ofText (m.bold html) ∧
    ¬[Sign.closeBold, Sign.openBold] <:+: ofText (m.bold html) := by
  have hhtml : Untagged html := ⟨hopen, hclose⟩
  have ⟨us, hus, hbold⟩ := exists_bold_eq_print m (Option.isSome_of_eq_some hp) hhtml
  have hchars : Sign.chars (merge us) = html := by rw [chars_merge, hus.chars]
  have hsigns : ofText (m.bold html) = merge us := by
    rw [hbold, ofText_print (hchars ▸ hhtml)]
  have hbalanced := hus.balanced.merge
  have hshade : shade false (merge us) = (runs html).flatMap m.shadingOf := by
    rw [hus.balanced.shade_merge, hus.shade]
  rw [hsigns]
  refine ⟨cut_runs html, fun _ _ => covered_spans hp, hbold.symm, hbalanced.exists_tags, hchars,
    hshade, ?_, hbalanced.not_empty_run, hus.balanced.not_touching⟩
  intro c hc
  exact not_mem_markupSigns_of_shadingOf (hshade ▸ hc)

theorem bold_exact_entity : ∃ m p, ofPatterns? [['a', 'm'], ['p']] = some m ∧ m.pattern = some p ∧
    ¬openBold <:+: ['l', 'a', 'm', 'p', '&', 'p', ';', '<', 'p'] ∧
    ¬closeBold <:+: ['l', 'a', 'm', 'p', '&', 'p', ';', '<', 'p'] ∧
    m.bold ['l', 'a', 'm', 'p', '&', 'p', ';', '<', 'p'] =
      ['l', '<', 'b', '>', 'a', 'm', 'p', '<', '/', 'b', '>', '&', 'p', ';', '<',
        '<', 'b', '>', 'p', '<', '/', 'b', '>'] ∧
    Cut ['l', 'a', 'm', 'p', '&', 'p', ';', '<', 'p'] [.plain ['l', 'a', 'm', 'p'],
      .markup ['&', 'p', ';'], .markup ['<'], .plain ['p']] ∧
    shade false (ofText (m.bold ['l', 'a', 'm', 'p', '&', 'p', ';', '<', 'p'])) =
      [('l', false), ('a', true), ('m', true), ('p', true), ('&', false), ('p', false),
        (';', false), ('<', false), ('p', true)] := by
  have hbold : (ofPatterns? [['a', 'm'], ['p']]).map
      (·.bold ['l', 'a', 'm', 'p', '&', 'p', ';', '<', 'p']) =
      some ['l', '<', 'b', '>', 'a', 'm', 'p', '<', '/', 'b', '>', '&', 'p', ';', '<',
        '<', 'b', '>', 'p', '<', '/', 'b', '>'] := by decide +kernel
  have ⟨m, hm, _⟩ := Option.map_eq_some_iff.mp hbold
  have ⟨p, hp⟩ : ∃ p, m.pattern = some p := by
    have hany : (ofPatterns? [['a', 'm'], ['p']]).any (·.pattern.isSome) = true := by
      decide +kernel
    rw [hm] at hany
    exact Option.isSome_iff_exists.mp hany
  have h := bold_exact m p ['l', 'a', 'm', 'p', '&', 'p', ';', '<', 'p'] hp (by decide) (by decide)
  have hresult := bold_of_map hm hbold
  have hruns : runs ['l', 'a', 'm', 'p', '&', 'p', ';', '<', 'p'] = [.plain ['l', 'a', 'm', 'p'],
      .markup ['&', 'p', ';'], .markup ['<'], .plain ['p']] := by decide_cbv
  have hshade : shade false (ofText (m.bold ['l', 'a', 'm', 'p', '&', 'p', ';', '<', 'p'])) = _ :=
    congrArg (fun t => shade false (ofText t)) hresult
  exact ⟨m, p, hm, hp, by decide, by decide, hresult, hruns ▸ h.1, hshade⟩

end ExcerptSearch.Highlighter
