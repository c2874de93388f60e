import ExcerptSearch.Proofs.Dictionary
import ExcerptSearch.Search.Results
import Mathlib.Data.List.SplitBy

namespace ExcerptSearch

section Runs

variable {α κ : Type} {key : α → κ} {l run : List α} {runs : List (List α)}

-- What a list falls into where `key` tells what belongs together. The runs are as long as they can
-- be, for neighbours differ.
structure MaximalRuns (key : α → κ) (l : List α) (runs : List (List α)) : Prop where
  flatten : runs.flatten = l
  ne_nil  : ∀ run ∈ runs, run ≠ []
  alike   : ∀ run ∈ runs, ∀ a ∈ run, ∀ b ∈ run, key a = key b
  apart   : runs.IsChain fun run next => ∀ a ∈ run, ∀ b ∈ next, key a ≠ key b

namespace MaximalRuns

theorem tail (h : MaximalRuns key l (run :: runs)) : MaximalRuns key runs.flatten runs where
  flatten := rfl
  ne_nil  := fun next hnext => h.ne_nil next (.tail _ hnext)
  alike   := fun next hnext => h.alike next (.tail _ hnext)
  apart   := h.apart.tail

theorem exists_cons (h : MaximalRuns key l (run :: runs)) : ∃ a rest, run = a :: rest ∧
    (∀ b ∈ rest, key b = key a) ∧ ∀ next ∈ runs.head?, ∀ b ∈ next, key b ≠ key a := by
  have ⟨a, rest, hrun⟩ := List.exists_cons_of_ne_nil (h.ne_nil run (.head _))
  have ha : a ∈ run := hrun ▸ .head _
  have hnext := (List.isChain_cons.mp h.apart).1
  refine ⟨a, rest, hrun, fun b hb => ?_, fun next hn b hb => (hnext next hn a ha b hb).symm⟩
  exact h.alike run (.head _) b (hrun ▸ .tail _ hb) a ha

end MaximalRuns

theorem eq_of_isChain (h : l.IsChain fun a b => key a = key b) :
    ∀ a ∈ l, ∀ b ∈ l, key a = key b := by
  let Alike a b := key a = key b
  have htrans : Trans Alike Alike Alike := ⟨Eq.trans⟩
  have hsymm : Std.Symm Alike := ⟨fun _ _ => Eq.symm⟩
  have hpairs : l.Pairwise Alike := List.IsChain.pairwise h
  exact fun a ha b hb => List.Pairwise.forall_of_forall (R := Alike) (fun _ _ => rfl) hpairs ha hb

variable [DecidableEq κ]

def runsBy (key : α → κ) (l : List α) : List (List α) :=
  l.splitBy fun a b => key a = key b

theorem maximalRuns_runsBy (key : α → κ) (l : List α) : MaximalRuns key l (runsBy key l) := by
  have halike : ∀ run ∈ runsBy key l, ∀ a ∈ run, ∀ b ∈ run, key a = key b := fun run hrun =>
    eq_of_isChain ((List.isChain_of_mem_splitBy hrun).imp fun _ _ => of_decide_eq_true)
  refine ⟨List.flatten_splitBy _ l, fun _ => List.ne_nil_of_mem_splitBy, halike, ?_⟩
  -- Neighbours differ where they meet, and so throughout.
  have hmeet := List.isChain_getLast_head_splitBy (fun a b => decide (key a = key b)) l
  refine hmeet.imp_of_mem_imp fun run next hrun hnext ⟨hne, hne', hdiffer⟩ a ha b hb hab => ?_
  have hlast := halike run hrun _ (List.getLast_mem hne) a ha
  have hhead := halike next hnext _ (List.head_mem hne') b hb
  exact of_decide_eq_false hdiffer (hlast.trans (hab.trans hhead.symm))

end Runs

namespace FoundSection

variable {α : Type} {m : Highlighter} {texts : Dictionary Text} {last : Option Text}
variable {fs rest : List (FoundItem α)} {runs : List (List (FoundItem α))}

def groupText (texts : Dictionary Text) (key : FoundItem α → Option Text)
    (run : List (FoundItem α)) : List Text :=
  ((run.head?.bind key).bind texts.get?).toList

theorem renderSessions_append (h : ∀ f ∈ fs, f.item.session = last) :
    renderSessions m texts last (fs ++ rest) =
      renderPlain m fs ++ renderSessions m texts last rest := by
  induction fs with
  | nil => rfl
  | cons f fs ih =>
    have hrest := ih fun g hg => h g (.tail _ hg)
    simp [renderSessions, renderPlain, h f (.head _), hrest]

theorem renderEvents_append (h : ∀ f ∈ fs, f.item.event = last) :
    renderEvents m texts last (fs ++ rest) =
      fs.map (m.bold ·.item.html) ++ renderEvents m texts last rest := by
  induction fs with
  | nil => rfl
  | cons f fs ih =>
    have hrest := ih fun g hg => h g (.tail _ hg)
    simp [renderEvents, h f (.head _), hrest]

def Anew (key : FoundItem α → Option Text) (last : Option Text)
    (runs : List (List (FoundItem α))) : Prop :=
  ∀ run ∈ runs.head?, ∀ f ∈ run, key f = last → last = none

-- Between items of one group nothing is displayed, and for items of no group there is nothing to
-- display. So where a group begins or ends it makes no difference that the two are not told apart.
theorem groupText_of_anew {group last o : Option Text} (hanew : group = last → last = none)
    (ho : group = last → o = last) :
    (if group = last then [] else (o.bind texts.get?).toList) = (o.bind texts.get?).toList := by
  split
  case isTrue h => rw [ho h, hanew h]; rfl
  case isFalse => rfl

theorem renderSessions_flatten {l : List (FoundItem α)} (h : MaximalRuns (·.item.session) l runs)
    (hanew : Anew (·.item.session) last runs) : renderSessions m texts last runs.flatten =
      runs.flatMap fun run => groupText texts (·.item.session) run ++ renderPlain m run := by
  induction runs generalizing l last with
  | nil => rfl
  | cons run runs ih =>
    have ⟨f, fs, hrun, hfs, hnext⟩ := h.exists_cons
    have hheader := @groupText_of_anew texts _ _ _ (hanew run rfl f (hrun ▸ .head _)) id
    have hrest : renderSessions m texts f.item.session runs.flatten = _ :=
      ih h.tail fun next hn g hg he => absurd he (hnext next hn g hg)
    calc renderSessions m texts last (run :: runs).flatten
      _ = groupText texts (·.item.session) run ++ m.bold f.item.html :: rule ::
          renderSessions m texts f.item.session (fs ++ runs.flatten) := by
        simp [hrun, renderSessions, groupText, hheader]
      _ = groupText texts (·.item.session) run ++ renderPlain m run ++
          renderSessions m texts f.item.session runs.flatten := by
        rw [renderSessions_append hfs]
        simp [hrun, renderPlain]
      _ = _ := by rw [hrest, List.flatMap_cons]

theorem renderEvents_flatten {l : List (FoundItem α)} (h : MaximalRuns (·.item.event) l runs)
    (hanew : Anew (·.item.event) last runs) : renderEvents m texts last runs.flatten =
      (last.bind texts.get?).toList ++ runs.flatMap fun run =>
        run.map (m.bold ·.item.html) ++ groupText texts (·.item.event) run := by
  induction runs generalizing l last with
  | nil => simp [renderEvents]
  | cons run runs ih =>
    have ⟨f, fs, hrun, hfs, hnext⟩ := h.exists_cons
    have hfooter := @groupText_of_anew texts _ _ _ (hanew run rfl f (hrun ▸ .head _)) fun _ => rfl
    have hrest : renderEvents m texts f.item.event runs.flatten = _ :=
      ih h.tail fun next hn g hg he => absurd he (hnext next hn g hg)
    calc renderEvents m texts last (run :: runs).flatten
      _ = (last.bind texts.get?).toList ++
          m.bold f.item.html :: renderEvents m texts f.item.event (fs ++ runs.flatten) := by
        simp [hrun, renderEvents, hfooter]
      _ = (last.bind texts.get?).toList ++ (run.map (m.bold ·.item.html) ++
          renderEvents m texts f.item.event runs.flatten) := by
        rw [renderEvents_append hfs]
        simp [hrun]
      _ = _ := by
        rw [hrest]
        simp [hrun, groupText]

-- Are these the items up to the limit?
structure Shows (s : FoundSection α) (shown : List (FoundItem α)) : Prop where
  first     : shown <+: s.items
  unlimited : s.limit = none → shown = s.items
  limited   : ∀ n, s.limit = some n → shown.length = min n s.items.length

theorem shows_displayed (s : FoundSection α) : s.Shows s.displayed := by
  unfold displayed
  split
  case h_1 n hlimit =>
    refine ⟨List.take_prefix n s.items, fun h => (nomatch hlimit.symm.trans h), fun k hk => ?_⟩
    rw [List.length_take, Option.some.inj (hlimit.symm.trans hk)]
  case h_2 hlimit =>
    exact ⟨List.prefix_rfl, fun _ => rfl, fun k hk => (nomatch hlimit.symm.trans hk)⟩

-- Up to the limit, the items are rendered run by run, with the header of each session before its
-- items and a rule behind each item, or with the footer of each event behind its items.
theorem render_grouped (s : FoundSection α) (m : Highlighter) (texts : Dictionary Text) :
    s.Shows s.displayed ∧ (∀ k t, texts.get? k = some t ↔ (k, t) ∈ texts.entries) ∧
    (∀ key : FoundItem α → Option Text, MaximalRuns key s.displayed (runsBy key s.displayed)) ∧
    { s with grouping := .sessionHeaders texts }.render m =
      ['\n'].intercalate ((runsBy (·.item.session) s.displayed).flatMap fun run =>
        groupText texts (·.item.session) run ++
          run.flatMap fun f => [m.bold f.item.html, ['<', 'h', 'r', '>']]) ∧
    { s with grouping := .eventFooters texts }.render m =
      ['\n'].intercalate ((runsBy (·.item.event) s.displayed).flatMap fun run =>
        run.map (m.bold ·.item.html) ++ groupText texts (·.item.event) run) := by
  have hruns := fun key : FoundItem α → Option Text => maximalRuns_runsBy key s.displayed
  have hsessions := @renderSessions_flatten _ m texts none _ _ (hruns (·.item.session))
    fun _ _ _ _ _ => rfl
  have hevents := @renderEvents_flatten _ m texts none _ _ (hruns (·.item.event))
    fun _ _ _ _ _ => rfl
  rw [(hruns _).flatten] at hsessions hevents
  exact ⟨shows_displayed s, fun _ _ => Dictionary.get?_eq_some_iff, hruns,
    congrArg Text.joinLines hsessions, congrArg Text.joinLines hevents⟩

def fourOfFive : FoundSection Nat where
  code     := ['x']
  name     := ['e']
  heading  := ['E']
  limit    := some 4
  grouping := .none
  items    := [some ['s'], some ['s'], none, some ['s'], some ['t']].map fun group =>
    ⟨{ blobs := [], html := ['a'], session := group, event := group }, 0⟩

theorem render_grouped_fourOfFive : fourOfFive.Shows fourOfFive.displayed ∧
    (runsBy (·.item.session) fourOfFive.displayed).map List.length = [2, 1, 1] ∧
    { fourOfFive with grouping := .sessionHeaders (.ofList [(['s'], ['S'])]) }.render ⟨none⟩ =
      "S\na\n<hr>\na\n<hr>\na\n<hr>\nS\na\n<hr>".toList ∧
    { fourOfFive with grouping := .eventFooters (.ofList [(['s'], ['S'])]) }.render ⟨none⟩ =
      "a\na\nS\na\na\nS".toList := by
  have ⟨hshows, _, _, hsessions, hevents⟩ :=
    render_grouped fourOfFive ⟨none⟩ (.ofList [(['s'], ['S'])])
  exact ⟨hshows, by decide, hsessions.trans (by decide), hevents.trans (by decide)⟩

end FoundSection
end ExcerptSearch
