import ExcerptSearch.Json.Parser
import ExcerptSearch.Proofs.Text

namespace ExcerptSearch.Json

variable {c d : Char} {r s t u w rest : Text} {e : Element} {es : List Element} {k : Nat}

def spaces : Text :=
  [' ', '\n', '\t', '\r']

section Numbers

def IsDigits (t : Text) : Prop :=
  t ≠ [] ∧ ∀ c ∈ t, c.isDigit

inductive IsWhole : Text → Prop
  | zero : IsWhole ['0']
  | digits {t : Text} : IsDigits t → t.head? ≠ some '0' → IsWhole t

inductive IsFraction : Text → Prop
  | absent : IsFraction []
  | present {t : Text} : IsDigits t → IsFraction ('.' :: t)

inductive IsExponent : Text → Prop
  | absent : IsExponent []
  | present {c : Char} {sign t : Text} :
    c ∈ ['e', 'E'] → sign ∈ [[], ['+'], ['-']] → IsDigits t → IsExponent (c :: (sign ++ t))

inductive IsNumber : Text → Prop
  | mk {sign whole fraction exponent : Text} :
    sign ∈ [[], ['-']] → IsWhole whole → IsFraction fraction → IsExponent exponent →
      IsNumber (sign ++ (whole ++ (fraction ++ exponent)))

-- Does the text go on with something that is not part of a number?
def EndsNumber (rest : Text) : Prop :=
  ∀ c ∈ rest.head?, c.isDigit = false ∧ c ∉ ['.', 'e', 'E']

def EndsDigits (rest : Text) : Prop :=
  ∀ c ∈ rest.head?, c.isDigit = false

theorem ne_of_isDigit (hc : c.isDigit = true) (hd : d.isDigit = false) : c ≠ d :=
  fun h => Bool.false_ne_true (hd.symm.trans (h ▸ hc))

theorem EndsNumber.endsDigits (h : EndsNumber rest) : EndsDigits rest :=
  fun c hc => (h c hc).1

theorem IsDigits.exists_cons (h : IsDigits t) : ∃ c u, t = c :: u ∧ c.isDigit = true := by
  have ⟨c, u, ht⟩ := List.exists_cons_of_ne_nil h.1
  exact ⟨c, u, ht, h.2 c (ht ▸ .head u)⟩

theorem IsDigits.digits?_append (h : IsDigits t) (hrest : EndsDigits rest) :
    digits? (t ++ rest) = some (t, rest) := by
  simp [digits?, takeWhile_append_of_stop h.2 hrest, dropWhile_append_of_stop h.2 hrest, h.1]

theorem IsWhole.exists_cons (h : IsWhole t) : ∃ c u, t = c :: u ∧ c.isDigit = true := by
  cases h with
  | zero => exact ⟨'0', [], rfl, rfl⟩
  | digits ht => exact ht.exists_cons

theorem IsWhole.whole?_append (h : IsWhole t) (hrest : EndsDigits rest) :
    whole? (t ++ rest) = some (t, rest) := by
  cases h with
  | zero => rfl
  | digits ht hzero =>
    have hread := ht.digits?_append hrest
    cases t with
    | nil => exact absurd rfl ht.1
    | cons c t =>
      have hc : c ≠ '0' := fun h => hzero (congrArg some h)
      rw [List.cons_append] at hread ⊢
      unfold whole?
      split
      case h_1 heq => exact absurd (List.cons.inj heq).1 hc
      case h_2 => exact hread

theorem IsFraction.fraction?_append (h : IsFraction t) (hdigits : EndsDigits rest)
    (hpoint : rest.head? ≠ some '.') : fraction? (t ++ rest) = some (t, rest) := by
  cases h with
  | absent =>
    rw [List.nil_append]
    unfold fraction?
    split
    case h_1 => exact absurd rfl hpoint
    case h_2 => rfl
  | present ht => simp [fraction?, ht.digits?_append hdigits]

theorem IsExponent.exponent?_append (h : IsExponent t) (hrest : EndsNumber rest) :
    exponent? (t ++ rest) = some (t, rest) := by
  cases h with
  | absent =>
    cases rest with
    | nil => rfl
    | cons c rest =>
      have hc : c ∉ ['.', 'e', 'E'] := (hrest c rfl).2
      simp only [List.mem_cons, List.not_mem_nil, or_false, not_or] at hc
      simp [exponent?, hc]
  | @present c sign t hc hsign ht =>
    have hread := ht.digits?_append hrest.endsDigits
    have hmark : (c == 'e' || c == 'E') = true := by simpa using hc
    simp only [List.mem_cons, List.not_mem_nil, or_false] at hsign
    obtain rfl | rfl | rfl := hsign
    · -- Without a sign the first character is a digit.
      obtain ⟨d, u, rfl, hd⟩ := ht.exists_cons
      have hplus : d ≠ '+' := ne_of_isDigit hd rfl
      have hminus : d ≠ '-' := ne_of_isDigit hd rfl
      rw [List.cons_append] at hread
      simp [exponent?, hmark, hplus, hminus, hread]
    · simp [exponent?, hmark, hread]
    · simp [exponent?, hmark, hread]

theorem IsExponent.head? (h : IsExponent t) (hrest : EndsNumber rest) :
    ∀ c ∈ (t ++ rest).head?, c.isDigit = false ∧ c ≠ '.' := by
  cases h with
  | absent =>
    intro c hc
    have ⟨hdigit, hpoint⟩ := hrest c hc
    exact ⟨hdigit, fun he => hpoint (by simp [he])⟩
  | present hc =>
    have hall : ∀ d ∈ ['e', 'E'], d.isDigit = false ∧ d ≠ '.' := by simp
    exact fun d hd => Option.some.inj hd ▸ hall _ hc

theorem IsNumber.number?_append (h : IsNumber t) (hrest : EndsNumber rest) :
    number? (t ++ rest) = some (t, rest) := by
  cases h with
  | @mk sign whole fraction exponent hsign hwhole hfraction hexponent =>
    have he := hexponent.exponent?_append hrest
    have hhead := hexponent.head? hrest
    have hf := hfraction.fraction?_append (fun c hc => (hhead c hc).1)
      fun hc => (hhead _ hc).2 rfl
    have hends : EndsDigits (fraction ++ (exponent ++ rest)) := by
      cases hfraction with
      | absent => exact fun c hc => (hhead c hc).1
      | present => exact fun c hc => Option.some.inj hc ▸ rfl
    have hw := hwhole.whole?_append hends
    simp only [List.mem_cons, List.not_mem_nil, or_false] at hsign
    simp only [List.append_assoc]
    obtain rfl | rfl := hsign
    · obtain ⟨c, u, rfl, hc⟩ := hwhole.exists_cons
      have hminus : c ≠ '-' := ne_of_isDigit hc rfl
      rw [List.cons_append] at hw
      simp [number?, hminus, hw, hf, he]
    · simp [number?, hw, hf, he]

theorem IsNumber.exists_cons (h : IsNumber t) :
    ∃ c u, t = c :: u ∧ c ∉ spaces ∧ c ≠ ']' ∧ c ∉ ['n', 't', 'f', '"', '[', '{'] := by
  have hall : ∀ d ∈ spaces ++ [']'] ++ ['n', 't', 'f', '"', '[', '{'], d.isDigit = false := by
    simp [spaces]
  cases h with
  | mk hsign hwhole =>
    simp only [List.mem_cons, List.not_mem_nil, or_false] at hsign
    obtain rfl | rfl := hsign
    · obtain ⟨c, u, rfl, hc⟩ := hwhole.exists_cons
      have hnot : c ∉ spaces ++ [']'] ++ ['n', 't', 'f', '"', '[', '{'] :=
        fun hm => ne_of_isDigit hc (hall c hm) rfl
      rw [List.mem_append, List.mem_append, not_or, not_or, List.mem_singleton] at hnot
      exact ⟨c, _, rfl, hnot.1.1, hnot.1.2, hnot.2⟩
    · exact ⟨'-', _, rfl, by decide, by decide, by decide⟩

end Numbers

section Strings

def hexDigits : List Text :=
  ["0123456789abcdef".toList, "0123456789ABCDEF".toList]

def IsHexDigit (k : Nat) (c : Char) : Prop :=
  ∃ digits ∈ hexDigits, digits[k]? = some c

instance (k : Nat) (c : Char) : Decidable (IsHexDigit k c) :=
  inferInstanceAs (Decidable (∃ digits ∈ hexDigits, digits[k]? = some c))

inductive SpellsUnit : Nat → Text → Prop
  | mk {i j k l : Nat} {a b c d : Char} :
    IsHexDigit i a → IsHexDigit j b → IsHexDigit k c → IsHexDigit l d →
      SpellsUnit (4096 * i + 256 * j + 16 * k + l) ['\\', 'u', a, b, c, d]

def letters : List (Char × Char) :=
  [('"', '"'), ('\\', '\\'), ('/', '/'), ('b', '\x08'), ('f', '\x0c'), ('n', '\n'), ('r', '\r'),
    ('t', '\t')]

inductive SpellsElement : Element → Text → Prop
  | plain {c : Char} : 0x20 ≤ c.toNat → c ≠ '"' → c ≠ '\\' → SpellsElement (.inl c) [c]
  | letter {c d : Char} : (d, c) ∈ letters → SpellsElement (.inl c) ['\\', d]
  | unit {c : Char} {t : Text} : SpellsUnit c.toNat t → SpellsElement (.inl c) t
  | half {k : Nat} {t : Text} :
    SpellsUnit k t → 0xd800 ≤ k → k < 0xe000 → SpellsElement (.inr k) t

inductive SpellsBody : List Element → Text → Prop
  | nil : SpellsBody [] []
  | cons {e : Element} {es : List Element} {t u : Text} :
    SpellsElement e t → SpellsBody es u → SpellsBody (e :: es) (t ++ u)

-- The text of elements, among which a character beyond the units stands as a pair of surrogates.
inductive Decodes : List Element → Text → Prop
  | nil : Decodes [] []
  | char {c : Char} {es : List Element} {s : Text} :
    Decodes es s → Decodes (.inl c :: es) (c :: s)
  | pair {c : Char} {es : List Element} {s : Text} :
    0x10000 ≤ c.toNat → Decodes es s →
      Decodes (.inr (0xd800 + (c.toNat - 0x10000) / 0x400) ::
        .inr (0xdc00 + (c.toNat - 0x10000) % 0x400) :: es) (c :: s)

-- What stands between the quotes of a string. The string has no text if a surrogate is alone.
inductive SpellsString : Option Text → Text → Prop
  | text {es : List Element} {s t : Text} :
    SpellsBody es t → Decodes es s → SpellsString (some s) t
  | broken {es : List Element} {t : Text} :
    SpellsBody es t → (∀ s, ¬Decodes es s) → SpellsString none t

theorem IsHexDigit.digit? (h : IsHexDigit k c) : Text.digit? c = some k := by
  have hall : ∀ digits ∈ hexDigits, ∀ k, (hk : k < digits.length) →
      Text.digit? digits[k] = some k := by decide
  have ⟨digits, hdigits, hk⟩ := h
  have ⟨hlt, hc⟩ := List.getElem?_eq_some_iff.mp hk
  exact hc ▸ hall digits hdigits k hlt

theorem SpellsUnit.unit? (h : SpellsUnit k t) :
    ∃ a b c d, t = ['\\', 'u', a, b, c, d] ∧ Json.unit? a b c d = some k := by
  cases h with
  | mk ha hb hc hd =>
    refine ⟨_, _, _, _, rfl, ?_⟩
    simp [Json.unit?, ha.digit?, hb.digit?, hc.digit?, hd.digit?]

theorem escaped?_of_mem (h : (d, c) ∈ letters) : escaped? d = some c := by
  have hall : ∀ l ∈ letters, escaped? l.1 = some l.2 := by decide
  exact hall (d, c) h

theorem SpellsElement.stringElements?_append (h : SpellsElement e t)
    (hu : stringElements? u = some (es, rest)) :
    stringElements? (t ++ u) = some (e :: es, rest) := by
  cases h with
  | @plain c hcontrol hquote hslash =>
    have hlow : ¬c.toNat < 0x20 := Nat.not_lt.mpr hcontrol
    simp [stringElements?, hslash, hlow, hu]
  | @letter c d hd =>
    have hletter := escaped?_of_mem hd
    have hunit : d ≠ 'u' := by
      rintro rfl
      exact nomatch hletter
    simp [stringElements?, hletter, hunit, hu]
  | @unit c t ht =>
    obtain ⟨a, b, c', d, rfl, hunit⟩ := ht.unit?
    have hvalid : c.toNat.isValidChar := c.valid
    simp [stringElements?, hunit, hvalid, hu]
  | @half k t ht hlow hhigh =>
    obtain ⟨a, b, c, d, rfl, hunit⟩ := ht.unit?
    have hinvalid : ¬k.isValidChar := by
      simp only [Nat.isValidChar]
      omega
    simp [stringElements?, hunit, hinvalid, hu]

theorem SpellsBody.stringElements?_append (h : SpellsBody es t) :
    stringElements? (t ++ '"' :: rest) = some (es, rest) := by
  induction h with
  | nil => rfl
  | cons he _ ih =>
    rw [List.append_assoc]
    exact he.stringElements?_append ih

theorem textOf?_pair (hc : 0x10000 ≤ c.toNat) :
    textOf? (.inr (0xd800 + (c.toNat - 0x10000) / 0x400) ::
      .inr (0xdc00 + (c.toNat - 0x10000) % 0x400) :: es) = (textOf? es).map (c :: ·) := by
  have hvalid : c.toNat.isValidChar := c.valid
  have hhigh : isHighSurrogate (0xd800 + (c.toNat - 0x10000) / 0x400) = true := by
    simp only [Nat.isValidChar] at hvalid
    simp only [isHighSurrogate, Bool.and_eq_true, decide_eq_true_eq]
    omega
  have hlow : isLowSurrogate (0xdc00 + (c.toNat - 0x10000) % 0x400) = true := by
    simp only [isLowSurrogate, Bool.and_eq_true, decide_eq_true_eq]
    omega
  have hnumber : 0x10000 + (0xd800 + (c.toNat - 0x10000) / 0x400 - 0xd800) * 0x400 +
      (0xdc00 + (c.toNat - 0x10000) % 0x400 - 0xdc00) = c.toNat := by omega
  rw [textOf?, if_pos (by rw [hhigh, hlow]; rfl), hnumber, Char.ofNat_toNat]

theorem decodes_surrogates {l : Nat} (hk : isHighSurrogate k = true) (hl : isLowSurrogate l = true)
    (hs : Decodes es s) : Decodes (.inr k :: .inr l :: es)
      (Char.ofNat (0x10000 + (k - 0xd800) * 0x400 + (l - 0xdc00)) :: s) := by
  simp only [isHighSurrogate, isLowSurrogate, Bool.and_eq_true, decide_eq_true_eq] at hk hl
  have hvalid : (0x10000 + (k - 0xd800) * 0x400 + (l - 0xdc00)).isValidChar := by
    simp only [Nat.isValidChar]
    omega
  have hc : (Char.ofNat (0x10000 + (k - 0xd800) * 0x400 + (l - 0xdc00))).toNat =
      0x10000 + (k - 0xd800) * 0x400 + (l - 0xdc00) := by
    rw [Char.ofNat, dif_pos hvalid]
    rfl
  generalize Char.ofNat (0x10000 + (k - 0xd800) * 0x400 + (l - 0xdc00)) = c at hc ⊢
  have hhigh : 0xd800 + (c.toNat - 0x10000) / 0x400 = k := by omega
  have hlow : 0xdc00 + (c.toNat - 0x10000) % 0x400 = l := by omega
  have hpair := Decodes.pair (c := c) (by omega) hs
  rwa [hhigh, hlow] at hpair

theorem textOf?_eq_some_iff : textOf? es = some s ↔ Decodes es s := by
  constructor
  case mp =>
    intro h
    fun_induction textOf? es generalizing s with
    | case1 =>
      obtain rfl := Option.some.inj h
      exact .nil
    | case2 c es ih =>
      obtain ⟨s, hs, rfl⟩ := Option.map_eq_some_iff.mp h
      exact .char (ih hs)
    | case3 k l es hpair ih =>
      obtain ⟨s, hs, rfl⟩ := Option.map_eq_some_iff.mp h
      have ⟨hk, hl⟩ := Bool.and_eq_true_iff.mp hpair
      exact decodes_surrogates hk hl (ih hs)
    | case4 => exact nomatch h
    | case5 => exact nomatch h
  case mpr =>
    intro h
    induction h with
    | nil => rfl
    | char _ ih => rw [textOf?, ih]; rfl
    | pair hc _ ih => rw [textOf?_pair hc, ih]; rfl

theorem SpellsString.string?_append {o : Option Text} (h : SpellsString o t) :
    string? (t ++ '"' :: rest) = some (o, rest) := by
  cases h with
  | text hbody hs => simp [string?, hbody.stringElements?_append, textOf?_eq_some_iff.mpr hs]
  | @broken es _ hbody hs =>
    have hnone : textOf? es = none :=
      Option.eq_none_iff_forall_ne_some.mpr fun s h => hs s (textOf?_eq_some_iff.mp h)
    simp [string?, hbody.stringElements?_append, hnone]

end Strings

section Values

def Blank (w : Text) : Prop :=
  ∀ c ∈ w, c ∈ spaces

instance (w : Text) : Decidable (Blank w) :=
  List.decidableBAll (· ∈ spaces) w

inductive SpellsName : Option Text → Text → Prop
  | mk {k : Option Text} {w t w' : Text} :
    Blank w → SpellsString k t → Blank w' → SpellsName k (w ++ '"' :: (t ++ '"' :: (w' ++ [':'])))

mutual

inductive Spells : Json → Text → Prop
  | null : Spells null ['n', 'u', 'l', 'l']
  | true : Spells (bool true) ['t', 'r', 'u', 'e']
  | false : Spells (bool false) ['f', 'a', 'l', 's', 'e']
  | number {n : Text} : IsNumber n → Spells (number n) n
  | string {s : Option Text} {t : Text} :
    SpellsString s t → Spells (string s) ('"' :: (t ++ ['"']))
  | empty {w : Text} : Blank w → Spells (array []) ('[' :: (w ++ [']']))
  | array {xs : List Json} {t : Text} : SpellsElements xs t → Spells (array xs) ('[' :: t)
  | memberless {w : Text} : Blank w → Spells (object []) ('{' :: (w ++ ['}']))
  | object {ms : List (Option Text × Json)} {t : Text} :
    SpellsMembers ms t → Spells (object ms) ('{' :: t)

inductive SpellsSpaced : Json → Text → Prop
  | mk {x : Json} {w t w' : Text} :
    Blank w → Spells x t → Blank w' → SpellsSpaced x (w ++ (t ++ w'))

inductive SpellsElements : List Json → Text → Prop
  | last {x : Json} {t : Text} : SpellsSpaced x t → SpellsElements [x] (t ++ [']'])
  | more {x : Json} {xs : List Json} {t u : Text} :
    SpellsSpaced x t → SpellsElements xs u → SpellsElements (x :: xs) (t ++ ',' :: u)

inductive SpellsMembers : List (Option Text × Json) → Text → Prop
  | last {k : Option Text} {x : Json} {s t : Text} :
    SpellsName k s → SpellsSpaced x t → SpellsMembers [(k, x)] (s ++ (t ++ ['}']))
  | more {k : Option Text} {x : Json} {ms : List (Option Text × Json)} {s t u : Text} :
    SpellsName k s → SpellsSpaced x t → SpellsMembers ms u →
      SpellsMembers ((k, x) :: ms) (s ++ (t ++ ',' :: u))

end

theorem isSpace_iff : isSpace c = true ↔ c ∈ spaces := by
  simp [isSpace, spaces, or_assoc]

theorem Blank.skipSpace_append (h : Blank w) : skipSpace (w ++ t) = skipSpace t :=
  List.dropWhile_append_of_pos fun c hc => isSpace_iff.mpr (h c hc)

theorem skipSpace_cons (hc : c ∉ spaces) : skipSpace (c :: t) = c :: t :=
  List.dropWhile_cons_of_neg fun hspace => hc (isSpace_iff.mp hspace)

theorem skipSpace_skipSpace (t : Text) : skipSpace (skipSpace t) = skipSpace t :=
  dropWhile_of_stop fun _ hc => head?_dropWhile hc

variable {fuel : Nat} {x : Json} {xs : List Json} {ms : List (Option Text × Json)} {n : Option Text}

theorem readValue?_skipSpace : readValue? fuel (skipSpace t) = readValue? fuel t := by
  cases fuel with
  | zero => rfl
  | succ fuel => rw [readValue?, readValue?, skipSpace_skipSpace]

theorem readElements?_skipSpace : readElements? fuel (skipSpace t) = readElements? fuel t := by
  cases fuel with
  | zero => rfl
  | succ fuel => rw [readElements?, readElements?, readValue?_skipSpace]

theorem readMembers?_skipSpace : readMembers? fuel (skipSpace t) = readMembers? fuel t := by
  cases fuel with
  | zero => rfl
  | succ fuel => rw [readMembers?, readMembers?, skipSpace_skipSpace]

theorem Spells.exists_cons (h : Spells x t) : ∃ c u, t = c :: u ∧ c ∉ spaces ∧ c ≠ ']' := by
  cases h with
  | number hn =>
    have ⟨c, u, ht, hspace, hclose, _⟩ := hn.exists_cons
    exact ⟨c, u, ht, hspace, hclose⟩
  | _ => exact ⟨_, _, rfl, by decide, by decide⟩

theorem readValue?_number (h : IsNumber t) (hrest : EndsNumber rest) :
    readValue? (fuel + 1) (t ++ rest) = some (number t, rest) := by
  have hread := h.number?_append hrest
  obtain ⟨c, u, rfl, hspace, -, hc⟩ := h.exists_cons
  have hskip : skipSpace (c :: (u ++ rest)) = c :: (u ++ rest) := skipSpace_cons hspace
  simp only [List.mem_cons, List.not_mem_nil, or_false, not_or] at hc
  rw [List.cons_append] at hread ⊢
  simp [readValue?, hskip, hc, hread]

theorem readValue?_string (h : string? t = some (n, rest)) :
    readValue? (fuel + 1) ('"' :: t) = some (string n, rest) := by
  have hspace : skipSpace ('"' :: t) = '"' :: t := rfl
  simp [readValue?, hspace, h]

theorem readValue?_array (h : readElements? fuel t = some (xs, rest))
    (ht : ∀ u, skipSpace t ≠ ']' :: u) :
    readValue? (fuel + 1) ('[' :: t) = some (array xs, rest) := by
  have hspace : skipSpace ('[' :: t) = '[' :: t := rfl
  rw [← readElements?_skipSpace] at h
  simp [readValue?, hspace, h]

theorem readValue?_object (h : readMembers? fuel t = some (ms, rest))
    (ht : ∀ u, skipSpace t ≠ '}' :: u) :
    readValue? (fuel + 1) ('{' :: t) = some (object ms, rest) := by
  have hspace : skipSpace ('{' :: t) = '{' :: t := rfl
  rw [← readMembers?_skipSpace] at h
  simp [readValue?, hspace, h]

theorem readValue?_empty (hw : Blank w) :
    readValue? (fuel + 1) ('[' :: (w ++ ']' :: rest)) = some (array [], rest) := by
  have hopen : skipSpace ('[' :: (w ++ ']' :: rest)) = '[' :: (w ++ ']' :: rest) := rfl
  have hclose : skipSpace (w ++ ']' :: rest) = ']' :: rest := hw.skipSpace_append
  simp [readValue?, hopen, hclose]

theorem readValue?_memberless (hw : Blank w) :
    readValue? (fuel + 1) ('{' :: (w ++ '}' :: rest)) = some (object [], rest) := by
  have hopen : skipSpace ('{' :: (w ++ '}' :: rest)) = '{' :: (w ++ '}' :: rest) := rfl
  have hclose : skipSpace (w ++ '}' :: rest) = '}' :: rest := hw.skipSpace_append
  simp [readValue?, hopen, hclose]

theorem SpellsElements.skipSpace_ne (h : SpellsElements xs t) :
    skipSpace (t ++ rest) ≠ ']' :: u := by
  -- Behind white space there is the beginning of the first element.
  have hspaced : ∀ {x t} rest, SpellsSpaced x t → skipSpace (t ++ rest) ≠ ']' :: u := by
    intro x t rest hx
    cases hx with
    | mk hw hx =>
      obtain ⟨c, v, rfl, hc, hclose⟩ := hx.exists_cons
      rw [List.append_assoc, hw.skipSpace_append, List.cons_append, List.cons_append,
        skipSpace_cons hc]
      exact fun h => hclose (List.cons.inj h).1
  cases h with
  | last hx =>
    rw [List.append_assoc]
    exact hspaced _ hx
  | more hx =>
    rw [List.append_assoc]
    exact hspaced _ hx

theorem SpellsName.exists_string? (h : SpellsName n t) (rest : Text) :
    ∃ u v, skipSpace (t ++ rest) = '"' :: u ∧ string? u = some (n, v) ∧
      skipSpace v = ':' :: rest := by
  cases h with
  | @mk w t w' hw ht hw' =>
    refine ⟨t ++ '"' :: (w' ++ ':' :: rest), w' ++ ':' :: rest, ?_, ht.string?_append, ?_⟩
    · rw [List.append_assoc, hw.skipSpace_append]
      simp [skipSpace, isSpace]
    · rw [hw'.skipSpace_append]
      rfl

theorem SpellsMembers.skipSpace_ne (h : SpellsMembers ms t) :
    skipSpace (t ++ rest) ≠ '}' :: u := by
  have hname : ∀ {n t} rest, SpellsName n t → skipSpace (t ++ rest) ≠ '}' :: u := by
    intro n t rest ht
    have ⟨_, _, hquote, _⟩ := ht.exists_string? rest
    rw [hquote]
    exact fun h => absurd (List.cons.inj h).1 (by decide)
  cases h with
  | last ht =>
    rw [List.append_assoc]
    exact hname _ ht
  | more ht =>
    rw [List.append_assoc]
    exact hname _ ht

-- Is everything that is spelled in half as many characters read with so much fuel?
structure Reads (fuel : Nat) : Prop where
  value {x : Json} {t : Text} : Spells x t → 2 * t.length ≤ fuel →
    ∀ rest, EndsNumber rest → readValue? fuel (t ++ rest) = some (x, rest)
  elements {xs : List Json} {t : Text} : SpellsElements xs t → 2 * t.length ≤ fuel →
    ∀ rest, readElements? fuel (t ++ rest) = some (xs, rest)
  members {ms : List (Option Text × Json)} {t : Text} : SpellsMembers ms t → 2 * t.length ≤ fuel →
    ∀ rest, readMembers? fuel (t ++ rest) = some (ms, rest)

namespace Reads

theorem spaced (hr : Reads fuel) (h : SpellsSpaced x t) (hfuel : 2 * t.length ≤ fuel)
    (rest : Text) (hrest : ∀ c ∈ rest.head?, c ∈ [',', ']', '}']) :
    ∃ rest', readValue? fuel (t ++ rest) = some (x, rest') ∧ skipSpace rest' = rest := by
  cases h with
  | @mk _ w t w' hw hx hw' =>
    have hlength : 2 * t.length ≤ fuel := by
      simp only [List.length_append] at hfuel
      omega
    have hends : EndsNumber (w' ++ rest) := by
      have hall : ∀ c ∈ spaces ++ [',', ']', '}'], c.isDigit = false ∧ c ∉ ['.', 'e', 'E'] := by
        simp [spaces]
      intro c hc
      refine hall c (List.mem_append.mpr ?_)
      cases w' with
      | nil => exact .inr (hrest c hc)
      | cons d w' => exact .inl (Option.some.inj hc ▸ hw' d (.head w'))
    have hskip : ∀ c ∈ rest.head?, isSpace c = false := by
      have hall : ∀ c ∈ [',', ']', '}'], isSpace c = false := by simp [isSpace]
      exact fun c hc => hall c (hrest c hc)
    refine ⟨w' ++ rest, ?read, ?skip⟩
    case read =>
      have hread := hr.value hx hlength _ hends
      rw [List.append_assoc, List.append_assoc, ← readValue?_skipSpace, hw.skipSpace_append,
        readValue?_skipSpace, hread]
    case skip => rw [hw'.skipSpace_append, skipSpace, dropWhile_of_stop hskip]

theorem value_succ (hr : Reads fuel) (h : Spells x t) (hfuel : 2 * t.length ≤ fuel + 1)
    (rest : Text) (hrest : EndsNumber rest) :
    readValue? (fuel + 1) (t ++ rest) = some (x, rest) := by
  cases h with
  | null => rfl
  | true => rfl
  | false => rfl
  | number hn => exact readValue?_number hn hrest
  | @string s t hs =>
    have hread : string? (t ++ '"' :: rest) = some (s, rest) := hs.string?_append
    rw [List.cons_append, List.append_assoc]
    exact readValue?_string hread
  | empty hw =>
    rw [List.cons_append, List.append_assoc]
    exact readValue?_empty hw
  | array hxs =>
    simp only [List.length_cons] at hfuel
    exact readValue?_array (hr.elements hxs (by omega) rest) fun _ => hxs.skipSpace_ne
  | memberless hw =>
    rw [List.cons_append, List.append_assoc]
    exact readValue?_memberless hw
  | object hms =>
    simp only [List.length_cons] at hfuel
    exact readValue?_object (hr.members hms (by omega) rest) fun _ => hms.skipSpace_ne

theorem elements_succ (hr : Reads fuel) (h : SpellsElements xs t)
    (hfuel : 2 * t.length ≤ fuel + 1) (rest : Text) :
    readElements? (fuel + 1) (t ++ rest) = some (xs, rest) := by
  cases h with
  | last hx =>
    simp only [List.length_append, List.length_cons] at hfuel
    have ⟨rest', hread, hskip⟩ := hr.spaced hx (by omega) (']' :: rest) (by simp)
    simp [readElements?, hread, hskip]
  | @more x xs t u hx hxs =>
    simp only [List.length_append, List.length_cons] at hfuel
    have ⟨rest', hread, hskip⟩ := hr.spaced hx (by omega) (',' :: (u ++ rest)) (by simp)
    have hmore := hr.elements hxs (by omega) rest
    simp [readElements?, hread, hskip, hmore]

theorem members_succ (hr : Reads fuel) (h : SpellsMembers ms t)
    (hfuel : 2 * t.length ≤ fuel + 1) (rest : Text) :
    readMembers? (fuel + 1) (t ++ rest) = some (ms, rest) := by
  cases h with
  | @last k x s t hk hx =>
    simp only [List.length_append, List.length_cons] at hfuel
    have ⟨rest', hread, hskip⟩ := hr.spaced hx (by omega) ('}' :: rest) (by simp)
    have ⟨u, v, hquote, hstring, hcolon⟩ := hk.exists_string? (t ++ '}' :: rest)
    simp [readMembers?, hquote, hstring, hcolon, hread, hskip]
  | @more k x xs s t u hk hx hms =>
    simp only [List.length_append, List.length_cons] at hfuel
    have ⟨rest', hread, hskip⟩ := hr.spaced hx (by omega) (',' :: (u ++ rest)) (by simp)
    have ⟨u', v, hquote, hstring, hcolon⟩ := hk.exists_string? (t ++ ',' :: (u ++ rest))
    have hmore := hr.members hms (by omega) rest
    simp [readMembers?, hquote, hstring, hcolon, hread, hskip, hmore]

end Reads

theorem reads (fuel : Nat) : Reads fuel := by
  induction fuel with
  | zero =>
    -- No spelling is empty.
    refine ⟨fun h ht => ?value, fun h ht => ?elements, fun h ht => ?members⟩
    case value =>
      obtain ⟨c, u, rfl, _⟩ := h.exists_cons
      simp at ht
    case elements => cases h <;> simp at ht
    case members => cases h <;> simp at ht
  | succ fuel ih =>
    exact ⟨ih.value_succ, ih.elements_succ, ih.members_succ⟩

theorem parse?_of_spells (h : SpellsSpaced x t) : parse? t = some x := by
  have ⟨rest, hread, hskip⟩ := (reads (2 * t.length + 2)).spaced h (by omega) [] (by simp)
  rw [List.append_nil] at hread
  simp [parse?, hread, hskip]

end Values

end ExcerptSearch.Json
