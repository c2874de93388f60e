import ExcerptSearch.Json.Printer
import ExcerptSearch.Proofs.Json.Spelling

namespace ExcerptSearch.Json

variable {k : Nat} {x : Json} {xs : List Json} {ms : List (Option Text × Json)}

theorem head?_toDigits_ne (hk : 0 < k) : (Nat.toDigits 10 k).head? ≠ some '0' := by
  induction k using Nat.strongRecOn with
  | ind k ih =>
    obtain hlt | hle := Nat.lt_or_ge k 10
    · have hall : ∀ k < 10, 0 < k → k.digitChar ≠ '0' := by decide
      rw [Nat.toDigits_of_lt_base hlt]
      exact fun h => hall k hlt hk (Option.some.inj h)
    · have hhead := ih (k / 10) (by omega) (by omega)
      rw [List.head?_eq_some_head Nat.toDigits_ne_nil] at hhead
      rwa [Nat.toDigits_of_base_le (by decide) hle, List.head?_append,
        List.head?_eq_some_head Nat.toDigits_ne_nil, Option.some_or]

theorem isDigits_ofNat (k : Nat) : IsDigits (Text.ofNat k) :=
  ⟨Nat.toDigits_ne_nil, fun _ hc => Nat.isDigit_of_mem_toDigits (by decide) (by decide) hc⟩

theorem isWhole_ofNat (k : Nat) : IsWhole (Text.ofNat k) := by
  obtain rfl | hk := Nat.eq_zero_or_pos k
  · exact .zero
  · exact .digits (isDigits_ofNat k) (head?_toDigits_ne hk)

theorem nat?_ofNat (k : Nat) : (ofNat k).nat? = some k := by
  have ⟨hne, hdigits⟩ := isDigits_ofNat k
  have hall : (Text.ofNat k).all Char.isDigit = true := List.all_eq_true.mpr hdigits
  have hvalue : Nat.ofDigitChars 10 (Text.ofNat k) 0 = k :=
    Nat.ofDigitChars_toDigits (by decide) (by decide)
  rw [ofNat, nat?, hall, List.isEmpty_eq_false_iff.mpr hne, hvalue]
  rfl

theorem spells_ofNat (k : Nat) : Spells (ofNat k) (ofNat k).print := by
  have h := IsNumber.mk (.head _) (isWhole_ofNat k) .absent .absent
  rw [List.nil_append, List.append_nil, List.append_nil] at h
  exact .number h

theorem isHexDigit_hexDigit (hk : k < 16) : IsHexDigit k (hexDigit k) := by
  have hall : ∀ k < 16, "0123456789abcdef".toList[k]? = some (hexDigit k) := by decide
  exact ⟨_, .head _, hall k hk⟩

theorem spellsElement_printChar (c : Char) : SpellsElement (.inl c) (printChar c) := by
  unfold printChar
  split
  case h_8 hquote hslash _ _ _ _ _ =>
    split
    case isTrue hc =>
      have hunit : SpellsUnit (4096 * 0 + 256 * 0 + 16 * (c.toNat / 16) + c.toNat % 16)
          ['\\', 'u', '0', '0', hexDigit (c.toNat / 16), hexDigit (c.toNat % 16)] :=
        .mk (isHexDigit_hexDigit (by decide)) (isHexDigit_hexDigit (by decide))
          (isHexDigit_hexDigit (by omega)) (isHexDigit_hexDigit (Nat.mod_lt _ (by decide)))
      have hvalue : 4096 * 0 + 256 * 0 + 16 * (c.toNat / 16) + c.toNat % 16 = c.toNat := by omega
      rw [hvalue] at hunit
      exact .unit hunit
    case isFalse hc => exact .plain (Nat.not_lt.mp hc) hquote hslash
  all_goals exact .letter (by decide)

theorem spellsBody_printChar (s : Text) : SpellsBody (s.map .inl) (s.flatMap printChar) := by
  induction s with
  | nil => exact .nil
  | cons c s ih =>
    rw [List.flatMap_cons]
    exact .cons (spellsElement_printChar c) ih

theorem decodes_chars (s : Text) : Decodes (s.map .inl) s := by
  induction s with
  | nil => exact .nil
  | cons c s ih => exact .char ih

theorem spellsString_printChar (s : Text) : SpellsString (some s) (s.flatMap printChar) :=
  .text (spellsBody_printChar s) (decodes_chars s)

theorem spells_ofText (s : Text) : Spells (ofText s) (ofText s).print :=
  .string (spellsString_printChar s)

theorem Spells.spaced {t : Text} (h : Spells x t) : SpellsSpaced x t := by
  have hblank : Blank [] := by decide
  have hspaced := SpellsSpaced.mk hblank h hblank
  rwa [List.nil_append, List.append_nil] at hspaced

theorem spellsElements_print (hx : Spells x x.print) (hxs : ∀ x ∈ xs, Spells x x.print) :
    SpellsElements (x :: xs) (printElements (x :: xs) ++ [']']) := by
  induction xs generalizing x with
  | nil => exact .last hx.spaced
  | cons y xs ih =>
    have ⟨hy, hxs⟩ := List.forall_mem_cons.mp hxs
    rw [printElements, List.append_assoc]
    exact .more hx.spaced (ih hy hxs)

theorem spells_array (h : ∀ x ∈ xs, Spells x x.print) : Spells (array xs) (array xs).print := by
  cases xs with
  | nil => exact .empty (by decide)
  | cons x xs =>
    have ⟨hx, hxs⟩ := List.forall_mem_cons.mp h
    exact .array (spellsElements_print hx hxs)

theorem spellsName_printString (s : Text) :
    SpellsName (some s) (printString (some s) ++ [':']) := by
  have hblank : Blank [] := by decide
  have hname := SpellsName.mk hblank (spellsString_printChar s) hblank
  simpa [printString, printText] using hname

theorem spellsMembers_print {n : Option Text} (hn : n.isSome) (hx : Spells x x.print)
    (hms : ∀ m ∈ ms, m.1.isSome ∧ Spells m.2 m.2.print) :
    SpellsMembers ((n, x) :: ms) (printMembers ((n, x) :: ms) ++ ['}']) := by
  induction ms generalizing n x with
  | nil =>
    obtain ⟨s, rfl⟩ := Option.isSome_iff_exists.mp hn
    have h := SpellsMembers.last (spellsName_printString s) hx.spaced
    simpa [printMembers] using h
  | cons m ms ih =>
    obtain ⟨s, rfl⟩ := Option.isSome_iff_exists.mp hn
    have ⟨⟨hm, hvalue⟩, hms⟩ := List.forall_mem_cons.mp hms
    have h := SpellsMembers.more (spellsName_printString s) hx.spaced (ih hm hvalue hms)
    simpa [printMembers] using h

theorem spells_object (h : ∀ m ∈ ms, m.1.isSome ∧ Spells m.2 m.2.print) :
    Spells (object ms) (object ms).print := by
  cases ms with
  | nil => exact .memberless (by decide)
  | cons m ms =>
    have ⟨⟨hm, hvalue⟩, hms⟩ := List.forall_mem_cons.mp h
    exact .object (spellsMembers_print hm hvalue hms)

end ExcerptSearch.Json
