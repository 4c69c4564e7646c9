/-
**The escaping of `html/template` outside of tags.**

A value that a template prints between tags passes the filter `_html_template_htmlescaper`, which
replaces seven characters.

* **`escape_eq_iff`** — a text is printed as it is exactly when it has none of them.
-/

import Mathlib.Data.List.Basic

namespace HtmlText

/-- `htmlReplacementTable`. -/
def table : List (Char × String) :=
  [('\x00', "\uFFFD"), ('"', "&#34;"), ('&', "&amp;"), ('\'', "&#39;"), ('+', "&#43;"), ('<', "&lt;"),
    ('>', "&gt;")]

def replacement (c : Char) : Option String := table.lookup c

def escapeChar (c : Char) : List Char :=
  match replacement c with
  | some text => text.toList
  | none => [c]

/-- What is printed for a text. -/
def escape (s : String) : String := String.ofList (s.toList.flatMap escapeChar)

/-- A text that has no character that is replaced. -/
def Plain (s : String) : Prop := ∀ c ∈ s.toList, replacement c = none

theorem mem_table {c : Char} {text : String} (replaced : replacement c = some text) :
    (c, text) ∈ table := by
  obtain ⟨before, after, split, -⟩ := List.lookup_eq_some_iff.mp replaced
  rw [split]
  exact List.mem_append_right _ List.mem_cons_self

/-- What holds of every replacement and of every character that is kept. -/
theorem forall_escapeChar {P : Char → Prop} {c : Char} (kept : P c)
    (replaced : ∀ entry ∈ table, ∀ x ∈ entry.2.toList, P x) : ∀ x ∈ escapeChar c, P x := by
  unfold escapeChar
  cases found : replacement c with
  | none => exact fun x member => List.mem_singleton.mp member ▸ kept
  | some text => exact replaced (c, text) (mem_table found)

theorem one_le_length_escapeChar (c : Char) : 1 ≤ (escapeChar c).length := by
  have filled : ∀ entry ∈ table, 1 ≤ entry.2.toList.length := by decide
  unfold escapeChar
  cases found : replacement c with
  | none => exact Nat.le_refl 1
  | some text => exact filled (c, text) (mem_table found)

theorem length_le_flatMap_escapeChar (text : List Char) :
    text.length ≤ (text.flatMap escapeChar).length := by
  induction text with
  | nil => exact Nat.le_refl 0
  | cons c text ih =>
    have first := one_le_length_escapeChar c
    rw [List.flatMap_cons, List.length_append, List.length_cons]
    omega

theorem escapeChar_of_replaced {c : Char} {text : String} (found : replacement c = some text) :
    escapeChar c = text.toList := by
  rw [escapeChar, found]

/-- A replacement begins with another character, or is longer than what it replaces. -/
theorem escapeChar_append_ne {c : Char} {replaced : String} (found : replacement c = some replaced)
    {text more : List Char} (longer : text.length ≤ more.length) :
    escapeChar c ++ more ≠ c :: text := by
  have entries : ∀ entry ∈ table, entry.2.toList.head? ≠ some entry.1 ∨ 1 < entry.2.toList.length := by
    decide
  have filled := one_le_length_escapeChar c
  intro same
  rw [escapeChar_of_replaced found] at same filled
  rcases entries (c, replaced) (mem_table found) with other | long
  · obtain ⟨first, rest, parts⟩ := List.exists_cons_of_length_pos filled
    rw [parts] at same other
    exact other (congrArg some (List.cons.inj same).1)
  · have lengths := congrArg List.length same
    rw [List.length_append, List.length_cons] at lengths
    dsimp only at long
    omega

theorem flatMap_escapeChar_eq_iff (text : List Char) :
    text.flatMap escapeChar = text ↔ ∀ c ∈ text, replacement c = none := by
  induction text with
  | nil => exact ⟨fun _ => nofun, fun _ => rfl⟩
  | cons c text ih =>
    rw [List.flatMap_cons, List.forall_mem_cons]
    cases found : replacement c with
    | none =>
      have kept : escapeChar c = [c] := by rw [escapeChar, found]
      rw [kept, List.singleton_append, List.cons.injEq, eq_self, true_and, ih, eq_self, true_and]
    | some replaced =>
      constructor
      · intro same
        exact absurd same (escapeChar_append_ne found (length_le_flatMap_escapeChar text))
      · rintro ⟨impossible, -⟩
        cases impossible

/-- **A text is printed as it is exactly when it is plain.** -/
theorem escape_eq_iff (s : String) : escape s = s ↔ Plain s := by
  rw [Plain, ← flatMap_escapeChar_eq_iff, escape]
  constructor
  · intro same
    have chars := congrArg String.toList same
    rwa [String.toList_ofList] at chars
  · intro same
    rw [same, String.ofList_toList]

theorem escape_ne_empty {s : String} (filled : s ≠ "") : escape s ≠ "" := by
  intro empty
  have longer := length_le_flatMap_escapeChar s.toList
  have chars := congrArg String.toList empty
  rw [escape, String.toList_ofList] at chars
  rw [chars] at longer
  exact filled (String.toList_eq_nil_iff.mp (List.length_eq_zero_iff.mp (Nat.le_zero.mp longer)))

theorem forall_mem_escape {P : Char → Prop} {s : String} (kept : ∀ c ∈ s.toList, P c)
    (replaced : ∀ entry ∈ table, ∀ x ∈ entry.2.toList, P x) : ∀ x ∈ (escape s).toList, P x := by
  intro x member
  rw [escape, String.toList_ofList] at member
  obtain ⟨c, listed, found⟩ := List.mem_flatMap.mp member
  exact forall_escapeChar (kept c listed) replaced x found

end HtmlText
