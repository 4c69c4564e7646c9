/-
**What an expression matches, read off its parts.**

`run` has a cursor for each way to cut a text into texts for the parts of an expression. The lemmas
say, part by part, which texts a part takes, so that a match of `Regex.all` is taken apart, or put
together, as a concatenation.

* **`mem_run_all_lit`**, **`mem_run_all_plus`**, **`mem_run_all_group`** and so on — the first part of
  an expression, and what is left for the others.
* **`run_star_set`** — the repetitions of a class, the longest first.
* **`submatch_iff`** — `FindStringSubmatch` of an expression whose matches have one shape each.
* **`findAtBoundary_cases`** — the first match that starts at a word boundary.
* `Cut` — the texts of a class in a text, from left to right, and what is between them;
  **`TakesClass.replaceAllString_eq`** — `ReplaceAllString` puts the replacement for each of them.
-/

import AssistedAgent.Lib.GoRegexp
import Mathlib.Data.List.TakeWhile

namespace GoRegexp

open Regex

/-! ### Cutting a text -/

/-- The run of a class at the head of a text, up to where it cannot go on. -/
theorem takeWhile_append_of_stops {p : Char → Bool} {l r : List Char} (all : ∀ x ∈ l, p x = true)
    (stops : ∀ x ∈ r.head?, p x = false) : (l ++ r).takeWhile p = l := by
  rw [List.takeWhile_append_of_pos all]
  cases r with
  | nil => simp
  | cons x r => simp [stops x rfl]

/-- Two cuts of one text after a run of a class, where neither run can go on, are the same cut. -/
theorem append_inj_of_class {p : Char → Bool} {l r l' r' : List Char} (same : l ++ r = l' ++ r')
    (all : ∀ x ∈ l, p x = true) (all' : ∀ x ∈ l', p x = true)
    (stops : ∀ x ∈ r.head?, p x = false) (stops' : ∀ x ∈ r'.head?, p x = false) : l = l' ∧ r = r' := by
  have eq : l = l' := by
    rw [← takeWhile_append_of_stops all stops, same, takeWhile_append_of_stops all' stops']
  exact ⟨eq, List.append_cancel_left (eq ▸ same)⟩

/-- A text that starts in one class does not start in a class that excludes it. -/
theorem head_of_class {p q : Char → Bool} (excludes : ∀ x, q x = true → p x = false) {l : List Char}
    (nonempty : l ≠ []) (all : ∀ x ∈ l, q x = true) (r : List Char) :
      ∀ x ∈ (l ++ r).head?, p x = false := by
  intro x first
  cases l with
  | nil => exact absurd rfl nonempty
  | cons y l =>
    cases first
    exact excludes _ (all _ List.mem_cons_self)

/-- Two cuts of one text at a character that neither left part has are the same cut. -/
theorem append_cons_inj {x : Char} {l r l' r' : List Char} (same : l ++ x :: r = l' ++ x :: r')
    (without : x ∉ l) (without' : x ∉ l') : l = l' ∧ r = r' := by
  have differs {l : List Char} (without : x ∉ l) : ∀ y ∈ l, (y != x) = true := by
    intro y member
    exact bne_iff_ne.mpr fun eq => without (eq ▸ member)
  have stops (r : List Char) : ∀ y ∈ (x :: r).head?, (y != x) = false := by
    intro y member
    cases member
    exact bne_self_eq_false x
  obtain ⟨left, right⟩ := append_inj_of_class same (differs without) (differs without')
    (stops r) (stops r')
  exact ⟨left, (List.cons.inj right).2⟩

/-- The same from the right: two cuts before a run of a class that neither left part ends in. -/
theorem append_inj_of_class_right {p : Char → Bool} {l r l' r' : List Char} (same : l ++ r = l' ++ r')
    (all : ∀ x ∈ r, p x = true) (all' : ∀ x ∈ r', p x = true)
    (stops : ∀ x ∈ l.getLast?, p x = false) (stops' : ∀ x ∈ l'.getLast?, p x = false) :
      l = l' ∧ r = r' := by
  have reversed := congrArg List.reverse same
  rw [List.reverse_append, List.reverse_append] at reversed
  obtain ⟨right, left⟩ := append_inj_of_class reversed
    (fun x member => all x (List.mem_reverse.mp member))
    (fun x member => all' x (List.mem_reverse.mp member))
    (by rwa [List.head?_reverse]) (by rwa [List.head?_reverse])
  exact ⟨List.reverse_injective left, List.reverse_injective right⟩

/-- Two cuts of one text at a character that neither right part has are the same cut. -/
theorem append_cons_inj_right {x : Char} {l r l' r' : List Char} (same : l ++ x :: r = l' ++ x :: r')
    (without : x ∉ r) (without' : x ∉ r') : l = l' ∧ r = r' := by
  have reversed := congrArg List.reverse same
  rw [List.reverse_append, List.reverse_append, List.reverse_cons, List.reverse_cons, List.append_assoc,
    List.append_assoc, List.singleton_append, List.singleton_append] at reversed
  obtain ⟨right, left⟩ := append_cons_inj reversed (List.mem_reverse.not.mpr without)
    (List.mem_reverse.not.mpr without')
  exact ⟨List.reverse_injective left, List.reverse_injective right⟩

/-! ### Parts -/

namespace Cursor

/-- The cursor after a text, where `rest` is left. -/
def after (c : Cursor) (text rest : List Char) : Cursor := ⟨c.pos + text.length, rest, c.groups⟩

/-- The cursor after a text that a group has captured. -/
def capture (c : Cursor) (number : Nat) (text rest : List Char) : Cursor :=
  ⟨c.pos + text.length, rest, (number, text) :: c.groups⟩

variable (c : Cursor) (number : Nat) (text rest text' rest' : List Char)

@[simp] theorem after_rest : (c.after text rest).rest = rest := rfl

@[simp] theorem after_groups : (c.after text rest).groups = c.groups := rfl

@[simp] theorem after_pos : (c.after text rest).pos = c.pos + text.length := rfl

@[simp] theorem capture_rest : (c.capture number text rest).rest = rest := rfl

@[simp] theorem capture_groups : (c.capture number text rest).groups = (number, text) :: c.groups := rfl

@[simp] theorem capture_pos : (c.capture number text rest).pos = c.pos + text.length := rfl

theorem after_after : (c.after text rest).after text' rest' = c.after (text ++ text') rest' := by
  simp [after, Nat.add_assoc]

end Cursor

section Parts

variable {c next : Cursor} {p : Char → Bool} {parts : List Regex}

theorem mem_run_seq {first second : Regex} :
    next ∈ run (.seq first second) c ↔ ∃ middle ∈ run first c, next ∈ run second middle :=
  List.mem_flatMap

theorem mem_run_alt {first second : Regex} :
    next ∈ run (.alt first second) c ↔ next ∈ run first c ∨ next ∈ run second c :=
  List.mem_append

theorem mem_run_empty : next ∈ run .empty c ↔ next = c := List.mem_singleton

theorem run_set_cons {x : Char} {rest : List Char} (is : c.rest = x :: rest) :
    run (.set p) c = if p x then [c.after [x] rest] else [] := by
  rw [run, is]
  rfl

theorem mem_run_set : next ∈ run (.set p) c ↔
    ∃ x rest, p x = true ∧ c.rest = x :: rest ∧ next = c.after [x] rest := by
  constructor
  · intro member
    cases is : c.rest with
    | nil =>
      rw [run, is] at member
      cases member
    | cons x rest =>
      rw [run_set_cons is] at member
      split at member
      · rename_i accepted
        exact ⟨x, rest, accepted, rfl, List.mem_singleton.mp member⟩
      · cases member
  · rintro ⟨x, rest, accepted, is, rfl⟩
    rw [run_set_cons is, if_pos accepted]
    exact List.mem_singleton_self _

theorem mem_run_char {x : Char} : next ∈ run (char x) c ↔
    ∃ rest, c.rest = x :: rest ∧ next = c.after [x] rest := by
  rw [char, mem_run_set]
  constructor
  · rintro ⟨y, rest, same, is, eq⟩
    obtain rfl := beq_iff_eq.mp same
    exact ⟨rest, is, eq⟩
  · rintro ⟨rest, is, eq⟩
    exact ⟨x, rest, beq_self_eq_true x, is, eq⟩

theorem mem_run_lit {text : String} : next ∈ run (lit text) c ↔
    ∃ rest, c.rest = text.toList ++ rest ∧ next = c.after text.toList rest := by
  rw [lit]
  -- One character of the literal at a time.
  induction text.toList generalizing c with
  | nil =>
    rw [List.foldr_nil, mem_run_empty]
    constructor
    · exact fun eq => ⟨c.rest, rfl, eq⟩
    · rintro ⟨rest, is, rfl⟩
      rw [← List.nil_append rest, ← is]
      rfl
  | cons x text ih =>
    rw [List.foldr_cons, mem_run_seq]
    constructor
    · rintro ⟨middle, one, later⟩
      obtain ⟨rest, is, rfl⟩ := mem_run_char.mp one
      obtain ⟨rest', is', rfl⟩ := ih.mp later
      exact ⟨rest', by rw [is, ← Cursor.after_rest c [x] rest, is', List.cons_append],
        Cursor.after_after ..⟩
    · rintro ⟨rest, is, rfl⟩
      refine ⟨c.after [x] (text ++ rest), mem_run_char.mpr ⟨_, is, rfl⟩, ih.mpr ⟨rest, rfl, ?_⟩⟩
      rw [Cursor.after_after, List.singleton_append]

/-- The repetitions of a class, the longest first. -/
theorem run_star_set :
    run (.star (.set p)) c = ((List.range ((c.rest.takeWhile p).length + 1)).reverse.map fun n =>
      c.after (c.rest.take n) (c.rest.drop n)) := by
  obtain ⟨pos, rest, groups⟩ := c
  rw [run]
  -- The fuel is the length of the rest, which each step makes shorter by one.
  induction rest generalizing pos with
  | nil => rfl
  | cons x rest ih =>
    have stop : Cursor.after ⟨pos, x :: rest, groups⟩ ((x :: rest).take 0) ((x :: rest).drop 0) =
        ⟨pos, x :: rest, groups⟩ := rfl
    rw [List.length_cons, iterate, run]
    dsimp only
    by_cases accepted : p x = true
    · have advances : [(⟨pos + 1, rest, groups⟩ : Cursor)].filter (pos < ·.pos) =
          [⟨pos + 1, rest, groups⟩] := by simp
      rw [if_pos accepted, advances, List.flatMap_singleton, ih, List.takeWhile_cons_of_pos accepted,
        List.length_cons, List.range_succ_eq_map (n := _ + 1), List.reverse_cons, List.map_append,
        List.map_singleton, stop, ← List.map_reverse, List.map_map]
      congr 1
      refine List.map_congr_left fun n _ => ?_
      simp only [Cursor.after, Function.comp_apply, List.take_succ_cons, List.drop_succ_cons,
        List.length_cons, Cursor.mk.injEq, and_true]
      omega
    · rw [if_neg accepted, List.takeWhile_cons_of_neg accepted]
      rfl

theorem mem_run_star : next ∈ run (.star (.set p)) c ↔
    ∃ text rest, (∀ x ∈ text, p x = true) ∧ c.rest = text ++ rest ∧ next = c.after text rest := by
  rw [run_star_set, List.mem_map]
  constructor
  · rintro ⟨n, bound, rfl⟩
    rw [List.mem_reverse, List.mem_range, Nat.lt_succ_iff] at bound
    refine ⟨_, _, fun x member => ?_, (List.take_append_drop n c.rest).symm, rfl⟩
    have short : c.rest.take n <+: c.rest.takeWhile p :=
      List.prefix_of_prefix_length_le (List.take_prefix _ _) (List.takeWhile_prefix p)
        ((List.length_take_le _ _).trans bound)
    exact List.mem_takeWhile_imp (short.subset member)
  · rintro ⟨text, rest, all, is, rfl⟩
    refine ⟨text.length, ?_, by rw [is, List.take_left, List.drop_left]⟩
    rw [List.mem_reverse, List.mem_range, Nat.lt_succ_iff, is, List.takeWhile_append_of_pos all,
      List.length_append]
    exact Nat.le_add_right _ _

theorem mem_run_plus : next ∈ run (plus (.set p)) c ↔
    ∃ text rest, text ≠ [] ∧ (∀ x ∈ text, p x = true) ∧ c.rest = text ++ rest ∧
      next = c.after text rest := by
  rw [plus, mem_run_seq]
  constructor
  · rintro ⟨middle, one, later⟩
    obtain ⟨x, rest, accepted, is, rfl⟩ := mem_run_set.mp one
    obtain ⟨text, rest', all, is', rfl⟩ := mem_run_star.mp later
    obtain rfl : rest = text ++ rest' := is'
    exact ⟨x :: text, rest', List.cons_ne_nil _ _, List.forall_mem_cons.mpr ⟨accepted, all⟩, is,
      Cursor.after_after ..⟩
  · rintro ⟨text, rest, nonempty, all, is, rfl⟩
    cases text with
    | nil => exact absurd rfl nonempty
    | cons x text =>
      obtain ⟨accepted, all⟩ := List.forall_mem_cons.mp all
      refine ⟨c.after [x] (text ++ rest), mem_run_set.mpr ⟨x, _, accepted, is, rfl⟩,
        mem_run_star.mpr ⟨text, rest, all, rfl, ?_⟩⟩
      rw [Cursor.after_after, List.singleton_append]

/-- The longest repetition of a class comes first. -/
theorem head?_run_plus {text rest : List Char} (is : c.rest = text ++ rest) (nonempty : text ≠ [])
    (all : ∀ x ∈ text, p x = true) (stops : ∀ x ∈ rest.head?, p x = false) :
    (run (plus (.set p)) c).head? = some (c.after text rest) := by
  cases text with
  | nil => exact absurd rfl nonempty
  | cons x text =>
    obtain ⟨accepted, all⟩ := List.forall_mem_cons.mp all
    have split : c.rest = x :: (text ++ rest) := is
    rw [plus, run, run_set_cons split, if_pos accepted, List.flatMap_singleton, run_star_set,
      Cursor.after_rest, takeWhile_append_of_stops all stops, List.range_succ, List.reverse_append,
      List.map_append, List.head?_append]
    change some ((c.after [x] (text ++ rest)).after ((text ++ rest).take text.length)
      ((text ++ rest).drop text.length)) = _
    rw [List.take_left, List.drop_left, Cursor.after_after, List.singleton_append]

/-- A group records the text that its body takes. -/
theorem mem_run_group {number : Nat} {body : Regex} : next ∈ run (.group number body) c ↔
    ∃ inner ∈ run body c,
      next = { inner with groups := (number, c.rest.take (inner.pos - c.pos)) :: inner.groups } := by
  rw [run, List.mem_map]
  constructor
  · rintro ⟨inner, member, rfl⟩
    exact ⟨inner, member, rfl⟩
  · rintro ⟨inner, member, rfl⟩
    exact ⟨inner, member, rfl⟩

theorem mem_run_beginText : next ∈ run .beginText c ↔ c.pos = 0 ∧ next = c := by
  rw [run]
  split
  · rename_i begins
    simp [begins]
  · rename_i inside
    simp [inside]

theorem mem_run_endText : next ∈ run .endText c ↔ c.rest = [] ∧ next = c := by
  rw [run]
  split
  · rename_i ended
    simp [ended]
  · rename_i more
    simp [more]

/-! ### The first part of an expression -/

theorem mem_run_all_nil : next ∈ run (all []) c ↔ next = c := mem_run_empty

theorem mem_run_all_cons {r : Regex} :
    next ∈ run (all (r :: parts)) c ↔ ∃ middle ∈ run r c, next ∈ run (all parts) middle := mem_run_seq

theorem run_all_set {x : Char} {rest : List Char} (is : c.rest = x :: rest) (accepted : p x = true) :
    run (all (.set p :: parts)) c = run (all parts) (c.after [x] rest) := by
  rw [all, List.foldr_cons, run, run_set_cons is, if_pos accepted, List.flatMap_singleton]
  rfl

theorem mem_run_all_beginText :
    next ∈ run (all (.beginText :: parts)) c ↔ c.pos = 0 ∧ next ∈ run (all parts) c := by
  simp [mem_run_all_cons, mem_run_beginText, and_assoc]

theorem mem_run_all_endText :
    next ∈ run (all (.endText :: parts)) c ↔ c.rest = [] ∧ next ∈ run (all parts) c := by
  simp [mem_run_all_cons, mem_run_endText, and_assoc]

/-- The first part, where its matches are listed by what is left. -/
theorem mem_run_all_of {r : Regex} {P : List Char → Prop} {f : List Char → Cursor}
    (takes : ∀ middle, middle ∈ run r c ↔ ∃ rest, P rest ∧ middle = f rest) :
    next ∈ run (all (r :: parts)) c ↔ ∃ rest, P rest ∧ next ∈ run (all parts) (f rest) := by
  rw [mem_run_all_cons]
  constructor
  · rintro ⟨middle, one, later⟩
    obtain ⟨rest, holds, rfl⟩ := (takes middle).mp one
    exact ⟨rest, holds, later⟩
  · rintro ⟨rest, holds, later⟩
    exact ⟨_, (takes _).mpr ⟨rest, holds, rfl⟩, later⟩

/-- The first part, where its matches are listed by what they take and what is left. -/
theorem mem_run_all_takes {α : Type} {r : Regex} {P : α → Prop} {split : α → List Char → List Char}
    {f : α → List Char → Cursor}
    (takes : ∀ middle, middle ∈ run r c ↔ ∃ a rest, P a ∧ c.rest = split a rest ∧ middle = f a rest) :
    next ∈ run (all (r :: parts)) c ↔
      ∃ a rest, P a ∧ c.rest = split a rest ∧ next ∈ run (all parts) (f a rest) := by
  rw [mem_run_all_cons]
  constructor
  · rintro ⟨middle, one, later⟩
    obtain ⟨a, rest, holds, is, rfl⟩ := (takes middle).mp one
    exact ⟨a, rest, holds, is, later⟩
  · rintro ⟨a, rest, holds, is, later⟩
    exact ⟨_, (takes _).mpr ⟨a, rest, holds, is, rfl⟩, later⟩

theorem mem_run_all_set : next ∈ run (all (.set p :: parts)) c ↔
    ∃ x rest, p x = true ∧ c.rest = x :: rest ∧ next ∈ run (all parts) (c.after [x] rest) :=
  mem_run_all_takes fun _ => mem_run_set

theorem mem_run_all_char {x : Char} : next ∈ run (all (char x :: parts)) c ↔
    ∃ rest, c.rest = x :: rest ∧ next ∈ run (all parts) (c.after [x] rest) :=
  mem_run_all_of fun _ => mem_run_char

theorem mem_run_all_lit {text : String} : next ∈ run (all (lit text :: parts)) c ↔
    ∃ rest, c.rest = text.toList ++ rest ∧ next ∈ run (all parts) (c.after text.toList rest) :=
  mem_run_all_of fun _ => mem_run_lit

theorem mem_run_all_star : next ∈ run (all (.star (.set p) :: parts)) c ↔
    ∃ text rest, (∀ x ∈ text, p x = true) ∧ c.rest = text ++ rest ∧
      next ∈ run (all parts) (c.after text rest) :=
  mem_run_all_takes fun _ => mem_run_star

theorem mem_run_all_plus : next ∈ run (all (plus (.set p) :: parts)) c ↔
    ∃ text rest, text ≠ [] ∧ (∀ x ∈ text, p x = true) ∧ c.rest = text ++ rest ∧
      next ∈ run (all parts) (c.after text rest) := by
  have takes : next ∈ run (all (plus (.set p) :: parts)) c ↔ ∃ text rest,
      (text ≠ [] ∧ ∀ x ∈ text, p x = true) ∧ c.rest = text ++ rest ∧
        next ∈ run (all parts) (c.after text rest) :=
    mem_run_all_takes fun _ => by simp only [mem_run_plus, and_assoc]
  simpa only [and_assoc] using takes

/-- A group over a body that takes a text and has no groups of its own. -/
theorem mem_run_all_group {number : Nat} {body : Regex} {P : List Char → List Char → Prop}
    (takes : ∀ inner, inner ∈ run body c ↔ ∃ text rest, P text rest ∧ c.rest = text ++ rest ∧
      inner = c.after text rest) :
    next ∈ run (all (.group number body :: parts)) c ↔ ∃ text rest, P text rest ∧
      c.rest = text ++ rest ∧ next ∈ run (all parts) (c.capture number text rest) := by
  have captured {text rest : List Char} (is : c.rest = text ++ rest) :
      { c.after text rest with groups := (number, c.rest.take ((c.after text rest).pos - c.pos)) ::
        (c.after text rest).groups } = c.capture number text rest := by
    simp [Cursor.after, Cursor.capture, is]
  rw [mem_run_all_cons]
  constructor
  · rintro ⟨middle, one, later⟩
    obtain ⟨inner, member, rfl⟩ := mem_run_group.mp one
    obtain ⟨text, rest, holds, is, rfl⟩ := (takes inner).mp member
    rw [captured is] at later
    exact ⟨text, rest, holds, is, later⟩
  · rintro ⟨text, rest, holds, is, later⟩
    refine ⟨_, mem_run_group.mpr ⟨_, (takes _).mpr ⟨text, rest, holds, is, rfl⟩, rfl⟩, ?_⟩
    rw [captured is]
    exact later

theorem mem_run_all_group_plus {number : Nat} :
    next ∈ run (all (.group number (plus (.set p)) :: parts)) c ↔ ∃ text rest,
      (text ≠ [] ∧ ∀ x ∈ text, p x = true) ∧ c.rest = text ++ rest ∧
      next ∈ run (all parts) (c.capture number text rest) :=
  mem_run_all_group fun inner => by simp only [mem_run_plus, and_assoc]

/-- A last group over the repetitions of a class captures the longest one first. -/
theorem head?_run_all_group_plus {number : Nat} {text rest : List Char} (is : c.rest = text ++ rest)
    (nonempty : text ≠ []) (every : ∀ x ∈ text, p x = true) (stops : ∀ x ∈ rest.head?, p x = false) :
    (run (all [.group number (plus (.set p))]) c).head? = some (c.capture number text rest) := by
  have only : run (all [.group number (plus (.set p))]) c = run (.group number (plus (.set p))) c :=
    List.flatMap_singleton' _
  rw [only, run, List.head?_map, head?_run_plus is nonempty every stops, Option.map_some]
  simp [Cursor.after, Cursor.capture, is]

end Parts

/-- The white space of `\s`. -/
def isWhite (x : Char) : Bool := ['\t', '\n', '\x0c', '\r', ' '].contains x

theorem space_eq : space = .set isWhite := rfl

/-- The class of `[^x]`. -/
theorem noneOf_iff {chars : String} {x : Char} {text : List Char} (single : chars.toList = [x]) :
    (∀ y ∈ text, (! chars.toList.contains y) = true) ↔ x ∉ text := by
  rw [single]
  constructor
  · intro none member
    simpa using none x member
  · intro without y member
    simpa using fun eq : y = x => without (eq ▸ member)

/-! ### Finding -/

theorem findFrom_eq_some {r : Regex} {text : List Char} {pos i : Nat} {c : Cursor}
    (found : findFrom r text pos = some (i, c)) :
    pos ≤ i ∧ i ≤ text.length ∧ c ∈ run r ⟨i, text.drop i, []⟩ := by
  obtain ⟨j, member, here⟩ := List.exists_of_findSome?_eq_some found
  obtain ⟨next, first, eq⟩ := Option.map_eq_some_iff.mp here
  cases eq
  obtain ⟨k, bound, at_k⟩ := List.mem_iff_getElem.mp member
  rw [List.getElem_drop, List.getElem_range] at at_k
  rw [List.length_drop, List.length_range] at bound
  exact ⟨by omega, by omega, List.mem_of_mem_head? first⟩

theorem findFrom_eq {r : Regex} {text : List Char} {pos : Nat} (bound : pos ≤ text.length) :
    findFrom r text pos =
      (((run r ⟨pos, text.drop pos, []⟩).head?).map fun c => (pos, c)).or
        (findFrom r text (pos + 1)) := by
  have here : pos < (List.range (text.length + 1)).length := by
    rw [List.length_range]
    exact Nat.lt_succ_of_le bound
  rw [findFrom, List.drop_eq_getElem_cons here, List.getElem_range, List.findSome?_cons, findFrom]
  cases (run r ⟨pos, text.drop pos, []⟩).head? <;> rfl

theorem findFrom_of_head {r : Regex} {text : List Char} {pos : Nat} {c : Cursor}
    (bound : pos ≤ text.length) (first : (run r ⟨pos, text.drop pos, []⟩).head? = some c) :
    findFrom r text pos = some (pos, c) := by
  rw [findFrom_eq bound, first]
  rfl

theorem findFrom_of_nil {r : Regex} {text : List Char} {pos : Nat} (bound : pos ≤ text.length)
    (nothing : run r ⟨pos, text.drop pos, []⟩ = []) :
      findFrom r text pos = findFrom r text (pos + 1) := by
  rw [findFrom_eq bound, nothing]
  rfl

theorem findFrom_past {r : Regex} {text : List Char} {pos : Nat} (past : text.length < pos) :
    findFrom r text pos = none := by
  rw [findFrom, List.drop_eq_nil_of_le (by rw [List.length_range]; exact past)]
  rfl

theorem find_eq_none_iff {r : Regex} {text : List Char} :
    find r text = none ↔ ∀ i ≤ text.length, run r ⟨i, text.drop i, []⟩ = [] := by
  rw [find, findFrom, List.findSome?_eq_none_iff]
  simp only [List.drop_zero, List.mem_range, Nat.lt_succ_iff, Option.map_eq_none_iff,
    List.head?_eq_none_iff]

/-- `FindStringSubmatch` has nothing, or the groups of one of the matches. -/
theorem findStringSubmatch_cases (r : Regex) (groups : Nat) (text : String) :
    (findStringSubmatch r groups text = [] ∧
      ∀ i ≤ text.toList.length, run r ⟨i, text.toList.drop i, []⟩ = []) ∨
    ∃ i ≤ text.toList.length, ∃ c ∈ run r ⟨i, text.toList.drop i, []⟩, ∃ matched,
      findStringSubmatch r groups text =
        matched :: (List.range groups).map fun n =>
          String.ofList ((c.groups.lookup (n + 1)).getD []) := by
  unfold findStringSubmatch
  cases found : find r text.toList with
  | none => exact .inl ⟨rfl, find_eq_none_iff.mp found⟩
  | some result =>
    obtain ⟨-, bound, member⟩ := findFrom_eq_some found
    exact .inr ⟨result.1, bound, result.2, member, _, rfl⟩

/-- **`FindStringSubmatch` by the shape of a text.** `Shape` says what the groups of a match are; where
a text has at most one shape, and a match if it has one, the groups that are found are that shape. -/
theorem submatch_iff (r : Regex) (groups : Nat) (text : String) (Shape : List (List Char) → Prop)
    (sound : ∀ i ≤ text.toList.length, ∀ c ∈ run r ⟨i, text.toList.drop i, []⟩,
      Shape ((List.range groups).map fun n => (c.groups.lookup (n + 1)).getD []))
    (complete : ∀ shape, Shape shape → ∃ i ≤ text.toList.length,
      ∃ c, c ∈ run r ⟨i, text.toList.drop i, []⟩)
    (unique : ∀ shape shape', Shape shape → Shape shape' → shape = shape') (values : List String) :
    (∃ matched, findStringSubmatch r groups text = matched :: values) ↔
      Shape (values.map String.toList) := by
  have chars (shape : List (List Char)) : (shape.map String.ofList).map String.toList = shape := by
    simp [Function.comp_def]
  rcases findStringSubmatch_cases r groups text with ⟨nothing, never⟩ | ⟨i, bound, c, member, whole, is⟩
  · rw [nothing]
    refine iff_of_false nofun fun shape => ?_
    obtain ⟨i, bound, c, member⟩ := complete _ shape
    rw [never i bound] at member
    cases member
  · have shape := sound i bound c member
    have split : findStringSubmatch r groups text = whole :: ((List.range groups).map fun n =>
        (c.groups.lookup (n + 1)).getD []).map String.ofList := by
      rw [is, List.map_map]
      rfl
    rw [split]
    constructor
    · rintro ⟨matched, eq⟩
      rw [← (List.cons.inj eq).2, chars]
      exact shape
    · intro shape'
      refine ⟨whole, ?_⟩
      rw [unique _ _ shape shape', List.map_map]
      simp [Function.comp_def]

/-! ### Word boundaries -/

/-- `\w`. -/
def isWordChar (x : Char) : Bool := x.isAlphanum || x == '_'

/-- `\b`: a character of a word on one side only. -/
def wordBoundary (text : List Char) (i : Nat) : Bool :=
  (text.take i).getLast?.any isWordChar != (text.drop i).head?.any isWordChar

/-- The leftmost match of an expression that starts at a word boundary. -/
def findAtBoundary (r : Regex) (text : List Char) : Option (Nat × Cursor) :=
  (List.range (text.length + 1)).findSome? fun i =>
    if wordBoundary text i then ((run r ⟨i, text.drop i, []⟩).head?).map fun c => (i, c) else none

/-- `FindStringSubmatch` of `\b` and an expression. -/
def findStringSubmatchAtBoundary (r : Regex) (groups : Nat) (text : String) : List String :=
  match findAtBoundary r text.toList with
  | none => []
  | some (i, c) =>
    String.ofList ((text.toList.drop i).take (c.pos - i)) ::
      (List.range groups).map fun n => String.ofList ((c.groups.lookup (n + 1)).getD [])

/-- There is no match at a boundary, or there is a first one. -/
theorem findAtBoundary_cases (r : Regex) (text : List Char) :
    (findAtBoundary r text = none ∧
      ∀ i ≤ text.length, wordBoundary text i = true → run r ⟨i, text.drop i, []⟩ = []) ∨
    ∃ i c, findAtBoundary r text = some (i, c) ∧ wordBoundary text i = true ∧
      (run r ⟨i, text.drop i, []⟩).head? = some c ∧
      ∀ j < i, wordBoundary text j = true → run r ⟨j, text.drop j, []⟩ = [] := by
  have nothing {j : Nat} (skipped : (if wordBoundary text j then
      ((run r ⟨j, text.drop j, []⟩).head?).map fun c => (j, c) else none) = none)
      (boundary : wordBoundary text j = true) : run r ⟨j, text.drop j, []⟩ = [] := by
    rw [if_pos boundary] at skipped
    exact List.head?_eq_none_iff.mp (Option.map_eq_none_iff.mp skipped)
  cases found : findAtBoundary r text with
  | none =>
    refine .inl ⟨rfl, fun i bound => nothing ?_⟩
    exact List.findSome?_eq_none_iff.mp found i (List.mem_range.mpr (Nat.lt_succ_of_le bound))
  | some result =>
    obtain ⟨before, i, more, split, here, earlier⟩ := List.findSome?_eq_some_iff.mp found
    obtain ⟨boundary, first⟩ : wordBoundary text i = true ∧
        ((run r ⟨i, text.drop i, []⟩).head?).map (fun c => (i, c)) = some result := by
      split at here
      · rename_i boundary
        exact ⟨boundary, here⟩
      · cases here
    obtain ⟨c, head, rfl⟩ := Option.map_eq_some_iff.mp first
    refine .inr ⟨i, c, rfl, boundary, head, fun j less => nothing (earlier j ?_)⟩
    -- The positions are in order, so those before `i` are the ones that were tried before it.
    have ordered : (before ++ i :: more).Pairwise (· < ·) := split ▸ List.pairwise_lt_range
    have later := (List.pairwise_cons.mp (List.pairwise_append.mp ordered).2.1).1
    have inRange : i < text.length + 1 := List.mem_range.mp
      (split ▸ List.mem_append_right _ List.mem_cons_self)
    have member : j ∈ before ++ i :: more := split ▸ List.mem_range.mpr (less.trans inRange)
    rcases List.mem_append.mp member with member | member
    · exact member
    · rcases List.mem_cons.mp member with rfl | member
      · exact absurd less (lt_irrefl _)
      · exact absurd (later j member) (Nat.lt_asymm less)

/-! ### Replacing -/

/-- A text is cut, from left to right, into the texts of a class and the characters between them. -/
inductive Cut (P : List Char → Prop) : List Char → List (Char ⊕ List Char) → Prop
  | nil : Cut P [] []
  | char {x : Char} {rest : List Char} {pieces : List (Char ⊕ List Char)}
    (none : ∀ text more, x :: rest = text ++ more → ¬ P text) (later : Cut P rest pieces) :
    Cut P (x :: rest) (.inl x :: pieces)
  | found {text rest : List Char} {pieces : List (Char ⊕ List Char)} (holds : P text)
    (later : Cut P rest pieces) : Cut P (text ++ rest) (.inr text :: pieces)

/-- The pieces in their order, with a replacement for each text of the class. -/
def render (repl : List Char) (pieces : List (Char ⊕ List Char)) : List Char :=
  pieces.flatMap (Sum.elim (fun x => [x]) fun _ => repl)

@[simp] theorem render_nil (repl : List Char) : render repl [] = [] := rfl

@[simp] theorem render_inl (repl : List Char) (x : Char) (pieces : List (Char ⊕ List Char)) :
    render repl (.inl x :: pieces) = x :: render repl pieces := rfl

@[simp] theorem render_inr (repl text : List Char) (pieces : List (Char ⊕ List Char)) :
    render repl (.inr text :: pieces) = repl ++ render repl pieces := rfl

theorem render_append (repl : List Char) (pieces pieces' : List (Char ⊕ List Char)) :
    render repl (pieces ++ pieces') = render repl pieces ++ render repl pieces' := List.flatMap_append

@[simp] theorem render_map_inl (repl text : List Char) : render repl (text.map .inl) = text := by
  induction text with
  | nil => rfl
  | cons x text ih => exact congrArg (x :: ·) ih

/-- A text of a class without the empty text. -/
theorem length_pos_of_class {P : List Char → Prop} (positive : ¬ P []) {text : List Char}
    (holds : P text) :
    0 < text.length := List.length_pos_iff.mpr fun empty => positive (empty ▸ holds)

/-- Every text has a cut. -/
theorem exists_cut {P : List Char → Prop} (positive : ¬ P []) (text : List Char) :
    ∃ pieces, Cut P text pieces := by
  induction h : text.length using Nat.strong_induction_on generalizing text with
  | h n ih =>
    cases text with
    | nil => exact ⟨[], .nil⟩
    | cons x rest =>
      by_cases starts : ∃ found more, x :: rest = found ++ more ∧ P found
      · obtain ⟨found, more, is, holds⟩ := starts
        have nonempty := length_pos_of_class positive holds
        have length := congrArg List.length is
        rw [List.length_append] at length
        obtain ⟨pieces, later⟩ := ih more.length (by omega) more rfl
        rw [is]
        exact ⟨_, .found holds later⟩
      · obtain ⟨pieces, later⟩ := ih rest.length (by rw [← h]; exact Nat.lt_succ_self _) rest rfl
        exact ⟨_, .char (fun found more is holds => starts ⟨found, more, is, holds⟩) later⟩

/-- The characters of a text with its replacements. -/
theorem mem_render {P : List Char → Prop} {repl text : List Char} {pieces : List (Char ⊕ List Char)}
    (cut : Cut P text pieces) {x : Char} (member : x ∈ render repl pieces) : x ∈ repl ∨ x ∈ text := by
  induction cut with
  | nil => cases member
  | char none later ih =>
    rcases List.mem_cons.mp member with rfl | member
    · exact .inr List.mem_cons_self
    · exact (ih member).imp_right (List.mem_cons_of_mem _)
  | found holds later ih =>
    rcases List.mem_append.mp member with member | member
    · exact .inl member
    · exact (ih member).imp_right (List.mem_append_right _)

/-- How a cut of a text starts. -/
theorem Cut.cases_cons {P : List Char → Prop} {x : Char} {text : List Char}
    {pieces : List (Char ⊕ List Char)}
    (cut : Cut P (x :: text) pieces) :
    (∃ later, (∀ found more, x :: text = found ++ more → ¬ P found) ∧ pieces = .inl x :: later ∧
      Cut P text later) ∨
      ∃ found rest later, x :: text = found ++ rest ∧ P found ∧ pieces = .inr found :: later ∧
        Cut P rest later := by
  generalize is : x :: text = whole at cut
  cases cut with
  | nil => cases is
  | char none later =>
    cases is
    exact .inl ⟨_, none, rfl, later⟩
  | found holds later => exact .inr ⟨_, _, _, rfl, holds, rfl, later⟩

/-- A text has one cut only, where a place has one text of the class only. -/
theorem Cut.unique {P : List Char → Prop} (positive : ¬ P [])
    (only : ∀ text rest text' rest', text ++ rest = text' ++ rest' → P text → P text' → text = text')
    {text : List Char} {pieces pieces' : List (Char ⊕ List Char)} (cut : Cut P text pieces)
    (cut' : Cut P text pieces') : pieces = pieces' := by
  induction cut generalizing pieces' with
  | nil =>
    generalize is : ([] : List Char) = whole at cut'
    cases cut' with
    | nil => rfl
    | char none later => cases is
    | found holds later => exact absurd ((List.append_eq_nil_iff.mp is.symm).1 ▸ holds) positive
  | char none later ih =>
    rcases cut'.cases_cons with ⟨later', -, rfl, cutLater⟩ | ⟨found, rest, later', is, holds, -, -⟩
    · rw [ih cutLater]
    · exact absurd holds (none found rest is)
  | @found text rest pieces holds later ih =>
    cases text with
    | nil => exact absurd holds positive
    | cons x text =>
      rcases cut'.cases_cons with ⟨later', none, -, -⟩ |
        ⟨found, rest', later', is, holds', rfl, cutLater⟩
      · exact absurd holds (none _ _ rfl)
      · obtain rfl := only _ _ _ _ is holds holds'
        have same : x :: text ++ rest = x :: text ++ rest' := is
        obtain rfl := List.append_cancel_left same
        rw [ih cutLater]

theorem expand_of_not_mem (group : Nat → List Char) {fuel : Nat} {template : List Char}
    (without : '$' ∉ template)
    (enough : template.length ≤ fuel) : expand group fuel template = template := by
  induction template generalizing fuel with
  | nil => cases fuel <;> rfl
  | cons x template ih =>
    obtain ⟨other, without⟩ := not_or.mp (List.mem_cons.not.mp without)
    cases fuel with
    | zero => cases enough
    | succ fuel =>
      rw [expand, ih without (Nat.le_of_succ_le_succ enough)]
      · exact fun _ eq _ => other eq.symm
      · exact fun eq => other eq.symm

/-- An expression without anchors and groups, that takes the texts of a class, and only one of them at
each place. -/
structure TakesClass (r : Regex) (P : List Char → Prop) : Prop where
  mem : ∀ c next, next ∈ run r c ↔ ∃ text rest, P text ∧ c.rest = text ++ rest ∧
    next = c.after text rest
  positive : ¬ P []
  unique : ∀ text rest text' rest', text ++ rest = text' ++ rest' → P text → P text' → text = text'

section Replace

variable {r : Regex} {P : List Char → Prop}

theorem TakesClass.exists_cut (takes : TakesClass r P) (text : List Char) :
    ∃ pieces, Cut P text pieces :=
  GoRegexp.exists_cut takes.positive text

theorem TakesClass.cut_unique (takes : TakesClass r P) {text : List Char}
    {pieces pieces' : List (Char ⊕ List Char)}
    (cut : Cut P text pieces) (cut' : Cut P text pieces') : pieces = pieces' :=
  cut.unique takes.positive takes.unique cut'

theorem TakesClass.run_eq_nil (takes : TakesClass r P) {c : Cursor}
    (none : ∀ text rest, c.rest = text ++ rest → ¬ P text) : run r c = [] := by
  refine List.eq_nil_iff_forall_not_mem.mpr fun next member => ?_
  obtain ⟨text, rest, holds, is, -⟩ := (takes.mem c next).mp member
  exact none text rest is holds

theorem TakesClass.head?_run (takes : TakesClass r P) {c : Cursor} {text rest : List Char}
    (holds : P text) (is : c.rest = text ++ rest) : (run r c).head? = some (c.after text rest) := by
  have member : c.after text rest ∈ run r c := (takes.mem c _).mpr ⟨text, rest, holds, is, rfl⟩
  cases listed : run r c with
  | nil =>
    rw [listed] at member
    cases member
  | cons first others =>
    obtain ⟨text', rest', holds', is', rfl⟩ := (takes.mem c first).mp (listed ▸ List.mem_cons_self)
    have same := is.symm.trans is'
    obtain rfl := takes.unique _ _ _ _ same holds holds'
    rw [List.append_cancel_left same]
    rfl

/-- The number of texts of the class among the pieces. -/
def found (pieces : List (Char ⊕ List Char)) : Nat := pieces.countP Sum.isRight

/-- A place where nothing matches is left as it is. -/
theorem TakesClass.replaceLoop_skip (takes : TakesClass r P) {text repl : List Char}
    {fuel last pos : Nat} (bound : pos ≤ text.length)
    (none : ∀ found more, text.drop pos = found ++ more → ¬ P found) :
    replaceLoop r text repl (fuel + 1) last pos =
      replaceLoop r text repl (fuel + 1) last (pos + 1) := by
  rw [replaceLoop, replaceLoop, findFrom_of_nil bound (takes.run_eq_nil none)]
  cases found : findFrom r text (pos + 1) with
  | none => rfl
  | some result =>
    obtain ⟨i, c⟩ := result
    obtain ⟨later, -, member⟩ := findFrom_eq_some found
    obtain ⟨taken, rest, holds, -, rfl⟩ := (takes.mem _ c).mp member
    have nonempty := length_pos_of_class takes.positive holds
    dsimp only [Cursor.after_pos]
    rw [Nat.max_eq_right (by omega), Nat.max_eq_right (by omega)]

/-- At a text of the class, the replacement stands for it. -/
theorem TakesClass.replaceLoop_found (takes : TakesClass r P) {text repl taken rest : List Char}
    {fuel last pos : Nat} (bound : pos ≤ text.length) (ordered : last ≤ pos) (without : '$' ∉ repl)
    (holds : P taken) (is : text.drop pos = taken ++ rest) :
    replaceLoop r text repl (fuel + 1) last pos = (text.drop last).take (pos - last) ++ repl ++
      replaceLoop r text repl fuel (pos + taken.length) (pos + taken.length) := by
  have nonempty := length_pos_of_class takes.positive holds
  have further : last < (Cursor.after ⟨pos, text.drop pos, []⟩ taken rest).pos := by
    rw [Cursor.after_pos]
    exact Nat.lt_add_right_iff_pos.mpr nonempty |>.trans_le' ordered
  rw [replaceLoop, findFrom_of_head bound (takes.head?_run holds is)]
  dsimp only
  rw [if_pos (.inl further), expandMatch, expand_of_not_mem _ without le_rfl, Cursor.after_pos,
    Nat.max_eq_right (Nat.add_le_add_left nonempty pos)]

/-- The loop from a place on, where the text since the latest match has been passed over. -/
theorem TakesClass.replaceLoop_of_cut (takes : TakesClass r P) {text repl rest : List Char}
    {pieces : List (Char ⊕ List Char)} (without : '$' ∉ repl) (cut : Cut P rest pieces)
    {fuel last pos : Nat} (bound : pos ≤ text.length) (ordered : last ≤ pos)
    (is : text.drop pos = rest) (enough : found pieces < fuel) :
    replaceLoop r text repl fuel last pos = (text.drop last).take (pos - last) ++
      render repl pieces := by
  obtain ⟨fuel, rfl⟩ : ∃ more, fuel = more + 1 := ⟨fuel - 1, by omega⟩
  induction cut generalizing fuel last pos with
  | nil =>
    have ended : text.length ≤ pos := List.drop_eq_nil_iff.mp is
    have nothing : ∀ taken more, text.drop pos = taken ++ more → ¬ P taken := by
      rintro taken more eq holds
      rw [is] at eq
      exact takes.positive ((List.append_eq_nil_iff.mp eq.symm).1 ▸ holds)
    rw [takes.replaceLoop_skip bound nothing, replaceLoop, findFrom_past (Nat.lt_succ_of_le ended),
      List.take_of_length_le (by rw [List.length_drop]; omega), render_nil, List.append_nil]
  | @char x rest pieces none later ih =>
    have inside : pos < text.length := by
      by_contra ended
      rw [List.drop_eq_nil_of_le (Nat.le_of_not_lt ended)] at is
      cases is
    have next : text.drop (pos + 1) = rest := by
      rw [← List.drop_drop, is]
      rfl
    have longer : (text.drop last).take (pos + 1 - last) =
        (text.drop last).take (pos - last) ++ [x] := by
      rw [Nat.succ_sub ordered, List.take_add_one, List.getElem?_drop, Nat.add_sub_cancel' ordered,
        ← List.head?_drop, is]
      rfl
    rw [takes.replaceLoop_skip bound (is ▸ none), ih inside (ordered.trans (Nat.le_succ pos)) next fuel
      (by simpa [found] using enough), longer, render_inl, List.append_assoc, List.singleton_append]
  | @found taken rest pieces holds later ih =>
    have length := congrArg List.length is
    rw [List.length_drop, List.length_append] at length
    have fewer : GoRegexp.found pieces < fuel := by
      rw [GoRegexp.found, List.countP_cons_of_pos rfl] at enough
      exact Nat.lt_of_succ_lt_succ enough
    obtain ⟨fuel, rfl⟩ : ∃ more, fuel = more + 1 := ⟨fuel - 1, by omega⟩
    have next : text.drop (pos + taken.length) = rest := by
      rw [← List.drop_drop, is, List.drop_left]
    rw [takes.replaceLoop_found bound ordered without holds is, ih (by omega) le_rfl next fuel fewer,
      Nat.sub_self, List.take_zero, List.nil_append, render_inr, List.append_assoc]

theorem found_le_of_cut {P : List Char → Prop} (positive : ¬ P []) {text : List Char}
    {pieces : List (Char ⊕ List Char)} (cut : Cut P text pieces) : found pieces ≤ text.length := by
  induction cut with
  | nil => exact Nat.zero_le _
  | char _ _ ih =>
    rw [found, List.countP_cons_of_neg (by simp), List.length_cons]
    exact Nat.le_succ_of_le ih
  | @found taken rest pieces holds later ih =>
    have nonempty := length_pos_of_class positive holds
    rw [found, List.countP_cons_of_pos rfl, List.length_append]
    have := ih
    unfold GoRegexp.found at this
    omega

/-- **`ReplaceAllString`** puts the replacement for each piece of the class. -/
theorem TakesClass.replaceAllString_eq (takes : TakesClass r P) {text repl : String}
    {pieces : List (Char ⊕ List Char)} (without : '$' ∉ repl.toList) (cut : Cut P text.toList pieces) :
    (replaceAllString r text repl).toList = render repl.toList pieces := by
  have few := found_le_of_cut takes.positive cut
  have loop : replaceLoop r text.toList repl.toList (text.toList.length + 2) 0 0 = _ :=
    takes.replaceLoop_of_cut without cut (Nat.zero_le _) le_rfl List.drop_zero (by omega)
  rw [replaceAllString, String.toList_ofList, loop, Nat.sub_self, List.take_zero, List.nil_append]

end Replace

end GoRegexp
