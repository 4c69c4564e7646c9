/-
**Regular expressions with Go's choice of match.**

`run r c` lists the ways `r` can match at the cursor `c`, in the order of preference of a leftmost-first
engine: the first alternative before the second, a further repetition before none. A match of
`FindStringSubmatch` is the first of the list at the leftmost position that has one. Repetitions that
consume nothing are dropped, so the length of the rest bounds the number of repetitions.

`replaceAllString` goes from match to match, and expands `$` in the replacement.

* **`forall_of_matchString`** — a text that an expression matches from its beginning to its end has only
  the characters that the expression accepts somewhere.
-/

import Mathlib.Data.List.Basic
import Mathlib.Data.Nat.Digits.Defs

namespace GoRegexp

inductive Regex
  | empty
  | set (accepts : Char → Bool)
  | seq (first second : Regex)
  | alt (first second : Regex)
  | star (body : Regex)
  | group (number : Nat) (body : Regex)
  | beginText
  | endText

/-- A position of the text, the text from there on, and the groups captured so far, latest first. -/
structure Cursor where
  pos : Nat
  rest : List Char
  groups : List (Nat × List Char)

/-- Greedy repetition of a matcher, at most `fuel` times. -/
def iterate (step : Cursor → List Cursor) : Nat → Cursor → List Cursor
  | 0, c => [c]
  | fuel + 1, c => ((step c).filter (c.pos < ·.pos)).flatMap (iterate step fuel) ++ [c]

def run : Regex → Cursor → List Cursor
  | .empty, c => [c]
  | .set accepts, c =>
    match c.rest with
    | x :: rest => if accepts x then [⟨c.pos + 1, rest, c.groups⟩] else []
    | [] => []
  | .seq first second, c => (run first c).flatMap (run second)
  | .alt first second, c => run first c ++ run second c
  | .star body, c => iterate (run body) c.rest.length c
  | .group number body, c =>
    (run body c).map fun next =>
      { next with groups := (number, c.rest.take (next.pos - c.pos)) :: next.groups }
  | .beginText, c => if c.pos = 0 then [c] else []
  | .endText, c => if c.rest = [] then [c] else []

/-- The leftmost match at or after a position: where it starts and the cursor after it. -/
def findFrom (r : Regex) (text : List Char) (pos : Nat) : Option (Nat × Cursor) :=
  ((List.range (text.length + 1)).drop pos).findSome? fun i =>
    ((run r ⟨i, text.drop i, []⟩).head?).map fun c => (i, c)

def find (r : Regex) (text : List Char) : Option (Nat × Cursor) := findFrom r text 0

/-- `FindStringSubmatch` of an expression with `groups` groups; `[]` is `nil`. -/
def findStringSubmatch (r : Regex) (groups : Nat) (text : String) : List String :=
  match find r text.toList with
  | none => []
  | some (i, c) =>
    String.ofList ((text.toList.drop i).take (c.pos - i)) ::
      (List.range groups).map fun n => String.ofList ((c.groups.lookup (n + 1)).getD [])

/-- `MatchString`. -/
def matchString (r : Regex) (text : String) : Bool := (find r text.toList).isSome

/-! ### Replacement -/

/-- The name of a group at the head of a template, in braces or not, and what follows it. The letters
of a name are those of ASCII. -/
def extract (template : List Char) : Option (List Char × List Char) :=
  let word (text : List Char) := text.takeWhile fun x => x.isAlphanum || x == '_'
  match template with
  | '\x7b' :: text =>
    match word text, text.drop (word text).length with
    | [], _ => none
    | name, '\x7d' :: rest => some (name, rest)
    | _, _ => none
  | text => if word text = [] then none else some (word text, text.drop (word text).length)

/-- The number that a name of a group stands for: no leading zero, and below `10 ^ 9`. -/
def groupNumber (name : List Char) : Option Nat :=
  if ¬ name.all Char.isDigit ∨ (name.head? = some '0' ∧ 1 < name.length) ∨ 9 < name.length then none
  else some (Nat.ofDigits 10 (name.reverse.map fun x => x.toNat - '0'.toNat))

/-- `Expand`, with the text of each numbered group; there are no named groups. -/
def expand (group : Nat → List Char) : Nat → List Char → List Char
  | 0, _ => []
  | _, [] => []
  | fuel + 1, '$' :: '$' :: template => '$' :: expand group fuel template
  | fuel + 1, '$' :: template =>
    match extract template with
    | none => '$' :: expand group fuel template
    | some (name, rest) => ((groupNumber name).map group).getD [] ++ expand group fuel rest
  | fuel + 1, x :: template => x :: expand group fuel template

/-- The replacement of a match that starts at `i` and ends at the cursor. -/
def expandMatch (text repl : List Char) (i : Nat) (c : Cursor) : List Char :=
  expand (fun n => if n = 0 then (text.drop i).take (c.pos - i) else (c.groups.lookup n).getD [])
    repl.length repl

/-- The loop of `replaceAll`: the end of the latest match, and where the next search starts. -/
def replaceLoop (r : Regex) (text repl : List Char) : Nat → Nat → Nat → List Char
  | 0, lastMatchEnd, _ => text.drop lastMatchEnd
  | fuel + 1, lastMatchEnd, searchPos =>
    match findFrom r text searchPos with
    | none => text.drop lastMatchEnd
    | some (i, c) =>
      (text.drop lastMatchEnd).take (i - lastMatchEnd) ++
        (if lastMatchEnd < c.pos ∨ i = 0 then expandMatch text repl i c else []) ++
        replaceLoop r text repl fuel c.pos (max (searchPos + 1) c.pos)

/-- `ReplaceAllString`. -/
def replaceAllString (r : Regex) (src repl : String) : String :=
  String.ofList (replaceLoop r src.toList repl.toList (src.toList.length + 2) 0 0)

/-! ### Shorthands -/

namespace Regex

def char (x : Char) : Regex := .set (· == x)

/-- A text that stands for itself. -/
def lit (text : String) : Regex := text.toList.foldr (fun x r => .seq (char x) r) .empty

/-- `[^...]`. -/
def noneOf (text : String) : Regex := .set fun x => ! text.toList.contains x

/-- `\d`. -/
def digit : Regex := .set Char.isDigit

/-- `\s`. -/
def space : Regex := .set fun x => ['\t', '\n', '\x0c', '\r', ' '].contains x

/-- `.`: anything but a line feed. -/
def dot : Regex := .set (· != '\n')

/-- `r+`. -/
def plus (r : Regex) : Regex := .seq r (.star r)

/-- `r?`. -/
def opt (r : Regex) : Regex := .alt r .empty

/-- `r{0,n}`. -/
def upTo : Nat → Regex → Regex
  | 0, _ => .empty
  | n + 1, r => opt (.seq r (upTo n r))

/-- Expressions one after the other. -/
def all (parts : List Regex) : Regex := parts.foldr .seq .empty

/-- `^...$`. -/
def whole (parts : List Regex) : Regex := .seq .beginText (all (parts ++ [.endText]))

end Regex

/-! ### The characters of a match -/

/-- Every character that the expression accepts somewhere has the property. -/
def Regex.Only (P : Char → Prop) : Regex → Prop
  | .empty => True
  | .set accepts => ∀ x, accepts x = true → P x
  | .seq first second => first.Only P ∧ second.Only P
  | .alt first second => first.Only P ∧ second.Only P
  | .star body => body.Only P
  | .group _ body => body.Only P
  | .beginText => True
  | .endText => True

/-- From one cursor to another, over characters that have the property. -/
def Reads (P : Char → Prop) (c next : Cursor) : Prop :=
  ∃ text, c.rest = text ++ next.rest ∧ ∀ x ∈ text, P x

theorem Reads.refl {P : Char → Prop} (c : Cursor) : Reads P c c := ⟨[], rfl, nofun⟩

theorem Reads.trans {P : Char → Prop} {c next last : Cursor} (first : Reads P c next)
    (second : Reads P next last) : Reads P c last := by
  obtain ⟨text, is, all⟩ := first
  obtain ⟨text', is', all'⟩ := second
  refine ⟨text ++ text', by rw [is, is', List.append_assoc], fun x member => ?_⟩
  rcases List.mem_append.mp member with member | member
  · exact all x member
  · exact all' x member

theorem iterate_reads {P : Char → Prop} {step : Cursor → List Cursor}
    (reads : ∀ c, ∀ next ∈ step c, Reads P c next) (fuel : Nat) (c : Cursor) :
    ∀ next ∈ iterate step fuel c, Reads P c next := by
  induction fuel generalizing c with
  | zero =>
    intro next member
    rw [List.mem_singleton.mp member]
    exact Reads.refl c
  | succ fuel ih =>
    intro next member
    rcases List.mem_append.mp member with again | stop
    · obtain ⟨middle, found, later⟩ := List.mem_flatMap.mp again
      exact (reads c middle (List.mem_of_mem_filter found)).trans (ih middle next later)
    · rw [List.mem_singleton.mp stop]
      exact Reads.refl c

/-- **A match consumes characters that the expression accepts.** -/
theorem run_reads {P : Char → Prop} {r : Regex} (only : r.Only P) (c : Cursor) :
    ∀ next ∈ run r c, Reads P c next := by
  induction r generalizing c with
  | empty =>
    intro next member
    rw [List.mem_singleton.mp member]
    exact Reads.refl c
  | set accepts =>
    intro next member
    rw [run] at member
    split at member
    · rename_i x rest is
      split at member
      · rename_i accepted
        rw [List.mem_singleton.mp member]
        exact ⟨[x], is, fun y one => List.mem_singleton.mp one ▸ only x accepted⟩
      · cases member
    · cases member
  | seq first second ih ih' =>
    intro next member
    obtain ⟨middle, found, later⟩ := List.mem_flatMap.mp member
    exact (ih only.1 c middle found).trans (ih' only.2 middle next later)
  | alt first second ih ih' =>
    intro next member
    rcases List.mem_append.mp member with member | member
    · exact ih only.1 c next member
    · exact ih' only.2 c next member
  | star body ih => exact iterate_reads (fun c => ih only c) _ c
  | group number body ih =>
    intro next member
    obtain ⟨found, listed, rfl⟩ := List.mem_map.mp member
    exact ih only c found listed
  | beginText =>
    intro next member
    rw [run] at member
    split at member
    · rw [List.mem_singleton.mp member]
      exact Reads.refl c
    · cases member
  | endText =>
    intro next member
    rw [run] at member
    split at member
    · rw [List.mem_singleton.mp member]
      exact Reads.refl c
    · cases member

theorem only_all {P : Char → Prop} {parts : List Regex} (only : ∀ r ∈ parts, r.Only P) :
    (Regex.all parts).Only P := by
  induction parts with
  | nil => trivial
  | cons r parts ih =>
    exact ⟨only r List.mem_cons_self, ih fun r member => only r (List.mem_cons_of_mem _ member)⟩

theorem only_upTo {P : Char → Prop} {r : Regex} (only : r.Only P) (n : Nat) :
    (Regex.upTo n r).Only P := by
  induction n with
  | zero => trivial
  | succ n ih => exact ⟨⟨only, ih⟩, trivial⟩

/-- A match of an expression with an end is at the end. -/
theorem rest_of_run_endText {parts : List Regex} {c next : Cursor}
    (found : next ∈ run (Regex.all (parts ++ [.endText])) c) : next.rest = [] := by
  induction parts generalizing c with
  | nil =>
    obtain ⟨middle, ended, last⟩ := List.mem_flatMap.mp found
    rw [run] at ended
    split at ended
    · rename_i finished
      rw [List.mem_singleton.mp last, List.mem_singleton.mp ended]
      exact finished
    · cases ended
  | cons r parts ih =>
    obtain ⟨middle, -, last⟩ := List.mem_flatMap.mp found
    exact ih last

/-- **A text that is matched as a whole** has only characters that the expression accepts. -/
theorem forall_of_matchString {P : Char → Prop} {parts : List Regex} (only : ∀ r ∈ parts, r.Only P)
    {text : String} (matched : matchString (.whole parts) text = true) : ∀ x ∈ text.toList, P x := by
  obtain ⟨found, is⟩ := Option.isSome_iff_exists.mp matched
  obtain ⟨i, -, here⟩ := List.exists_of_findSome?_eq_some is
  obtain ⟨next, first, -⟩ := Option.map_eq_some_iff.mp here
  obtain ⟨start, begun, later⟩ := List.mem_flatMap.mp (List.mem_of_mem_head? first)
  rw [run] at begun
  split at begun
  swap
  · cases begun
  rename_i zero
  obtain rfl : i = 0 := zero
  have onlyAll : (Regex.all (parts ++ [.endText])).Only P := by
    refine only_all fun r member => ?_
    rcases List.mem_append.mp member with member | member
    · exact only r member
    · rw [List.mem_singleton.mp member]
      trivial
  obtain ⟨consumed, split, all⟩ := run_reads onlyAll start next later
  rw [rest_of_run_endText later, List.append_nil, List.mem_singleton.mp begun, List.drop_zero] at split
  have whole : text.toList = consumed := split
  rw [whole]
  exact all

/-- An expression that accepts none of these characters anywhere. -/
def Regex.avoids (bad : List Char) : Regex → Bool
  | .empty => true
  | .set accepts => bad.all (! accepts ·)
  | .seq first second => first.avoids bad && second.avoids bad
  | .alt first second => first.avoids bad && second.avoids bad
  | .star body => body.avoids bad
  | .group _ body => body.avoids bad
  | .beginText => true
  | .endText => true

theorem only_of_avoids {bad : List Char} {r : Regex} (avoids : r.avoids bad = true) :
    r.Only (· ∉ bad) := by
  induction r with
  | empty => trivial
  | set accepts =>
    intro x accepted member
    have rejected := List.all_eq_true.mp avoids x member
    rw [accepted] at rejected
    cases rejected
  | seq first second ih ih' =>
    obtain ⟨one, two⟩ := Bool.and_eq_true_iff.mp avoids
    exact ⟨ih one, ih' two⟩
  | alt first second ih ih' =>
    obtain ⟨one, two⟩ := Bool.and_eq_true_iff.mp avoids
    exact ⟨ih one, ih' two⟩
  | star body ih => exact ih avoids
  | group number body ih => exact ih avoids
  | beginText => trivial
  | endText => trivial

end GoRegexp
