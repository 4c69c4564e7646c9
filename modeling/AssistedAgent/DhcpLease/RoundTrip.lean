/-
**A lease goes to the service and comes back.**

The agent sends the last lease of a lease file to the service, and the service sends it back for the
next run, which writes it as the new lease file, with the name of the interface that it has then.

* `IsLastLease` — a lease at the end of a text, but for white space, and at the start of a line or word.
* `IsClause` — the text of an `interface` clause, by the name in it; `Cut` finds the clauses of a text
  from left to right.
* `cut_format` — formatting leaves the places of the clauses: the new text has the clauses of the old one,
  under the new name, and no others. A clause that the new name would complete was complete before,
  as every clause has the quote that would complete it.
* **`lease_roundTrip`** — what is extracted, and what becomes of it when it is formatted and extracted
  again.
-/

import AssistedAgent.DhcpLease.Allocate
import AssistedAgent.Lib.RegexpMatches

namespace AssistedAgent.DhcpLease

open GoRegexp Interaction

/-! ### The last lease -/

/-- `lease`, white space, and a text without braces in braces. -/
def IsLease (lease : List Char) : Prop :=
  ∃ space body, (∀ x ∈ space, isWhite x = true) ∧ ('\x7b' ∉ body ∧ '\x7d' ∉ body) ∧
    lease = "lease".toList ++ (space ++ '\x7b' :: (body ++ ['\x7d']))

/-- The start of a text, or a place after white space. -/
def StartsWord (before : List Char) : Prop := ∀ x ∈ before.getLast?, isWhite x = true

/-- A text ends, but for white space, in this lease. -/
def IsLastLease (text lease : List Char) : Prop :=
  IsLease lease ∧ ∃ before space, StartsWord before ∧ (∀ x ∈ space, isWhite x = true) ∧
    text = before ++ (lease ++ space)

theorem openBrace : "\x7b".toList = ['\x7b'] := rfl

theorem closeBrace : "\x7d".toList = ['\x7d'] := rfl

theorem mem_body_iff {body : List Char} :
    (∀ x ∈ body, (! "\x7d\x7b".toList.contains x) = true) ↔ '\x7b' ∉ body ∧ '\x7d' ∉ body := by
  constructor
  · intro none
    exact ⟨fun member => absurd (none _ member) (by decide),
      fun member => absurd (none _ member) (by decide)⟩
  · rintro ⟨noOpen, noClose⟩ x member
    have first : x ≠ '\x7d' := fun eq => noClose (eq ▸ member)
    have second : x ≠ '\x7b' := fun eq => noOpen (eq ▸ member)
    have chars : "\x7d\x7b".toList = ['\x7d', '\x7b'] := rfl
    simp [chars, first, second]

/-- A lease at the head of a text. -/
theorem mem_run_lease {c inner : Cursor} :
    inner ∈ run (.all [.lit "lease", .star .space, .lit "\x7b", .star (.noneOf "\x7d\x7b"),
        .lit "\x7d"]) c ↔
      ∃ text rest, IsLease text ∧ c.rest = text ++ rest ∧ inner = c.after text rest := by
  rw [space_eq, Regex.noneOf]
  simp only [mem_run_all_lit, mem_run_all_star, mem_run_all_nil, mem_body_iff, Cursor.after_rest,
    Cursor.after_after, openBrace, closeBrace]
  constructor
  · rintro ⟨_, is, space, _, white, rfl, _, rfl, body, _, plain, rfl, rest, rfl, rfl⟩
    refine ⟨_, rest, ⟨space, body, white, plain, rfl⟩, ?_, ?_⟩
    · rw [is]
      simp
    · simp
  · rintro ⟨_, rest, ⟨space, body, white, plain, rfl⟩, is, rfl⟩
    refine ⟨_, is.trans (List.append_assoc _ _ _), space, '\x7b' :: (body ++ '\x7d' :: rest), white, ?_,
      body ++ '\x7d' :: rest, rfl, body, '\x7d' :: rest, plain, rfl, rest, rfl, ?_⟩
    · simp
    · simp

/-- A match of the expression, from a cursor on. -/
theorem run_leaseRegex {c next : Cursor} : next ∈ run leaseRegex c ↔ ∃ white lease space,
    (white = [] ∧ c.pos = 0 ∨ ∃ x, isWhite x = true ∧ white = [x]) ∧ IsLease lease ∧
    (∀ x ∈ space, isWhite x = true) ∧ c.rest = white ++ (lease ++ space) ∧
    next = ((c.after white (lease ++ space)).capture 1 lease space).after space [] := by
  rw [leaseRegex, mem_run_all_cons]
  simp only [mem_run_all_group fun _ => mem_run_lease]
  simp only [space_eq, mem_run_all_star, mem_run_all_endText, mem_run_all_nil, mem_run_alt,
    mem_run_beginText,
    mem_run_set, Cursor.after_rest, Cursor.capture_rest]
  constructor
  · rintro ⟨middle, before, lease, _, is, split, space, rest, white, rfl, rfl, rfl⟩
    rw [List.append_nil] at split
    rcases before with ⟨begins, rfl⟩ | ⟨x, rest, blank, eq, rfl⟩
    · refine ⟨[], lease, space, .inl ⟨rfl, begins⟩, is, white, split, ?_⟩
      simp [Cursor.after, Cursor.capture]
    · obtain rfl : rest = lease ++ space := split
      refine ⟨[x], lease, space, .inr ⟨x, blank, rfl⟩, is, white, eq, ?_⟩
      rw [List.append_nil]
  · rintro ⟨text, lease, space, before, is, white, split, rfl⟩
    refine ⟨c.after text (lease ++ space), ?_, lease, space, is, rfl, space, [], white,
      (List.append_nil space).symm, rfl, rfl⟩
    rcases before with ⟨rfl, begins⟩ | ⟨x, blank, rfl⟩
    · refine .inl ⟨begins, ?_⟩
      rw [← List.nil_append (lease ++ space), ← split]
      rfl
    · exact .inr ⟨x, _, blank, split, rfl⟩

/-- A lease ends in its brace. -/
theorem IsLease.getLast? {lease : List Char} (is : IsLease lease) (before : List Char) :
    (before ++ lease).getLast? = some '\x7d' := by
  obtain ⟨space, body, -, -, rfl⟩ := is
  have split : before ++ ("lease".toList ++ (space ++ '\x7b' :: (body ++ ['\x7d']))) =
      (before ++ ("lease".toList ++ (space ++ '\x7b' :: body))) ++ ['\x7d'] := by simp
  rw [split, List.getLast?_concat]

/-- **A text ends in one lease only.** -/
theorem IsLastLease.unique {text lease lease' : List Char} (last : IsLastLease text lease)
    (last' : IsLastLease text lease') : lease = lease' := by
  obtain ⟨is, before, trail, -, white, rfl⟩ := last
  obtain ⟨is', before', trail', -, white', same⟩ := last'
  rw [← List.append_assoc, ← List.append_assoc] at same
  have brace {x : Char} (eq : x ∈ some '\x7d') : isWhite x = false := by
    cases eq
    decide
  obtain ⟨same, -⟩ := append_inj_of_class_right same white white'
    (fun x member => brace (is.getLast? before ▸ member))
      (fun x member => brace (is'.getLast? before' ▸ member))
  obtain ⟨space, body, white, ⟨noOpen, -⟩, rfl⟩ := is
  obtain ⟨space', body', white', ⟨noOpen', -⟩, rfl⟩ := is'
  -- The last opening brace is that of both, and then the white space and the word before it.
  have closed {body : List Char} (none : '\x7b' ∉ body) : '\x7b' ∉ body ++ ['\x7d'] := by
    simpa using none
  have split : ∀ before space body : List Char, before ++
    ("lease".toList ++ (space ++ '\x7b' :: (body ++ ['\x7d']))) =
      (before ++ "lease".toList ++ space) ++ '\x7b' :: (body ++ ['\x7d']) := by
    intro before space body
    simp
  rw [split, split] at same
  obtain ⟨front, bodies⟩ := append_cons_inj_right same (closed noOpen) (closed noOpen')
  have letter (before : List Char) : ∀ x ∈ (before ++ "lease".toList).getLast?, isWhite x = false := by
    intro x member
    have word : "lease".toList = "leas".toList ++ ['e'] := rfl
    rw [word, ← List.append_assoc, List.getLast?_concat] at member
    cases member
    decide
  obtain ⟨-, rfl⟩ := append_inj_of_class_right front white white' (letter before) (letter before')
  rw [bodies]

/-- **The lease that is found** is the one that the text ends in. -/
theorem lastLease_eq_some_iff {text lease : String} :
    lastLease text = some lease ↔ IsLastLease text.toList lease.toList := by
  have shape : (∃ matched, findStringSubmatch leaseRegex 1 text = matched :: [lease]) ↔
      ∃ only, [lease].map String.toList = [only] ∧ IsLastLease text.toList only := by
    refine submatch_iff leaseRegex 1 text (fun groups => ∃ only, groups = [only] ∧
      IsLastLease text.toList only)
      ?_ ?_ ?_ [lease]
    · intro i bound c member
      obtain ⟨white, lease, space, before, is, trail, split, rfl⟩ := run_leaseRegex.mp member
      refine ⟨lease, rfl, is, text.toList.take i ++ white, space, ?_, trail, ?_⟩
      · rcases before with ⟨rfl, begins⟩ | ⟨x, blank, rfl⟩
        · obtain rfl : i = 0 := begins
          exact nofun
        · intro y last
          rw [List.getLast?_concat] at last
          cases last
          exact blank
      · rw [List.append_assoc, ← split, List.take_append_drop]
    · rintro _ ⟨lease, -, is, before, space, starts, trail, split⟩
      rcases List.eq_nil_or_concat before with rfl | ⟨front, x, rfl⟩
      · exact ⟨0, Nat.zero_le _, _, run_leaseRegex.mpr
        ⟨[], lease, space, .inl ⟨rfl, rfl⟩, is, trail, split, rfl⟩⟩
      · have blank := starts x (by rw [List.concat_eq_append, List.getLast?_concat]; rfl)
        rw [List.concat_eq_append, List.append_assoc] at split
        refine ⟨front.length, ?_, _, run_leaseRegex.mpr
          ⟨[x], lease, space, .inr ⟨x, blank, rfl⟩, is, trail, ?_, rfl⟩⟩
        · rw [split, List.length_append]
          exact Nat.le_add_right _ _
        · rw [split, List.drop_left]
    · rintro _ _ ⟨lease, rfl, last⟩ ⟨lease', rfl, last'⟩
      rw [last.unique last']
  have found : lastLease text = some lease ↔
      ∃ matched, findStringSubmatch leaseRegex 1 text = [matched, lease] := by
    unfold lastLease
    split
    · rename_i matched other is
      simp [is]
    · rename_i notPair
      exact iff_of_false nofun fun ⟨matched, is⟩ => notPair matched lease is
  rw [found, shape]
  exact ⟨fun ⟨only, eq, last⟩ => (List.singleton_inj.mp eq) ▸ last, fun last => ⟨_, rfl, last⟩⟩

/-! ### Clauses -/

def keyword : List Char := "interface".toList

theorem keyword_eq : keyword = ['i', 'n', 't', 'e', 'r', 'f', 'a', 'c', 'e'] := rfl

/-- The text of a clause for an interface, with its white space. -/
def clause (space name : List Char) : List Char := keyword ++ (space ++ '"' :: (name ++ ['"']))

/-- A clause that names an interface. -/
def IsClause (name text : List Char) : Prop :=
  ∃ space, (space ≠ [] ∧ ∀ x ∈ space, isWhite x = true) ∧ (name ≠ [] ∧ '"' ∉ name) ∧
    text = clause space name

def AnyClause (text : List Char) : Prop := ∃ name, IsClause name text

theorem quote : "\"".toList = ['"'] := rfl

theorem not_isWhite_quote (rest : List Char) : ∀ x ∈ ('"' :: rest).head?, isWhite x = false := by
  intro x member
  cases member
  decide

theorem AnyClause.unique {text rest text' rest' : List Char} (same : text ++ rest = text' ++ rest')
    (is : AnyClause text) (is' : AnyClause text') : text = text' := by
  obtain ⟨name, space, ⟨-, white⟩, ⟨-, plain⟩, rfl⟩ := is
  obtain ⟨name', space', ⟨-, white'⟩, ⟨-, plain'⟩, rfl⟩ := is'
  simp only [clause, List.append_assoc, List.cons_append, List.append_cancel_left_eq] at same
  obtain ⟨rfl, later⟩ := append_inj_of_class same white white' (not_isWhite_quote _)
    (not_isWhite_quote _)
  obtain ⟨rfl, -⟩ := append_cons_inj (List.cons.inj later).2 plain plain'
  rfl

theorem takes_interfaceRegex : TakesClass interfaceRegex AnyClause where
  mem c next := by
    have word : "interface".toList = keyword := rfl
    rw [interfaceRegex, space_eq, Regex.noneOf]
    simp only [mem_run_all_lit, word, mem_run_all_plus, mem_run_all_char, mem_run_all_nil,
      noneOf_iff quote,
      Cursor.after_rest, Cursor.after_after]
    constructor
    · rintro ⟨_, is, space, _, some, white, rfl, _, rfl, name, _, named, plain, rfl, rest, rfl, rfl⟩
      refine ⟨_, rest, ⟨name, space, ⟨some, white⟩, ⟨named, plain⟩, rfl⟩, ?_, ?_⟩
      · rw [is]
        simp [clause]
      · simp [clause]
    · rintro ⟨_, rest, ⟨name, space, ⟨some, white⟩, ⟨named, plain⟩, rfl⟩, is, rfl⟩
      refine ⟨_, is.trans (List.append_assoc _ _ _), space, '"' :: (name ++ '"' :: rest), some,
        white, ?_,
        name ++ '"' :: rest, rfl, name, '"' :: rest, named, plain, rfl, rest, rfl, ?_⟩
      · simp
      · simp [clause]
  positive := by
    rintro ⟨name, space, -, -, eq⟩
    rw [clause, keyword_eq] at eq
    cases eq
  unique _ _ _ _ same is is' := AnyClause.unique same is is'

/-- What stands for each clause. -/
def replacement (name : List Char) : List Char := clause [' '] name

theorem toList_replacement (name : String) :
    ("interface \"" ++ name ++ "\"").toList = replacement name.toList := by
  have word : "interface \"".toList = keyword ++ [' ', '"'] := rfl
  rw [String.toList_append, String.toList_append, word, quote, replacement, clause]
  simp

/-- An interface has a name; these are the characters that it is without. -/
structure InterfaceName (name : List Char) : Prop where
  nonempty : name ≠ []
  noQuote : '"' ∉ name
  noBraces : '\x7b' ∉ name ∧ '\x7d' ∉ name
  noDollar : '$' ∉ name

variable {name : List Char}

theorem InterfaceName.isClause (is : InterfaceName name) : IsClause name (replacement name) :=
  ⟨[' '], ⟨List.cons_ne_nil _ _, List.forall_mem_singleton.mpr rfl⟩, ⟨is.nonempty, is.noQuote⟩, rfl⟩

theorem mem_replacement {x : Char} (member : x ∈ replacement name) :
    x ∈ keyword ++ [' ', '"'] ∨ x ∈ name := by
  simp only [replacement, clause, List.mem_append, List.mem_cons, List.not_mem_nil,
    or_false] at member ⊢
  tauto

/-- **`formatLeaseFile`**, by the clauses of its text. -/
theorem formatLeaseFile_eq {text name : String} {pieces : List (Char ⊕ List Char)}
    (is : InterfaceName name.toList) (cut : Cut AnyClause text.toList pieces) :
    (formatLeaseFile text name).toList = render (replacement name.toList) pieces := by
  rw [← toList_replacement, formatLeaseFile]
  refine takes_interfaceRegex.replaceAllString_eq ?_ cut
  rw [toList_replacement]
  intro member
  rcases mem_replacement member with here | here
  · exact absurd here (by decide)
  · exact is.noDollar here

/-! ### The clauses of a formatted text -/

/-- A text that a clause starts: its white space and first quote, and a second quote that is not the
next character. -/
theorem startsClause_iff {text : List Char} :
    (∃ found more, text = found ++ more ∧ AnyClause found) ↔
      ∃ space rest, (space ≠ [] ∧ ∀ x ∈ space, isWhite x = true) ∧ '"' ∈ rest ∧
        (∀ x ∈ rest.head?, x ≠ '"') ∧
        text = keyword ++ (space ++ ['"']) ++ rest := by
  constructor
  · rintro ⟨_, more, rfl, name, space, white, ⟨named, plain⟩, rfl⟩
    refine ⟨space, name ++ '"' :: more, white, by simp, ?_, by simp [clause]⟩
    intro x first eq
    cases name with
    | nil => exact named rfl
    | cons y name =>
      cases first
      exact plain (eq ▸ List.mem_cons_self)
  · rintro ⟨space, rest, white, member, first, rfl⟩
    obtain ⟨name, more, rfl, plain⟩ := List.eq_append_cons_of_mem member
    have named : name ≠ [] := by
      rintro rfl
      exact first '"' rfl rfl
    exact ⟨clause space name, more, by simp [clause], name, space, white, ⟨named, plain⟩, rfl⟩

/-- Two texts that are the same up to the first clause of each. -/
def SameGap (text text' : List Char) : Prop :=
  ∃ gap tail tail', text = gap ++ tail ∧ text' = gap ++ tail' ∧ (∀ x ∈ tail.head?, x = 'i') ∧
    (∀ x ∈ tail'.head?, x = 'i') ∧ ('"' ∈ tail' → '"' ∈ tail)

theorem AnyClause.head? {text : List Char} (is : AnyClause text) (rest : List Char) :
    ∀ x ∈ (text ++ rest).head?, x = 'i' := by
  obtain ⟨name, space, -, -, rfl⟩ := is
  intro x member
  rw [clause, keyword_eq] at member
  cases member
  rfl

theorem AnyClause.quote_mem {text : List Char} (is : AnyClause text) : '"' ∈ text := by
  obtain ⟨name, space, -, -, rfl⟩ := is
  simp [clause]

theorem sameGap_render (is : InterfaceName name) {text : List Char} {pieces : List (Char ⊕ List Char)}
    (cut : Cut AnyClause text pieces) : SameGap text (render (replacement name) pieces) := by
  induction cut with
  | nil => exact ⟨[], [], [], rfl, rfl, nofun, nofun, nofun⟩
  | @char x rest pieces none later ih =>
    obtain ⟨gap, tail, tail', rfl, eq, rest⟩ := ih
    exact ⟨x :: gap, tail, tail', rfl, congrArg (x :: ·) eq, rest⟩
  | @found text rest pieces holds later ih =>
    exact ⟨[], _, _, rfl, rfl, holds.head? rest, AnyClause.head? ⟨name, is.isClause⟩ _,
      fun _ => List.mem_append_left _ holds.quote_mem⟩

/-- The start of a clause has its first letter once. -/
theorem eq_nil_of_start {gap rest space : List Char} (white : ∀ x ∈ space, isWhite x = true)
    (nonempty : gap ≠ []) (split : keyword ++ (space ++ ['"']) = gap ++ rest)
    (head : ∀ x ∈ rest.head?, x = 'i') : rest = [] := by
  cases gap with
  | nil => exact absurd rfl nonempty
  | cons y gap =>
    cases rest with
    | nil => rfl
    | cons z rest =>
      obtain rfl := head z rfl
      rw [keyword_eq] at split
      have later : ['n', 't', 'e', 'r', 'f', 'a', 'c', 'e'] ++ (space ++ ['"']) = gap ++ 'i' :: rest :=
        (List.cons.inj split).2
      have member : 'i' ∈ ['n', 't', 'e', 'r', 'f', 'a', 'c', 'e'] ++ (space ++ ['"']) := by
        rw [later]
        simp
      rcases List.mem_append.mp member with member | member
      · exact absurd member (by decide)
      · rcases List.mem_append.mp member with member | member
        · exact absurd (white _ member) (by decide)
        · exact absurd member (by decide)

/-- **A clause in the new text was one in the old text.** Before the next clause, the start of a clause is
complete, and the quote that ends it is there in both texts. -/
theorem SameGap.starts {text text' : List Char} (same : SameGap text text') (x : Char)
    (starts : ∃ found more, x :: text' = found ++ more ∧ AnyClause found) :
    ∃ found more, x :: text = found ++ more ∧ AnyClause found := by
  obtain ⟨gap, tail, tail', rfl, rfl, head, head', quoted⟩ := same
  rw [startsClause_iff] at starts ⊢
  obtain ⟨space, rest, white, member, first, split⟩ := starts
  -- The gap has all of the start, and `rest` is what it has after it, with the tail.
  obtain ⟨more, eq, eq'⟩ : ∃ more, x :: gap = keyword ++ (space ++ ['"']) ++ more ∧
      rest = more ++ tail' := by
    rw [← List.cons_append] at split
    rcases List.append_eq_append_iff.mp split with ⟨left, start, tails⟩ | ⟨more, start, tails⟩
    · have ended : left = [] := by
        refine eq_nil_of_start white.2 (List.cons_ne_nil x gap) start fun y first => ?_
        refine head' y ?_
        rw [tails]
        exact List.mem_head?_append_of_mem_head? first
      rw [ended, List.append_nil] at start
      rw [ended, List.nil_append] at tails
      exact ⟨[], by rw [List.append_nil, start], tails.symm⟩
    · exact ⟨more, start, tails⟩
  refine ⟨space, more ++ tail, white, ?_, ?_, by rw [← List.cons_append, eq, List.append_assoc]⟩
  · rw [eq'] at member
    rcases List.mem_append.mp member with member | member
    · exact List.mem_append_left _ member
    · exact List.mem_append_right _ (quoted member)
  · cases more with
    | nil =>
      intro y here
      rw [head y here]
      decide
    | cons z more =>
      rw [eq'] at first
      exact first

/-- The pieces with another name in the clauses. -/
def rename (name : List Char) (pieces : List (Char ⊕ List Char)) : List (Char ⊕ List Char) :=
  pieces.map (Sum.map id fun _ => replacement name)

/-- **The clauses of a formatted text** are the clauses of the text, under the new name. -/
theorem cut_format (is : InterfaceName name) {text : List Char} {pieces : List (Char ⊕ List Char)}
    (cut : Cut AnyClause text pieces) :
    Cut AnyClause (render (replacement name) pieces) (rename name pieces) := by
  induction cut with
  | nil => exact .nil
  | @char x rest pieces none later ih =>
    refine .char (fun found more eq holds => ?_) ih
    obtain ⟨found, more, eq, holds⟩ := (sameGap_render is later).starts x ⟨found, more, eq, holds⟩
    exact none found more eq holds
  | @found text rest pieces holds later ih => exact .found ⟨name, is.isClause⟩ ih

theorem render_rename (repl name : List Char) (pieces : List (Char ⊕ List Char)) :
    render repl (rename name pieces) = render repl pieces := by
  induction pieces with
  | nil => rfl
  | cons piece pieces ih =>
    cases piece with
    | inl x => exact congrArg (x :: ·) ih
    | inr text => exact congrArg (repl ++ ·) ih

/-! ### Every clause -/

/-- Every clause of a text names the interface. The clauses are those that are found from left to
right; with a name without white space, there is none that starts inside another either. -/
structure NamesOnly (name text : List Char) : Prop where
  clauses : ∀ pieces, Cut AnyClause text pieces → ∀ found, .inr found ∈ pieces → IsClause name found
  everywhere : (∀ x ∈ name, isWhite x = false) → ∀ before found more, text = before ++ (found ++ more) →
    AnyClause found → IsClause name found

/-- A clause does not start inside the clause of a name without white space. -/
theorem not_starts_inside (is : InterfaceName name) (solid : ∀ x ∈ name, isWhite x = false)
    {before inside found more rest : List Char} (split : replacement name = before ++ inside)
    (proper : before ≠ [] ∧ inside ≠ []) (starts : inside ++ rest = found ++ more) :
      ¬ AnyClause found := by
  intro holds
  -- What is inside starts in the name, or after its first character.
  obtain ⟨skipped, eq⟩ : ∃ skipped, name ++ ['"'] = skipped ++ inside := by
    have start : (keyword ++ ([' '] ++ ['"'])) ++ (name ++ ['"']) = before ++ inside := by
      rw [← split]
      simp [replacement, clause]
    rcases List.append_eq_append_iff.mp start with ⟨skipped, -, eq⟩ | ⟨left, eq, rfl⟩
    · exact ⟨skipped, eq⟩
    · have ended : left = [] := by
        refine eq_nil_of_start (List.forall_mem_singleton.mpr rfl) proper.1 eq fun x first =>
          holds.head? more x ?_
        rw [← starts, List.append_assoc]
        exact List.mem_head?_append_of_mem_head? first
      exact ⟨[], by rw [ended, List.nil_append, List.nil_append]⟩
  obtain rfl | ⟨front, x, rfl⟩ := List.eq_nil_or_concat inside
  · exact proper.2 rfl
  rw [List.concat_eq_append] at eq starts
  rw [← List.append_assoc] at eq
  obtain ⟨ends, last⟩ := List.append_inj' eq rfl
  obtain rfl : '"' = x := List.singleton_inj.mp last
  obtain ⟨name', space, ⟨nonempty, white⟩, -, rfl⟩ := holds
  have cut : front ++ '"' :: rest = (keyword ++ space) ++ '"' :: (name' ++ '"' :: more) := by
    simpa [clause] using starts
  have plain : '"' ∉ front := fun member => is.noQuote (ends ▸ List.mem_append_right _ member)
  have plain' : '"' ∉ keyword ++ space := by
    intro member
    rcases List.mem_append.mp member with member | member
    · exact absurd (keyword_eq ▸ member) (by decide)
    · exact absurd (white _ member) (by decide)
  obtain ⟨rfl, -⟩ := append_cons_inj cut plain plain'
  obtain ⟨y, space, rfl⟩ := List.exists_cons_of_ne_nil nonempty
  have inName : y ∈ name := by
    rw [ends]
    simp
  cases (white y List.mem_cons_self).symm.trans (solid y inName)

/-- Where the clauses that are found are all the same, there are no others. -/
theorem isClause_of_occurrence (is : InterfaceName name) (solid : ∀ x ∈ name, isWhite x = false)
    {text : List Char} {pieces : List (Char ⊕ List Char)} (cut : Cut AnyClause text pieces)
    (named : ∀ found, .inr found ∈ pieces → found = replacement name) {before found more : List Char}
    (split : text = before ++ (found ++ more)) (holds : AnyClause found) : IsClause name found := by
  induction cut generalizing before with
  | nil =>
    have empty := (List.append_eq_nil_iff.mp (List.append_eq_nil_iff.mp split.symm).2).1
    exact absurd (empty ▸ holds) takes_interfaceRegex.positive
  | char none later ih =>
    cases before with
    | nil => exact absurd holds (none _ _ split)
    | cons y before =>
      exact ih (fun found member => named found (List.mem_cons_of_mem _ member)) (List.cons.inj split).2
  | @found text rest pieces here later ih =>
    have later := fun found member => named found (List.mem_cons_of_mem _ member)
    obtain rfl := named text List.mem_cons_self
    rcases List.append_eq_append_iff.mp split with ⟨skipped, -, eq⟩ | ⟨inside, eq, starts⟩
    · exact ih later eq
    · cases before with
      | nil =>
        rw [List.nil_append] at split
        rw [← AnyClause.unique split here holds]
        exact is.isClause
      | cons y before =>
        cases inside with
        | nil => exact ih later (List.nil_append _ ▸ starts.symm : rest = [] ++ (found ++ more))
        | cons z inside =>
          exact absurd holds (not_starts_inside is solid eq
            ⟨List.cons_ne_nil _ _, List.cons_ne_nil _ _⟩ starts.symm)

theorem eq_of_mem_rename {pieces : List (Char ⊕ List Char)} {found : List Char}
    (member : .inr found ∈ rename name pieces) : found = replacement name := by
  obtain ⟨piece, -, eq⟩ := List.mem_map.mp member
  cases piece with
  | inl x => cases eq
  | inr text => exact (Sum.inr.inj eq).symm

/-- **Every clause of a formatted text names the interface.** -/
theorem namesOnly_format (is : InterfaceName name) {text : List Char} {pieces : List (Char ⊕ List Char)}
    (cut : Cut AnyClause text pieces) : NamesOnly name (render (replacement name) pieces) where
  clauses pieces' cut' found member := by
    obtain rfl := takes_interfaceRegex.cut_unique (cut_format is cut) cut'
    rw [eq_of_mem_rename member]
    exact is.isClause
  everywhere solid _ _ _ split holds :=
    isClause_of_occurrence is solid (cut_format is cut) (fun _ => eq_of_mem_rename) split holds

/-! ### A formatted lease -/

/-- A clause starts with its first letter. -/
theorem cut_front {front text : List Char} {pieces : List (Char ⊕ List Char)} (without : 'i' ∉ front)
    (cut : Cut AnyClause text pieces) : Cut AnyClause (front ++ text) (front.map .inl ++ pieces) := by
  induction front with
  | nil => exact cut
  | cons x front ih =>
    obtain ⟨other, without⟩ := not_or.mp (List.mem_cons.not.mp without)
    refine .char (fun found more eq holds => other ?_) (ih without)
    exact (holds.head? more x (by rw [← eq]; rfl)).symm

/-- A clause ends with its quote. -/
theorem cut_concat {text : List Char} {x : Char} {pieces : List (Char ⊕ List Char)} (other : x ≠ '"')
    (cut : Cut AnyClause text pieces) : Cut AnyClause (text ++ [x]) (pieces ++ [.inl x]) := by
  have shorter (text : List Char) {found more : List Char} (eq : text ++ [x] = found ++ more)
    (holds : AnyClause found) :
      ∃ more', text = found ++ more' := by
    rcases List.eq_nil_or_concat more with rfl | ⟨front, y, rfl⟩
    · obtain ⟨name, space, -, -, rfl⟩ := holds
      have last : clause space name = (keyword ++ (space ++ '"' :: name)) ++ ['"'] := by simp [clause]
      rw [List.append_nil, last] at eq
      exact absurd (List.singleton_inj.mp (List.append_inj' eq rfl).2) other
    · rw [List.concat_eq_append, ← List.append_assoc] at eq
      exact ⟨front, (List.append_inj' eq rfl).1⟩
  induction cut with
  | nil =>
    refine .char (fun found more eq holds => ?_) .nil
    obtain ⟨more', empty⟩ := shorter [] eq holds
    exact takes_interfaceRegex.positive ((List.append_eq_nil_iff.mp empty.symm).1 ▸ holds)
  | @char y rest pieces none later ih =>
    refine .char (fun found more eq holds => ?_) ih
    obtain ⟨more', eq⟩ := shorter (y :: rest) eq holds
    exact none found more' eq holds
  | @found text rest pieces holds later ih =>
    rw [List.append_assoc]
    exact .found holds ih

/-- **A formatted lease is a lease**: the clauses are in its body. -/
theorem isLease_format {lease : List Char} {pieces : List (Char ⊕ List Char)} (is : IsLease lease)
    (named : InterfaceName name) (cut : Cut AnyClause lease pieces) :
    IsLease (render (replacement name) pieces) := by
  obtain ⟨space, body, white, plain, rfl⟩ := is
  obtain ⟨inner, cutBody⟩ := takes_interfaceRegex.exists_cut body
  have front : 'i' ∉ "lease".toList ++ (space ++ ['\x7b']) := by
    intro member
    rcases List.mem_append.mp member with member | member
    · exact absurd member (by decide)
    · rcases List.mem_append.mp member with member | member
      · exact absurd (white _ member) (by decide)
      · exact absurd member (by decide)
  have split : "lease".toList ++ (space ++ '\x7b' :: (body ++ ['\x7d'])) =
      "lease".toList ++ (space ++ ['\x7b']) ++ (body ++ ['\x7d']) := by simp
  have whole := cut_front front (cut_concat (by decide : '\x7d' ≠ '"') cutBody)
  rw [split] at cut
  obtain rfl := takes_interfaceRegex.cut_unique cut whole
  have brace {x : Char} (noKeyword : x ∉ keyword ++ [' ', '"']) (noName : x ∉ name)
    (noBody : x ∉ body) :
      x ∉ render (replacement name) inner := by
    intro member
    rcases mem_render cutBody member with member | member
    · exact (mem_replacement member).elim noKeyword noName
    · exact noBody member
  refine ⟨space, render (replacement name) inner, white,
    ⟨brace (by decide) named.noBraces.1 plain.1, brace (by decide) named.noBraces.2 plain.2⟩, ?_⟩
  rw [render_append, render_map_inl, render_append]
  simp

/-! ### The round trip -/

/-- `extractLastLease` of a file with this content returns. -/
def Extracts (leaseFile content : String) (result : Result String) : Prop :=
  Runs (extractLastLease leaseFile) [⟨.readFile leaseFile, (content, none)⟩] result

theorem extracts_ok_iff {leaseFile content lease : String} :
    Extracts leaseFile content (.ok lease) ↔ IsLastLease content.toList lease.toList := by
  rw [← lastLease_eq_some_iff]
  constructor
  · intro run
    obtain ⟨content', err, same, ⟨-, found, is, eq⟩ | ⟨failed, -⟩⟩ := extractLastLease_runs run
    · cases same
      rw [is, Result.ok.inj eq]
    · exact absurd rfl (failed lease)
  · intro is
    refine runs_request_bind.mpr ⟨(content, none), [], rfl, ?_⟩
    dsimp only
    rw [is]
    exact runs_pure.mpr ⟨rfl, rfl⟩

/-- **A lease survives the round trip.** -/
theorem lease_roundTrip (leaseFile content : String) :
    (∀ lease, Extracts leaseFile content (.ok lease) ↔ IsLastLease content.toList lease.toList) ∧
    ∀ lease, Extracts leaseFile content (.ok lease) → ∀ name : String, InterfaceName name.toList →
      (∀ newFile, Extracts newFile (formatLeaseFile lease name) (.ok (formatLeaseFile lease name))) ∧
      NamesOnly name.toList (formatLeaseFile lease name).toList ∧
      ∀ old : String, InterfaceName old.toList →
        formatLeaseFile (formatLeaseFile lease old) name = formatLeaseFile lease name := by
  refine ⟨fun lease => extracts_ok_iff, fun lease found name is => ?_⟩
  obtain ⟨isLease, -⟩ := extracts_ok_iff.mp found
  obtain ⟨pieces, cut⟩ := takes_interfaceRegex.exists_cut lease.toList
  have formatted := formatLeaseFile_eq is cut
  refine ⟨fun newFile => extracts_ok_iff.mpr ?_, ?_, fun old isOld => ?_⟩
  · rw [formatted]
    exact ⟨isLease_format isLease is cut, [], [], nofun, nofun, (List.append_nil _).symm⟩
  · rw [formatted]
    exact namesOnly_format is cut
  · refine String.toList_injective ?_
    have again : Cut AnyClause (formatLeaseFile lease old).toList (rename old.toList pieces) := by
      rw [formatLeaseFile_eq isOld cut]
      exact cut_format isOld cut
    rw [formatLeaseFile_eq is again, render_rename, formatted]

/-- A lease on an interface. -/
def leaseOn (iface : String) : String :=
  "lease \x7b\n  interface \"" ++ iface ++ "\";\n  fixed-address 10.0.0.5;\n\x7d"

/-- Of a file with two leases, the second one goes round. -/
theorem lease_roundTrip_two :
    Extracts "lease-api" ("lease\x7b\x7d\n" ++ leaseOn "api" ++ "\n") (.ok (leaseOn "api")) ∧
      Extracts "lease-api" (leaseOn "eth0") (.ok (leaseOn "eth0")) := by
  have last : IsLastLease ("lease\x7b\x7d\n" ++ leaseOn "api" ++ "\n").toList (leaseOn "api").toList :=
    ⟨⟨[' '], "\n  interface \"api\";\n  fixed-address 10.0.0.5;\n".toList,
      List.forall_mem_singleton.mpr rfl,
      by decide, by decide +kernel⟩, "lease\x7b\x7d".toList ++ ['\n'], ['\n'], by rintro x ⟨⟩; decide,
      List.forall_mem_singleton.mpr rfl, by decide +kernel⟩
  obtain ⟨extracted, trip⟩ := lease_roundTrip "lease-api" ("lease\x7b\x7d\n" ++ leaseOn "api" ++ "\n")
  have found := (extracted (leaseOn "api")).mpr last
  have formatted := (trip _ found "eth0" ⟨by decide, by decide, by decide, by decide⟩).1 "lease-api"
  have text : formatLeaseFile (leaseOn "api") "eth0" = leaseOn "eth0" := by decide +kernel
  rw [text] at formatted
  exact ⟨found, formatted⟩

end AssistedAgent.DhcpLease
