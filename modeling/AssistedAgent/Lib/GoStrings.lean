/-
**Text as the package `strings` reads it.**

On Unicode scalar values: prefixes, suffixes and substrings, the white space of `unicode.IsSpace`, the
last element of a path as `filepath.Base` takes it, lower case, and the words between white space.

* `wordsFrom_append_space`, `wordsFrom_word` — a text is split part by part.
* `ne_nil_of_mem_wordsFrom` — no word is empty.
-/

import Mathlib.Data.List.Infix

namespace GoStrings

/-- `strings.HasPrefix`. -/
def hasPrefix (s start : String) : Bool := start.toList.isPrefixOf s.toList

/-- `strings.HasSuffix`. -/
def hasSuffix (s ending : String) : Bool := ending.toList.isSuffixOf s.toList

/-- `strings.Contains`. -/
def contains (s substr : String) : Bool := decide (substr.toList <:+: s.toList)

/-- `strings.TrimPrefix`. -/
def trimPrefix (s start : String) : String :=
  if hasPrefix s start then String.ofList (s.toList.drop start.toList.length) else s

/-- `strings.TrimSuffix`. -/
def trimSuffix (s ending : String) : String :=
  if hasSuffix s ending then String.ofList (s.toList.take (s.toList.length - ending.toList.length)) else s

/-- `unicode.IsSpace`. -/
def isSpace (x : Char) : Bool :=
  let n := x.toNat
  (9 ≤ n && n ≤ 13) || [0x20, 0x85, 0xa0, 0x1680].contains n || (0x2000 ≤ n && n ≤ 0x200a) ||
    [0x2028, 0x2029, 0x202f, 0x205f, 0x3000].contains n

/-- The characters of ASCII that are printed and are not the blank. -/
theorem isSpace_of_printable {c : Char} (low : 33 ≤ c.toNat) (high : c.toNat ≤ 126) :
    isSpace c = false := by
  unfold isSpace
  simp only [List.contains_eq_mem, List.mem_cons, List.not_mem_nil, or_false, Bool.or_eq_false_iff,
    Bool.and_eq_false_iff, decide_eq_false_iff_not]
  omega

/-- `strings.TrimSpace`. -/
def trimSpace (s : String) : String :=
  String.ofList ((s.toList.dropWhile isSpace).reverse.dropWhile isSpace).reverse

theorem dropWhile_of_solid {text : List Char} (solid : ∀ c ∈ text, isSpace c = false) :
    text.dropWhile isSpace = text := by
  cases text with
  | nil => rfl
  | cons c text =>
    rw [List.dropWhile_cons, if_neg (Bool.eq_false_iff.mp (solid c List.mem_cons_self))]

/-- A text without white space is trimmed to itself. -/
theorem trimSpace_of_solid {s : String} (solid : ∀ c ∈ s.toList, isSpace c = false) :
    trimSpace s = s := by
  have backwards : ∀ c ∈ s.toList.reverse, isSpace c = false :=
    fun c member => solid c (List.mem_reverse.mp member)
  rw [trimSpace, dropWhile_of_solid solid, dropWhile_of_solid backwards, List.reverse_reverse,
    String.ofList_toList]

/-- `strings.Split` at a character. -/
def split (s : String) (sep : Char) : List String := (s.toList.splitOn sep).map String.ofList

/-- `strings.ReplaceAll` of a character by a character. -/
def replaceAll (s : String) (old new : Char) : String :=
  String.ofList (s.toList.map fun c => if c = old then new else c)

/-- `filepath.Base`. -/
def base (path : String) : String :=
  if path = "" then "."
  else
    let last := (path.toList.reverse.dropWhile (· == '/')).takeWhile (· != '/')
    if last = [] then "/" else String.ofList last.reverse

/-! ### Lower case -/

/-- `unicode.ToLower`, of which only the letters of ASCII are known. -/
structure Lowering where
  lower : Char → Char
  ascii : ∀ c : Char, c.toNat < 128 → lower c = c.toLower

/-- `strings.ToLower`. -/
def Lowering.toLower (l : Lowering) (s : String) : String := String.ofList (s.toList.map l.lower)

/-- Texts that differ in the case of letters of ASCII only. -/
def SameButCase (s t : String) : Prop := s.toList.map Char.toLower = t.toList.map Char.toLower

theorem toLower_of_not_ascii {c : Char} (high : 128 ≤ c.toNat) : c.toLower = c := by
  unfold Char.toLower
  refine dif_neg ?_
  rintro ⟨-, low⟩
  have bound : c.toNat ≤ 90 := low
  omega

theorem toNat_toLower_lt {c : Char} (low : c.toNat < 128) : c.toLower.toNat < 128 := by
  have all : ∀ n : Fin 128, (Char.ofNat n.val).toLower.toNat < 128 := by decide
  have here := all ⟨c.toNat, low⟩
  rwa [Char.ofNat_toNat] at here

/-- What the letters of ASCII do not change by their case holds of a character and its lower case. -/
theorem toLower_invariant {β : Type} (f : Char → β)
    (letters : ∀ n : Fin 128, f (Char.ofNat n.val).toLower = f (Char.ofNat n.val)) (c : Char) :
    f c.toLower = f c := by
  by_cases low : c.toNat < 128
  · have here := letters ⟨c.toNat, low⟩
    rwa [Char.ofNat_toNat] at here
  · rw [toLower_of_not_ascii (Nat.le_of_not_lt low)]

theorem Lowering.lower_congr (l : Lowering) {c d : Char} (same : c.toLower = d.toLower) :
    l.lower c = l.lower d := by
  by_cases low : c.toNat < 128
  · by_cases low' : d.toNat < 128
    · rw [l.ascii c low, l.ascii d low', same]
    · have kept := toNat_toLower_lt low
      rw [same, toLower_of_not_ascii (Nat.le_of_not_lt low')] at kept
      exact absurd kept low'
  · by_cases low' : d.toNat < 128
    · have kept := toNat_toLower_lt low'
      rw [← same, toLower_of_not_ascii (Nat.le_of_not_lt low)] at kept
      exact absurd kept low
    · rw [toLower_of_not_ascii (Nat.le_of_not_lt low),
        toLower_of_not_ascii (Nat.le_of_not_lt low')] at same
      rw [same]

/-- **Texts that differ in case only are the same in lower case.** -/
theorem Lowering.toLower_congr (l : Lowering) {s t : String} (same : SameButCase s t) :
    l.toLower s = l.toLower t := by
  have both : ∀ {cs ds : List Char}, cs.map Char.toLower = ds.map Char.toLower →
      cs.map l.lower = ds.map l.lower := by
    intro cs
    induction cs with
    | nil =>
      intro ds same
      rw [List.map_eq_nil_iff.mp same.symm]
    | cons c cs ih =>
      intro ds same
      cases ds with
      | nil => cases same
      | cons d ds =>
        rw [List.map_cons, List.map_cons, List.cons.injEq] at same
        rw [List.map_cons, List.map_cons, l.lower_congr same.1, ih same.2]
  rw [Lowering.toLower, Lowering.toLower, both same]

theorem Lowering.toLower_of_ascii (l : Lowering) {s : String}
    (ascii : s.toList.all (fun c => c.toNat < 128) = true) :
    l.toLower s = String.ofList (s.toList.map Char.toLower) := by
  rw [Lowering.toLower]
  refine congrArg _ (List.map_congr_left fun c member => l.ascii c ?_)
  exact of_decide_eq_true (List.all_eq_true.mp ascii c member)

/-- A text of ASCII without capitals. -/
def isLowerASCII (s : String) : Bool := s.toList.all fun c => c.toNat < 128 && c.toLower == c

theorem Lowering.toLower_of_isLowerASCII (l : Lowering) {s : String} (low : isLowerASCII s = true) :
    l.toLower s = s := by
  have each : ∀ c ∈ s.toList, c.toNat < 128 ∧ c.toLower = c := by
    simpa [isLowerASCII] using low
  have kept : s.toList.map l.lower = s.toList := by
    rw [List.map_congr_left fun c member => (l.ascii c (each c member).1).trans (each c member).2]
    exact List.map_id' _
  rw [Lowering.toLower, kept, String.ofList_toList]

/-! ### Fields -/

/-- A word that has begun, unless it is empty. -/
def closing (cur : List Char) : List (List Char) := if cur = [] then [] else [cur]

/-- The words of a text that goes on after this beginning of a word. -/
def wordsFrom (cur : List Char) : List Char → List (List Char)
  | [] => closing cur
  | c :: text => if isSpace c then closing cur ++ wordsFrom [] text else wordsFrom (cur ++ [c]) text

/-- `strings.Fields`. -/
def fields (s : String) : List String := (wordsFrom [] s.toList).map String.ofList

theorem closing_of_ne_nil {cur : List Char} (begun : cur ≠ []) : closing cur = [cur] := if_neg begun

theorem wordsFrom_append_space {c : Char} (space : isSpace c = true) (cur text more : List Char) :
    wordsFrom cur (text ++ c :: more) = wordsFrom cur text ++ wordsFrom [] more := by
  induction text generalizing cur with
  | nil => exact if_pos space
  | cons first text ih =>
    rw [List.cons_append, wordsFrom, wordsFrom]
    split
    · rw [ih, List.append_assoc]
    · exact ih _

/-- Characters that are no white space are added to the word that has begun. -/
theorem wordsFrom_word {word : List Char} (solid : ∀ c ∈ word, isSpace c = false)
    (cur text : List Char) : wordsFrom cur (word ++ text) = wordsFrom (cur ++ word) text := by
  induction word generalizing cur with
  | nil => rw [List.nil_append, List.append_nil]
  | cons c word ih =>
    have ordinary : ¬ isSpace c = true := Bool.eq_false_iff.mp (solid c List.mem_cons_self)
    rw [List.cons_append, wordsFrom, if_neg ordinary,
      ih (fun c member => solid c (List.mem_cons_of_mem _ member)), List.append_assoc,
      List.singleton_append]

/-- A text with a blank at its end ends the last of its words. -/
theorem wordsFrom_ended {text : List Char} (back : text.getLast? = some ' ') (cur more : List Char) :
    wordsFrom cur (text ++ more) = wordsFrom cur text ++ wordsFrom [] more := by
  obtain ⟨start, rfl⟩ := List.getLast?_eq_some_iff.mp back
  have last : wordsFrom cur (start ++ [' ']) = wordsFrom cur start := by
    rw [wordsFrom_append_space (by decide), wordsFrom, closing, if_pos rfl, List.append_nil]
  rw [List.append_assoc, List.singleton_append, wordsFrom_append_space (by decide), last]

/-- A text with a blank at its beginning ends the word before it. -/
theorem wordsFrom_begun {text : List Char} (front : text.head? = some ' ') (cur : List Char) :
    wordsFrom cur text = closing cur ++ wordsFrom [] text := by
  obtain ⟨rest, rfl⟩ := List.head?_eq_some_iff.mp front
  have blank : isSpace ' ' = true := by decide
  rw [wordsFrom, if_pos blank, wordsFrom, if_pos blank]
  rfl

theorem ne_nil_of_mem_closing {cur word : List Char} (member : word ∈ closing cur) : word ≠ [] := by
  unfold closing at member
  split at member
  · cases member
  · rw [List.mem_singleton.mp member]
    assumption

theorem ne_nil_of_mem_wordsFrom {cur text word : List Char} (member : word ∈ wordsFrom cur text) :
    word ≠ [] := by
  induction text generalizing cur with
  | nil => exact ne_nil_of_mem_closing member
  | cons c text ih =>
    unfold wordsFrom at member
    split at member
    · rcases List.mem_append.mp member with closed | later
      · exact ne_nil_of_mem_closing closed
      · exact ih later
    · exact ih member

/-- What holds of the characters of the parts and of the separator holds of those of the joined text. -/
theorem forall_of_any {p : Char → Bool} {text : List Char} (none_ : text.any p = false) :
    ∀ c ∈ text, p c = false :=
  fun c member => Bool.eq_false_iff.mpr (List.any_eq_false.mp none_ c member)

theorem forall_mem_intercalate {P : Char → Prop} {sep : List Char} {parts : List (List Char)}
    (separator : ∀ c ∈ sep, P c) (each : ∀ part ∈ parts, ∀ c ∈ part, P c) :
    ∀ c ∈ sep.intercalate parts, P c := by
  induction parts with
  | nil => exact nofun
  | cons part parts ih =>
    have others := ih fun part member => each part (List.mem_cons_of_mem _ member)
    cases parts with
    | nil =>
      rw [List.intercalate_singleton]
      exact each part List.mem_cons_self
    | cons next parts =>
      intro c member
      rw [List.intercalate_cons_cons, List.append_assoc, List.mem_append, List.mem_append] at member
      rcases member with first | between | later
      · exact each part List.mem_cons_self c first
      · exact separator c between
      · exact others c later

example : fields " -v\t/tmp:/tmp " = ["-v", "/tmp:/tmp"] := by decide

example : trimSpace "\n running\t\n" = "running" := by decide

example : base "/dev/disk/by-id/wwn-1" = "wwn-1" := by decide

end GoStrings
