/-
**Slash-separated paths in their clean form.**

A path is what `path.Clean` leaves of its text: whether it is rooted, and its components. `Path.join`
is `path.Join` with a first element that is already clean. Components that are plain names are
appended (`join_names`), so that paths that end in different names differ.
-/

import AssistedAgent.Lib.GoStrings
import Mathlib.Data.List.Basic
import Mathlib.Data.String.Basic

namespace GoPath

structure Path where
  rooted : Bool
  parts : List String
deriving DecidableEq, Repr

namespace Path

/-- One more component, read from left to right as `path.Clean` does. -/
def push (p : Path) (component : String) : Path :=
  if component = "" ∨ component = "." then p
  else if component = ".." then
    match p.parts.getLast? with
    | none => if p.rooted then p else { p with parts := [".."] }
    | some last =>
      if last = ".." then { p with parts := p.parts ++ [".."] }
      else { p with parts := p.parts.dropLast }
  else { p with parts := p.parts ++ [component] }

/-- The components of a text. -/
def components (text : String) : List String := GoStrings.split text '/'

/-- `path.Clean`. -/
def clean (text : String) : Path :=
  (components text).foldl push ⟨text.toList.head? = some '/', []⟩

/-- `path.Join(p, elements...)`. -/
def join (p : Path) (elements : List String) : Path := (elements.flatMap components).foldl push p

/-- `filepath.Dir`. -/
def dir (p : Path) : Path := { p with parts := p.parts.dropLast }

/-- The text of a clean path. -/
def text (p : Path) : String :=
  if p.rooted then "/" ++ "/".intercalate p.parts
  else if p.parts = [] then "."
  else "/".intercalate p.parts

/-- A component that stands for itself. -/
def IsName (component : String) : Prop := component ≠ "" ∧ component ≠ "." ∧ component ≠ ".."

instance (component : String) : Decidable (IsName component) :=
  inferInstanceAs (Decidable (_ ∧ _))

theorem push_name (p : Path) {component : String} (name : IsName component) :
    p.push component = { p with parts := p.parts ++ [component] } := by
  unfold push
  rw [if_neg (by rintro (empty | dot); exacts [name.1 empty, name.2.1 dot]), if_neg name.2.2]

theorem push_empty (p : Path) : p.push "" = p := by
  unfold push
  rw [if_pos (Or.inl rfl)]

/-- **Names are appended**, slashes at their ends left out. -/
theorem join_names (p : Path) (elements names : List String)
    (split : (elements.flatMap components).filter (· ≠ "") = names) (plain : ∀ n ∈ names, IsName n) :
    p.join elements = { p with parts := p.parts ++ names } := by
  unfold join
  generalize elements.flatMap components = all at split
  induction all generalizing p names with
  | nil =>
    subst split
    simp
  | cons component all ih =>
    rw [List.foldl_cons]
    by_cases empty : component = ""
    · subst empty
      rw [push_empty]
      exact ih p _ plain (by simpa using split)
    · rw [List.filter_cons_of_pos (by simpa using empty)] at split
      subst split
      rw [push_name p (plain component List.mem_cons_self),
        ih _ _ (fun n member => plain n (List.mem_cons_of_mem _ member)) rfl]
      simp

/-- A file name: a single component that stands for itself. -/
structure IsComponent (name : String) : Prop where
  plain : IsName name
  single : '/' ∉ name.toList

instance (name : String) : Decidable (IsComponent name) :=
  decidable_of_iff (IsName name ∧ '/' ∉ name.toList)
    ⟨fun both => ⟨both.1, both.2⟩, fun component => ⟨component.plain, component.single⟩⟩

theorem components_of_single {name : String} (single : '/' ∉ name.toList) :
    components name = [name] := by
  unfold components GoStrings.split
  rw [List.splitOn_eq_singleton single, List.map_singleton, String.ofList_toList]

/-- **A file name is appended.** -/
theorem join_component (p : Path) {name : String} (component : IsComponent name) :
    p.join [name] = { p with parts := p.parts ++ [name] } := by
  unfold join
  rw [List.flatMap_singleton, components_of_single component.single, List.foldl_cons,
    push_name p component.plain, List.foldl_nil]

/-- **The components of a rooted path can be read off its text.** -/
theorem components_text {parts : List String} (filled : parts ≠ [])
    (single : ∀ part ∈ parts, '/' ∉ part.toList) :
    components (Path.text ⟨true, parts⟩) = "" :: parts := by
  have text_eq : (Path.text ⟨true, parts⟩).toList =
      ['/'].intercalate ([] :: parts.map String.toList) := by
    obtain ⟨part, rest, rfl⟩ := List.exists_cons_of_ne_nil filled
    simp [text, String.toList_intercalate, List.intercalate]
  unfold components
  rw [GoStrings.split, text_eq, List.splitOn_intercalate]
  · simp [Function.comp_def]
  · intro part member
    rcases List.mem_cons.mp member with rfl | member
    · exact List.not_mem_nil
    · obtain ⟨name, listed, rfl⟩ := List.mem_map.mp member
      exact single name listed
  · exact List.cons_ne_nil _ _

end Path

end GoPath
