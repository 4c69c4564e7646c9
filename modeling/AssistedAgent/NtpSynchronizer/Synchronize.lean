/-
**Synchronizing the NTP sources of a host.**

The step adds the requested servers to those of chronyd, unless chronyd has them already under their
name or one of their addresses, and answers with the sources that chronyd lists.

* `format_print` — what `chronyc -n sources` prints of a table is read back.
* `Chronyd` — chronyd and the resolver, and what is assumed of them.
* `handleNewNtpSources_synchronized` — the servers one by one.
* **`run_synchronized`** — every server that resolves and is not refused is a source afterwards, nothing
  else is added, no source twice, and the same request later adds nothing.
-/

import Mathlib.Data.List.Perm.Subperm
import AssistedAgent.Commands.ToolOutputs
import AssistedAgent.Lib.World

namespace AssistedAgent.NtpSynchronizer

open GoStrings Commands Interaction

/-! ### The step -/

/-- The calls of the step. -/
inductive Call
  | executePrivileged (command : String) (args : List String)
  | lookupHost (host : String)
  | lookupAddr (addr : String)
deriving DecidableEq, Repr

/-- A command answers with its output, standard error and code, a lookup with names or an error. -/
def Answer : Call → Type
  | .executePrivileged _ _ => String × String × Int
  | .lookupHost _ | .lookupAddr _ => Except String (List String)

/-- The program of one call. -/
abbrev ask (call : Call) : Prog Answer (Answer call) := request call

def chronyTimeoutSeconds : Nat := 30

def timeoutExitCode : Int := 124

/-- The text of a command that failed. -/
def exitError (exitCode : Int) (stdout stderr : String) : String :=
  "chronyc exited with non-zero exit code " ++ toString exitCode ++ ": " ++ stdout ++ "\n" ++ stderr

/-- The command that lists the sources, cut off after thirty seconds. -/
def listSources : Call :=
  .executePrivileged "timeout" [toString chronyTimeoutSeconds, "chronyc", "-n", "sources"]

/-- The command that adds a source. -/
def addSource (ntpSource : String) : Call :=
  .executePrivileged "chronyc" ["add", "server", ntpSource, "iburst"]

def addServer (ntpSource : String) : Prog Answer (Option String) := do
  let (stdout, stderr, exitCode) ← ask (addSource ntpSource)
  if exitCode = 0 then pure none else pure (some (exitError exitCode stdout stderr))

/-- `none` is a panic of `formatChronySourcesOutput`. -/
def getNTPSources : Prog Answer (Option (Except String (List NtpSource))) := do
  let (stdout, stderr, exitCode) ← ask listSources
  if exitCode = 0 then pure ((formatChronySourcesOutput stdout).map .ok)
  else if exitCode = timeoutExitCode then
    pure (some (.error ("chronyc was timed out after " ++ toString chronyTimeoutSeconds ++ " seconds")))
  else pure (some (.error (exitError exitCode stdout stderr)))

/-- Whether chronyd has the server already, by one of its names; `none` is a panic in the table. -/
def isServerConfigured (server : String) : Prog Answer (Option (Except String Bool)) := do
  match ← getNTPSources with
  | none => pure none
  | some (.error err) => pure (some (.error ("Failed to get NTP sources: " ++ err)))
  | some (.ok sources) =>
    if sources.any (fun source => server = source.sourceName) then pure (some (.ok true))
    else
      match ← ask (.lookupHost server) with
      | .error err => pure (some (.error ("Failed to lookup server " ++ server ++ ": " ++ err)))
      | .ok names => pure (some (.ok (sources.any fun source => names.contains source.sourceName)))

/-- What `isServerConfigured` answers; on an error it is false. -/
def configuredIn : Except String Bool → Bool
  | .ok configured => configured
  | .error _ => false

/-- One turn of the loop of `handleNewNtpSources`. -/
def handleNewNtpSource (ntpSource : String) : Prog Answer (Option Unit) := do
  match ← isServerConfigured ntpSource with
  | none => pure none
  | some configured =>
    if configuredIn configured then pure (some ())
    else
      let _ ← addServer ntpSource
      pure (some ())

/-- An error ends neither the loop nor the step; a panic does. -/
def handleNewNtpSources : List String → Prog Answer (Option Unit)
  | [] => pure (some ())
  | ntpSource :: ntpSources => do
    match ← handleNewNtpSource ntpSource with
    | none => pure none
    | some _ => handleNewNtpSources ntpSources

/-- `strings.Trim(name, ".")`. -/
def trimDots (name : String) : String :=
  String.ofList ((name.toList.dropWhile (· == '.')).reverse.dropWhile (· == '.')).reverse

/-- The names of the sources, where the addresses have names. -/
def reverseLookups : List NtpSource → Prog Answer (List NtpSource)
  | [] => pure []
  | source :: sources => do
    let found ← ask (.lookupAddr source.sourceName)
    let named ← reverseLookups sources
    match found with
    | .ok (name :: _) => pure ({ source with sourceName := trimDots name } :: named)
    | _ => pure (source :: named)

/-- The servers of a request. -/
def requested (ntpSource : Option String) : List String :=
  if ntpSource.getD "" = "" then [] else split (ntpSource.getD "") ','

/-- `Run`, from the request as it was unmarshalled to the response before it is marshalled. -/
def run (request : Except String (Option String)) :
    Prog Answer (Option (Except String (List NtpSource))) :=
  match request with
  | .error err => pure (some (.error err))
  | .ok ntpSource => do
    match ← handleNewNtpSources (requested ntpSource) with
    | none => pure none
    | some _ =>
      match ← getNTPSources with
      | none => pure none
      | some (.error err) => pure (some (.error err))
      | some (.ok sources) =>
        let named ← reverseLookups sources
        pure (some (.ok named))

/-! ### What chronyc prints -/

/-- A line of the output: a server, or something else. -/
inductive Line
  | server (state : Char) (name rest : String)
  | other (text : String)
deriving DecidableEq, Repr

namespace Line

/-- The line as it is printed. -/
def text : Line → String
  | .server state name rest => String.ofList ('^' :: state :: ' ' :: (name.toList ++ rest.toList))
  | .other text => text

/-- The source that a line stands for. -/
def source : Line → Option NtpSource
  | .server state name _ => some ⟨name, convertSourceState state⟩
  | .other _ => none

/-- What a line of a server must be like to be read back. -/
structure ValidServer (state : Char) (name rest : String) : Prop where
  state : isSpace state = false
  filled : name ≠ ""
  solid : ∀ c ∈ name.toList, isSpace c = false
  apart : rest = "" ∨ rest.toList.head? = some ' '
  single : '\n' ∉ rest.toList

/-- The state of a server is one character, its name has no blanks; other lines do not look like
servers. -/
def Valid : Line → Prop
  | .server state name rest => ValidServer state name rest
  | .other text => '\n' ∉ text.toList ∧ ∀ word ∈ (fields text).head?, word.toList.head? ≠ some '^'

instance (state : Char) (name rest : String) : Decidable (ValidServer state name rest) :=
  -- not by trying all characters
  haveI : Decidable (∀ c ∈ name.toList, isSpace c = false) := List.decidableBAll _ _
  decidable_of_iff (isSpace state = false ∧ name ≠ "" ∧ (∀ c ∈ name.toList, isSpace c = false) ∧
      (rest = "" ∨ rest.toList.head? = some ' ') ∧ '\n' ∉ rest.toList)
    ⟨fun ⟨state, filled, solid, apart, single⟩ => ⟨state, filled, solid, apart, single⟩,
      fun valid => ⟨valid.state, valid.filled, valid.solid, valid.apart, valid.single⟩⟩

instance : DecidablePred Valid
  | .server state name rest => inferInstanceAs (Decidable (ValidServer state name rest))
  | .other text => inferInstanceAs (Decidable ('\n' ∉ text.toList ∧
      ∀ word ∈ (fields text).head?, word.toList.head? ≠ some '^'))

theorem wordsFrom_rest {rest : String} (apart : rest = "" ∨ rest.toList.head? = some ' ')
    (cur : List Char) : ∃ more, wordsFrom cur rest.toList = closing cur ++ more := by
  rcases apart with rfl | front
  · exact ⟨[], (List.append_nil _).symm⟩
  · exact ⟨_, wordsFrom_begun front cur⟩

/-- The first two words of the line of a server. -/
theorem fields_server {state : Char} {name rest : String} (valid : ValidServer state name rest) :
    ∃ more, fields (text (.server state name rest)) = String.ofList ['^', state] :: name :: more := by
  obtain ⟨more, words⟩ := wordsFrom_rest valid.apart name.toList
  have filled : name.toList ≠ [] := by simpa using valid.filled
  have ordinary : ¬ isSpace state = true := Bool.eq_false_iff.mp valid.state
  have first (tail : List Char) : wordsFrom [] ('^' :: state :: ' ' :: tail) =
      ['^', state] :: wordsFrom [] tail := by
    rw [wordsFrom, if_neg (by decide), wordsFrom, if_neg ordinary, wordsFrom, if_pos (by decide)]
    rfl
  refine ⟨more.map String.ofList, ?_⟩
  rw [fields, text, String.toList_ofList, first, wordsFrom_word valid.solid, List.nil_append, words,
    closing_of_ne_nil filled]
  simp only [List.map_cons, List.singleton_append, String.ofList_toList]

/-- **A line is read back as it was printed.** -/
theorem formatLine_text {line : Line} (valid : line.Valid) :
    formatLine line.text = some line.source := by
  unfold formatLine
  cases line with
  | server state name rest =>
    obtain ⟨more, words⟩ := fields_server valid
    have filled : text (.server state name rest) ≠ "" := by
      intro empty
      have chars := congrArg String.toList empty
      simp [text] at chars
    rw [if_neg filled, words]
    simp only [String.toList_ofList, ne_eq, not_true_eq_false, if_false, source]
  | other text =>
    show (if text = "" then _ else _) = some none
    split
    · rfl
    split
    · rfl
    · next first rest words =>
      have plain := valid.2 first (by
        change first ∈ (fields (Line.text (.other text))).head?
        rw [words]
        rfl)
      split
      · next empty =>
        have member : first ∈ fields text := words ▸ List.mem_cons_self
        obtain ⟨word, listed, rfl⟩ := List.mem_map.mp member
        rw [String.toList_ofList] at empty
        exact absurd empty (ne_nil_of_mem_wordsFrom listed)
      · next mode states chars =>
        have other : mode ≠ '^' := by
          rintro rfl
          exact plain (by rw [chars]; rfl)
        exact if_pos other

/-- No line breaks in two. -/
theorem single_of_valid {line : Line} (valid : line.Valid) : '\n' ∉ line.text.toList := by
  cases line with
  | other text => exact valid.1
  | server state name rest =>
    have space : isSpace '\n' = true := by decide
    rw [text, String.toList_ofList]
    intro member
    simp only [List.mem_cons, List.mem_append] at member
    rcases member with caret | state_eq | blank | inName | inRest
    · cases caret
    · rw [state_eq, valid.state] at space
      cases space
    · cases blank
    · rw [valid.solid _ inName] at space
      cases space
    · exact valid.single inRest

end Line

/-- What `chronyc -n sources` shows. -/
structure Table where
  lines : List Line
  valid : ∀ line ∈ lines, line.Valid

namespace Table

/-- The sources of a table, in its order. -/
def sources (table : Table) : List NtpSource := table.lines.filterMap Line.source

/-- Their names. -/
def names (table : Table) : List String := table.sources.map NtpSource.sourceName

/-- The output of `chronyc`. -/
def print (table : Table) : String := "\n".intercalate (table.lines.map Line.text)

end Table

/-- A table is read back line by line. -/
theorem formatLines_text {lines : List Line} (valid : ∀ line ∈ lines, line.Valid) :
    formatLines (lines.map Line.text) = some (lines.filterMap Line.source) := by
  induction lines with
  | nil => rfl
  | cons line lines ih =>
    rw [List.map_cons, formatLines, Line.formatLine_text (valid line List.mem_cons_self),
      ih fun other member => valid other (List.mem_cons_of_mem _ member)]
    cases line <;> rfl

/-- **What is printed is read back.** -/
theorem format_print (table : Table) : formatChronySourcesOutput table.print = some table.sources := by
  rcases table with ⟨lines, valid⟩
  unfold formatChronySourcesOutput Table.print Table.sources split
  by_cases empty : lines = []
  · subst empty
    rfl
  · have cut : ("\n".intercalate (lines.map Line.text)).toList.splitOn '\n' =
        (lines.map Line.text).map String.toList := by
      rw [String.toList_intercalate]
      refine List.splitOn_intercalate '\n' ?_ ?_
      · intro text member
        obtain ⟨shown, listed, rfl⟩ := List.mem_map.mp member
        obtain ⟨line, present, rfl⟩ := List.mem_map.mp listed
        exact Line.single_of_valid (valid line present)
      · simpa using empty
    rw [cut, List.map_map]
    simp only [Function.comp_def, String.ofList_toList, List.map_id']
    exact formatLines_text valid

/-! ### chronyd and the resolver -/

/-- Chronyd, of which only the names of its servers count, and the resolver. These are the assumptions:
nobody else changes the servers meanwhile; a listing comes back and is a table of exactly these names, in
whatever order, with whatever states, columns and other lines; a server that is added joins them under one
of its addresses; an add that fails, for whatever reason, changes nothing; and `resolve` is what the
resolver says throughout, to the agent as to chronyd. -/
inductive Chronyd (resolve : String → Option (List String)) :
    List String → Event Answer → List String → Prop
  | listed {known : List String} (table : Table) (same : table.names.Perm known) (stderr : String) :
      Chronyd resolve known ⟨listSources, (table.print, stderr, (0 : Int))⟩ known
  | added {known joined : List String} {server address : String}
      (resolved : address ∈ (resolve server).getD []) (one : joined.Perm (address :: known))
      (stdout stderr : String) :
      Chronyd resolve known ⟨addSource server, (stdout, stderr, (0 : Int))⟩ joined
  -- chronyd may take a name to resolve it later
  | waiting {known : List String} {server : String} (unknown : (resolve server).getD [] = [])
      (stdout stderr : String) :
      Chronyd resolve known ⟨addSource server, (stdout, stderr, (0 : Int))⟩ known
  | refused {known : List String} (server stdout stderr : String) {exitCode : Int}
      (failed : exitCode ≠ 0) :
      Chronyd resolve known ⟨addSource server, (stdout, stderr, exitCode)⟩ known
  | found {known : List String} {host : String} {addresses : List String}
      (resolved : resolve host = some addresses) :
      Chronyd resolve known ⟨.lookupHost host, (.ok addresses : Except String (List String))⟩ known
  | missing {known : List String} {host : String} (err : String) (unknown : resolve host = none) :
      Chronyd resolve known ⟨.lookupHost host, (.error err : Except String (List String))⟩ known
  | reversed {known : List String} (addr : String) (names : Except String (List String)) :
      Chronyd resolve known ⟨.lookupAddr addr, names⟩ known

section Synchronized

variable {resolve : String → Option (List String)} {known last : List String}
  {events : List (Event Answer)}

/-- A server that is among these sources, by its name or by one of its addresses. -/
def Configured (resolve : String → Option (List String)) (names : List String) (server : String) :
    Prop :=
  server ∈ names ∨ ∃ address ∈ (resolve server).getD [], address ∈ names

theorem Configured.mono {names more : List String} {server : String} (sub : names ⊆ more)
    (configured : Configured resolve names server) : Configured resolve more server := by
  rcases configured with named | ⟨address, resolved, listed⟩
  · exact Or.inl (sub named)
  · exact Or.inr ⟨address, resolved, sub listed⟩

/-- The resolver knows an address of the server. -/
def Resolvable (resolve : String → Option (List String)) (server : String) : Prop :=
  (resolve server).getD [] ≠ []

/-- The servers that chronyd was told to add, in order. -/
def adds (events : List (Event Answer)) : List String :=
  events.filterMap fun e => match e.call with
    | .executePrivileged "chronyc" ["add", "server", server, "iburst"] => some server
    | _ => none

theorem adds_append (first second : List (Event Answer)) :
    adds (first ++ second) = adds first ++ adds second := List.filterMap_append

/-- Chronyd was told to add this server and did not. -/
def Refused (events : List (Event Answer)) (server : String) : Prop :=
  ∃ (stdout stderr : String) (exitCode : Int), exitCode ≠ 0 ∧
    ⟨addSource server, (stdout, stderr, exitCode)⟩ ∈ events

theorem Refused.mono {more : List (Event Answer)} {server : String} (sub : events ⊆ more)
    (refused : Refused events server) : Refused more server := by
  obtain ⟨stdout, stderr, exitCode, failed, told⟩ := refused
  exact ⟨stdout, stderr, exitCode, failed, sub told⟩

/-- A listing changes nothing, and shows what chronyd knows. -/
theorem chronyd_listSources {answer : Answer listSources}
    (taken : Chronyd resolve known ⟨listSources, answer⟩ last) :
    last = known ∧ ∃ (table : Table) (stderr : String), table.names.Perm known ∧
      answer = (table.print, stderr, (0 : Int)) := by
  generalize same : (⟨listSources, answer⟩ : Event Answer) = e at taken
  cases taken with
  | listed table names stderr => exact ⟨rfl, table, stderr, names, Event.answer_eq same⟩
  | added | waiting | refused =>
    exact absurd (congrArg Event.call same) (by simp [listSources, addSource])
  | found | missing | reversed => nomatch congrArg Event.call same

theorem addSource_inj {server other : String} : addSource server = addSource other ↔ server = other := by
  simp [addSource]

/-- A server is added under one of its addresses, or not at all. -/
theorem chronyd_addSource {server : String} {answer : Answer (addSource server)}
    (taken : Chronyd resolve known ⟨addSource server, answer⟩ last) :
    (∃ address ∈ (resolve server).getD [], last.Perm (address :: known)) ∨
      last = known ∧ (Resolvable resolve server → Refused [⟨addSource server, answer⟩] server) := by
  generalize same : (⟨addSource server, answer⟩ : Event Answer) = e at taken
  cases taken with
  | listed => exact absurd (congrArg Event.call same) (by simp [listSources, addSource])
  | added resolved one =>
    obtain rfl := addSource_inj.mp (congrArg Event.call same)
    exact Or.inl ⟨_, resolved, one⟩
  | waiting unknown =>
    obtain rfl := addSource_inj.mp (congrArg Event.call same)
    exact Or.inr ⟨rfl, fun resolvable => absurd unknown resolvable⟩
  | refused other stdout stderr failed =>
    obtain rfl := addSource_inj.mp (congrArg Event.call same)
    exact Or.inr ⟨rfl, fun _ => ⟨stdout, stderr, _, failed, List.mem_singleton_self _⟩⟩
  | found | missing | reversed => nomatch congrArg Event.call same

/-- A lookup changes nothing. -/
theorem chronyd_lookupHost {host : String} {answer : Except String (List String)}
    (taken : Chronyd resolve known ⟨.lookupHost host, answer⟩ last) :
    last = known ∧ answer.toOption = resolve host := by
  generalize same : (⟨.lookupHost host, answer⟩ : Event Answer) = e at taken
  cases taken with
  | listed | added | waiting | refused | reversed => nomatch congrArg Event.call same
  | found resolved =>
    obtain rfl := Call.lookupHost.inj (congrArg Event.call same)
    rw [show answer = _ from Event.answer_eq same, resolved]
    exact ⟨rfl, rfl⟩
  | missing err unknown =>
    obtain rfl := Call.lookupHost.inj (congrArg Event.call same)
    rw [show answer = _ from Event.answer_eq same, unknown]
    exact ⟨rfl, rfl⟩

/-- A listing that came back is a table of the servers, and it is read. -/
theorem runsIn_getNTPSources {result : Option (Except String (List NtpSource))}
    (run : RunsIn (Chronyd resolve) getNTPSources known events result last) :
    last = known ∧ adds events = [] ∧ ∃ (table : Table) (stderr : String),
      table.names.Perm known ∧ events = [⟨listSources, (table.print, stderr, (0 : Int))⟩] ∧
        result = some (.ok table.sources) := by
  obtain ⟨answer, middle, rest, rfl, taken, after⟩ := runsIn_request_bind.mp run
  obtain ⟨rfl, table, stderr, same, rfl⟩ := chronyd_listSources taken
  obtain ⟨rfl, rfl, rfl⟩ := runsIn_pure.mp after
  rw [format_print]
  exact ⟨rfl, rfl, table, stderr, same, rfl, rfl⟩

theorem any_sourceName_iff {table : Table} (same : table.names.Perm known) (p : String → Bool) :
    (table.sources.any fun source => p source.sourceName) = true ↔ ∃ name ∈ known, p name = true := by
  simp [← same.mem_iff, Table.names]

/-- The check finds a server exactly if chronyd has it under one of its names. -/
theorem runsIn_isServerConfigured {server : String} {result : Option (Except String Bool)}
    (run : RunsIn (Chronyd resolve) (isServerConfigured server) known events result last) :
    (∃ configured, result = some configured ∧
      (configuredIn configured = true ↔ Configured resolve known server)) ∧
      last = known ∧ adds events = [] := by
  obtain ⟨listed, middle, first, second, rfl, listing, after⟩ := runsIn_bind.mp run
  obtain ⟨rfl, silent, table, stderr, same, -, rfl⟩ := runsIn_getNTPSources listing
  rw [adds_append, silent, List.nil_append]
  have named := any_sourceName_iff same fun name => decide (server = name)
  dsimp only at after
  by_cases present : server ∈ middle
  · rw [if_pos (named.mpr ⟨server, present, decide_eq_true rfl⟩)] at after
    obtain ⟨rfl, rfl, rfl⟩ := runsIn_pure.mp after
    exact ⟨⟨.ok true, rfl, iff_of_true rfl (Or.inl present)⟩, rfl, rfl⟩
  · have absent : ¬ (table.sources.any fun source => decide (server = source.sourceName)) = true := by
      rw [named]
      rintro ⟨name, listed, same⟩
      exact present (of_decide_eq_true same ▸ listed)
    rw [if_neg absent] at after
    obtain ⟨answer, middle', rest, rfl, taken, done⟩ := runsIn_request_bind.mp after
    obtain ⟨rfl, resolved⟩ := chronyd_lookupHost taken
    cases answer with
    | error err =>
      obtain ⟨rfl, rfl, rfl⟩ := runsIn_pure.mp done
      refine ⟨⟨_, rfl, iff_of_false Bool.false_ne_true ?_⟩, rfl, rfl⟩
      rintro (here | ⟨address, found, -⟩)
      · exact present here
      · rw [← resolved] at found
        cases found
    | ok addresses =>
      obtain ⟨rfl, rfl, rfl⟩ := runsIn_pure.mp done
      refine ⟨⟨_, rfl, ?_⟩, rfl, rfl⟩
      rw [configuredIn, any_sourceName_iff same, Configured, ← resolved]
      simp only [List.contains_iff_mem, Except.toOption, Option.getD_some, present, false_or]
      exact ⟨fun ⟨name, listed, found⟩ => ⟨name, found, listed⟩,
        fun ⟨name, found, listed⟩ => ⟨name, listed, found⟩⟩

/-- What the step has done to the servers of chronyd. -/
structure Synchronized (resolve : String → Option (List String)) (servers known : List String)
    (events : List (Event Answer)) (last : List String) : Prop where
  kept : known.Subperm last
  configured : ∀ server ∈ servers, Resolvable resolve server →
    Configured resolve last server ∨ Refused events server
  added : ∀ name ∈ last, name ∈ known ∨
    ∃ server ∈ servers, name ∈ (resolve server).getD [] ∧ ¬ Configured resolve known server
  distinct : known.Nodup → last.Nodup
  needed : ∀ server ∈ adds events, server ∈ servers ∧ ¬ Configured resolve known server

/-- Nothing was added, and nothing had to be. -/
theorem Synchronized.refl (servers known : List String)
    (all : ∀ server ∈ servers, Resolvable resolve server → Configured resolve known server)
    (silent : adds events = []) : Synchronized resolve servers known events known where
  kept := List.Subperm.refl known
  configured := fun server asked resolvable => Or.inl (all server asked resolvable)
  added := fun _ listed => Or.inl listed
  distinct := id
  needed := by
    intro server told
    rw [silent] at told
    cases told

/-- **One server after the other.** -/
theorem Synchronized.trans {server : String} {servers middle : List String}
    {first second : List (Event Answer)} (one : Synchronized resolve [server] known first middle)
    (others : Synchronized resolve servers middle second last) :
    Synchronized resolve (server :: servers) known (first ++ second) last where
  kept := one.kept.trans others.kept
  configured := by
    intro other member resolvable
    rcases List.mem_cons.mp member with rfl | member
    · exact (one.configured other List.mem_cons_self resolvable).imp
        (.mono others.kept.subset) (.mono (List.subset_append_left first second))
    · exact (others.configured other member resolvable).imp id
        (.mono (List.subset_append_right first second))
  added := by
    intro name listed
    rcases others.added name listed with early | ⟨other, member, address, fresh⟩
    · rcases one.added name early with old | ⟨other, member, address, fresh⟩
      · exact Or.inl old
      · obtain rfl := List.mem_singleton.mp member
        exact Or.inr ⟨other, List.mem_cons_self, address, fresh⟩
    · exact Or.inr ⟨other, List.mem_cons_of_mem _ member, address,
        fun configured => fresh (configured.mono one.kept.subset)⟩
  distinct := others.distinct ∘ one.distinct
  needed := by
    intro other member
    rw [adds_append, List.mem_append] at member
    rcases member with member | member
    · obtain ⟨same, fresh⟩ := one.needed other member
      obtain rfl := List.mem_singleton.mp same
      exact ⟨List.mem_cons_self, fresh⟩
    · obtain ⟨requested, fresh⟩ := others.needed other member
      exact ⟨List.mem_cons_of_mem _ requested,
        fun configured => fresh (configured.mono one.kept.subset)⟩

/-- Chronyd was told to add a server that it did not have. -/
theorem Synchronized.of_added {server : String} (fresh : ¬ Configured resolve known server)
    (told : adds events = [server])
    (taken : (∃ address ∈ (resolve server).getD [], last.Perm (address :: known)) ∨
      last = known ∧ (Resolvable resolve server → Refused events server)) :
    Synchronized resolve [server] known events last := by
  have needed : ∀ other ∈ adds events, other ∈ [server] ∧ ¬ Configured resolve known other := by
    intro other member
    rw [told] at member
    obtain rfl := List.mem_singleton.mp member
    exact ⟨member, fresh⟩
  rcases taken with ⟨address, resolved, joined⟩ | ⟨rfl, refused⟩
  · have absent : address ∉ known := fun listed => fresh (Or.inr ⟨address, resolved, listed⟩)
    refine ⟨?_, ?_, ?_, ?_, needed⟩
    · exact ((List.sublist_cons_self address known).subperm).trans joined.symm.subperm
    · intro other member _
      obtain rfl := List.mem_singleton.mp member
      exact Or.inl (Or.inr ⟨address, resolved, joined.mem_iff.mpr List.mem_cons_self⟩)
    · intro other listed
      rcases List.mem_cons.mp (joined.mem_iff.mp listed) with rfl | old
      · exact Or.inr ⟨server, List.mem_cons_self, resolved, fresh⟩
      · exact Or.inl old
    · intro distinct
      exact joined.nodup_iff.mpr (List.nodup_cons.mpr ⟨absent, distinct⟩)
  · refine ⟨List.Subperm.refl _, ?_, fun _ listed => Or.inl listed, id, needed⟩
    intro other member resolvable
    obtain rfl := List.mem_singleton.mp member
    exact Or.inr (refused resolvable)

/-- One server. -/
theorem handleNewNtpSource_synchronized {server : String} {result : Option Unit}
    (run : RunsIn (Chronyd resolve) (handleNewNtpSource server) known events result last) :
    result = some () ∧ Synchronized resolve [server] known events last := by
  obtain ⟨checked, middle, first, second, rfl, checking, after⟩ := runsIn_bind.mp run
  obtain ⟨⟨configured, rfl, answer_iff⟩, rfl, silent⟩ := runsIn_isServerConfigured checking
  dsimp only at after
  by_cases present : configuredIn configured = true
  · rw [if_pos present] at after
    obtain ⟨rfl, rfl, rfl⟩ := runsIn_pure.mp after
    refine ⟨rfl, .refl [server] last ?_ (by rw [List.append_nil, silent])⟩
    intro other member _
    obtain rfl := List.mem_singleton.mp member
    exact answer_iff.mp present
  · rw [if_neg present] at after
    obtain ⟨err, middle', third, fourth, rfl, adding, done⟩ := runsIn_bind.mp after
    obtain ⟨rfl, rfl, rfl⟩ := runsIn_pure.mp done
    obtain ⟨answer, added, rest, rfl, taken, returned⟩ := runsIn_request_bind.mp adding
    have quiet : rest = [] ∧ last = added := by
      rcases answer with ⟨stdout, stderr, exitCode⟩
      dsimp only at returned
      split at returned
      · obtain ⟨rfl, -, rfl⟩ := runsIn_pure.mp returned
        exact ⟨rfl, rfl⟩
      · obtain ⟨rfl, -, rfl⟩ := runsIn_pure.mp returned
        exact ⟨rfl, rfl⟩
    obtain ⟨rfl, rfl⟩ := quiet
    have told : adds (first ++ ([⟨addSource server, answer⟩] ++ [])) = [server] := by
      rw [adds_append, silent]
      rfl
    refine ⟨rfl, .of_added (fun known => present (answer_iff.mpr known)) told ?_⟩
    exact (chronyd_addSource taken).imp id fun ⟨same, refused⟩ =>
      ⟨same, fun resolvable => (refused resolvable).mono (List.subset_append_right first _)⟩

/-- **The servers one by one.** -/
theorem handleNewNtpSources_synchronized {servers : List String} {result : Option Unit}
    (run : RunsIn (Chronyd resolve) (handleNewNtpSources servers) known events result last) :
    result = some () ∧ Synchronized resolve servers known events last := by
  induction servers generalizing known events with
  | nil =>
    obtain ⟨rfl, rfl, rfl⟩ := runsIn_pure.mp run
    exact ⟨rfl, .refl [] last (List.forall_mem_nil _) rfl⟩
  | cons server servers ih =>
    obtain ⟨handled, middle, first, second, rfl, one, after⟩ := runsIn_bind.mp run
    obtain ⟨rfl, early⟩ := handleNewNtpSource_synchronized one
    obtain ⟨rfl, late⟩ := ih after
    exact ⟨rfl, early.trans late⟩

/-! ### The response -/

/-- How a source is shown: in its state, under its name or the one that was found for its address. -/
def Shown (events : List (Event Answer)) (source shown : NtpSource) : Prop :=
  shown.sourceState = source.sourceState ∧ (shown.sourceName = source.sourceName ∨
    ∃ name names, ⟨.lookupAddr source.sourceName, (.ok (name :: names) : Except String (List String))⟩ ∈
      events ∧ shown.sourceName = trimDots name)

theorem Shown.mono {more : List (Event Answer)} (sub : events ⊆ more) {source shown : NtpSource}
    (shows : Shown events source shown) : Shown more source shown := by
  rcases shows with ⟨state, same | ⟨name, names, found, renamed⟩⟩
  · exact ⟨state, Or.inl same⟩
  · exact ⟨state, Or.inr ⟨name, names, sub found, renamed⟩⟩

theorem chronyd_lookupAddr {addr : String} {answer : Except String (List String)}
    (taken : Chronyd resolve known ⟨.lookupAddr addr, answer⟩ last) : last = known := by
  generalize same : (⟨.lookupAddr addr, answer⟩ : Event Answer) = e at taken
  cases taken with
  | listed | added | waiting | refused | found | missing => nomatch congrArg Event.call same
  | reversed => rfl

/-- The lookups of the names change nothing but what is shown. -/
theorem reverseLookups_shown {sources named : List NtpSource}
    (run : RunsIn (Chronyd resolve) (reverseLookups sources) known events named last) :
    last = known ∧ adds events = [] ∧ List.Forall₂ (Shown events) sources named := by
  induction sources generalizing known last events named with
  | nil =>
    obtain ⟨rfl, rfl, rfl⟩ := runsIn_pure.mp run
    exact ⟨rfl, rfl, .nil⟩
  | cons source sources ih =>
    obtain ⟨found, middle, rest, rfl, taken, after⟩ := runsIn_request_bind.mp run
    obtain rfl := chronyd_lookupAddr taken
    obtain ⟨others, middle', first, second, rfl, looking, done⟩ := runsIn_bind.mp after
    obtain ⟨rfl, silent, shown⟩ := ih looking
    have tail : List.Forall₂ (Shown (⟨.lookupAddr source.sourceName, found⟩ :: (first ++ second)))
        sources others := by
      refine shown.imp fun _ _ => Shown.mono fun e member => ?_
      exact List.mem_cons_of_mem _ (List.mem_append_left _ member)
    have quiet (more : List (Event Answer)) : adds (⟨.lookupAddr source.sourceName, found⟩ :: more) =
        adds more := rfl
    have kept : Shown (⟨.lookupAddr source.sourceName, found⟩ :: (first ++ second)) source source :=
      ⟨rfl, Or.inl rfl⟩
    rw [quiet, adds_append, silent]
    match found, done with
    | .ok (name :: names), done =>
      obtain ⟨rfl, rfl, rfl⟩ := runsIn_pure.mp done
      exact ⟨rfl, rfl, .cons ⟨rfl, Or.inr ⟨name, names, List.mem_cons_self, rfl⟩⟩ tail⟩
    | .ok [], done =>
      obtain ⟨rfl, rfl, rfl⟩ := runsIn_pure.mp done
      exact ⟨rfl, rfl, .cons kept tail⟩
    | .error err, done =>
      obtain ⟨rfl, rfl, rfl⟩ := runsIn_pure.mp done
      exact ⟨rfl, rfl, .cons kept tail⟩

/-- The response is the last listing, a table of the servers that chronyd has in the end. -/
def Responds (last : List String) (events : List (Event Answer))
    (result : Option (Except String (List NtpSource))) : Prop :=
  ∃ (table : Table) (stderr : String) (response : List NtpSource), table.names.Perm last ∧
    ⟨listSources, (table.print, stderr, (0 : Int))⟩ ∈ events ∧ result = some (.ok response) ∧
      List.Forall₂ (Shown events) table.sources response

/-- One step. -/
theorem run_responds {ntpSource : Option String} {result : Option (Except String (List NtpSource))}
    (ran : RunsIn (Chronyd resolve) (run (.ok ntpSource)) known events result last) :
    Synchronized resolve (requested ntpSource) known events last ∧ Responds last events result := by
  obtain ⟨handled, middle, first, _, rfl, handling, run₁⟩ := runsIn_bind.mp ran
  obtain ⟨rfl, synchronized⟩ := handleNewNtpSources_synchronized handling
  obtain ⟨listed, middle', second, _, rfl, listing, run₂⟩ := runsIn_bind.mp run₁
  obtain ⟨rfl, silent, table, stderr, same, rfl, rfl⟩ := runsIn_getNTPSources listing
  obtain ⟨named, middle'', third, _, rfl, looking, run₃⟩ := runsIn_bind.mp run₂
  obtain ⟨rfl, rfl, rfl⟩ := runsIn_pure.mp run₃
  obtain ⟨rfl, quiet, shown⟩ := reverseLookups_shown looking
  refine ⟨{ synchronized with configured := ?_, needed := ?_ }, table, stderr, named, same, ?_, rfl, ?_⟩
  · intro server asked resolvable
    exact (synchronized.configured server asked resolvable).imp id
      (.mono (List.subset_append_left first _))
  · rw [adds_append, adds_append, adds_append, silent, quiet]
    simpa [adds] using synchronized.needed
  · exact List.mem_append_right _ List.mem_cons_self
  · refine shown.imp fun _ _ => Shown.mono fun e member => ?_
    exact List.mem_append_right _ (List.mem_append_right _ (List.mem_append_left _ member))

/-- **A request brings its servers to chronyd, and nothing more when it comes again.** -/
theorem run_synchronized {ntpSource : Option String} {between final : List String}
    {again : List (Event Answer)} {result result' : Option (Except String (List NtpSource))}
    (ran : RunsIn (Chronyd resolve) (run (.ok ntpSource)) known events result last)
    (later : last ⊆ between)
    (repeated : RunsIn (Chronyd resolve) (run (.ok ntpSource)) between again result' final) :
    Synchronized resolve (requested ntpSource) known events last ∧ Responds last events result ∧
      ∀ server ∈ adds again, ¬ Resolvable resolve server ∨ Refused events server := by
  obtain ⟨synchronized, response⟩ := run_responds ran
  refine ⟨synchronized, response, ?_⟩
  intro server told
  obtain ⟨asked, fresh⟩ := (run_responds repeated).1.needed server told
  by_cases resolvable : Resolvable resolve server
  · rcases synchronized.configured server asked resolvable with configured | refused
    · exact absurd (configured.mono later) fresh
    · exact Or.inr refused
  · exact Or.inl resolvable

/-- A run that reads a table. -/
theorem runs_getNTPSources (table : Table) : Runs getNTPSources
    [⟨listSources, (table.print, "", (0 : Int))⟩] (some (.ok table.sources)) := by
  have parsed : Runs (pure ((formatChronySourcesOutput table.print).map .ok) :
      Prog Answer (Option (Except String (List NtpSource)))) [] (some (.ok table.sources)) := by
    rw [format_print]
    exact .ret _
  exact .ask parsed

/-- A listing as chronyc prints it, of these servers. -/
def sampleLines (servers : List Line) : List Line :=
  [.other "MS Name/IP address         Stratum Poll Reach LastRx Last sample",
    .other "==============================================================================="] ++
    servers ++ [.other ""]

def sampleBefore : Table :=
  ⟨sampleLines [.server '*' "10.0.0.9" "      2   6   377    12   +33us[  +41us] +/-   12ms"],
    by decide +kernel⟩

def sampleAfter : Table :=
  ⟨sampleLines [.server '?' "10.0.0.2" "      0   6     0     -     +0ns[   +0ns] +/-    0ns",
    .server '*' "10.0.0.9" "      2   6   377    13   +33us[  +41us] +/-   12ms"], by decide +kernel⟩

def sampleResolve (host : String) : Option (List String) :=
  if host = "ntp.lab" then some ["10.0.0.1", "10.0.0.2"]
  else if host = "10.0.0.9" then some ["10.0.0.9"] else none

/-- A name, of which chronyd takes the second address, and a server that it has. -/
theorem run_synchronized_name : ∃ (events again : List (Event Answer)) (last : List String)
    (result : Option (Except String (List NtpSource))), adds events = ["ntp.lab"] ∧
      last = ["10.0.0.9", "10.0.0.2"] ∧
      result = some (.ok [⟨"ntp.lab", .unreachable⟩, ⟨"10.0.0.9", .synced⟩]) ∧
      (Synchronized sampleResolve (requested (some "ntp.lab,10.0.0.9")) ["10.0.0.9"] events last ∧
        Responds last events result ∧
        ∀ server ∈ adds again, ¬ Resolvable sampleResolve server ∨ Refused events server) := by
  have servers : requested (some "ntp.lab,10.0.0.9") = ["ntp.lab", "10.0.0.9"] := by decide +kernel
  let listed (table : Table) : Event Answer := ⟨listSources, (table.print, "", (0 : Int))⟩
  let resolved : Event Answer :=
    ⟨.lookupHost "ntp.lab", (.ok ["10.0.0.1", "10.0.0.2"] : Except String (List String))⟩
  let added : Event Answer := ⟨addSource "ntp.lab", ("200 OK\n", "", (0 : Int))⟩
  let named : Event Answer :=
    ⟨.lookupAddr "10.0.0.2", (.ok ["ntp.lab."] : Except String (List String))⟩
  let unnamed : Event Answer :=
    ⟨.lookupAddr "10.0.0.9", (.error "no such host" : Except String (List String))⟩
  have before : sampleBefore.names = ["10.0.0.9"] := by decide +kernel
  have after : sampleAfter.sources = [⟨"10.0.0.2", .unreachable⟩, ⟨"10.0.0.9", .synced⟩] := by
    decide +kernel
  have order : sampleAfter.names.Perm ["10.0.0.9", "10.0.0.2"] := by
    rw [Table.names, after]
    exact .swap _ _ _
  have shows : Runs (reverseLookups sampleAfter.sources) [named, unnamed]
      [⟨"ntp.lab", .unreachable⟩, ⟨"10.0.0.9", .synced⟩] := by
    have trimmed : trimDots "ntp.lab." = "ntp.lab" := by decide +kernel
    rw [after, ← trimmed]
    exact .ask (.ask (.ret _))
  have present : Runs (handleNewNtpSource "10.0.0.9") ([listed sampleAfter] ++ []) (some ()) :=
    runs_bind.mpr ⟨_, _, _, rfl, runs_bind.mpr ⟨_, _, [], rfl, runs_getNTPSources sampleAfter, .ret _⟩,
      .ret _⟩
  -- the rest of a step, after what it did for the name
  have rest (early : List (Event Answer))
      (handles : Runs (handleNewNtpSource "ntp.lab") early (some ())) :
      Runs (run (.ok (some "ntp.lab,10.0.0.9")))
        ((early ++ (([listed sampleAfter] ++ []) ++ [])) ++
          ([listed sampleAfter] ++ ([named, unnamed] ++ [])))
        (some (.ok [⟨"ntp.lab", .unreachable⟩, ⟨"10.0.0.9", .synced⟩])) := by
    refine runs_bind.mpr ⟨some (), _, _, rfl, ?_, ?_⟩
    · rw [servers]
      exact runs_bind.mpr ⟨_, _, _, rfl, handles, runs_bind.mpr ⟨_, _, _, rfl, present, .ret _⟩⟩
    · exact runs_bind.mpr ⟨_, _, _, rfl, runs_getNTPSources sampleAfter,
        runs_bind.mpr ⟨_, _, _, rfl, shows, .ret _⟩⟩
  have first := rest (([listed sampleBefore] ++ [resolved]) ++ [added])
    (runs_bind.mpr ⟨_, _, _, rfl,
      runs_bind.mpr ⟨_, _, _, rfl, runs_getNTPSources sampleBefore, .ask (.ret _)⟩, .ask (.ret _)⟩)
  have second := rest (([listed sampleAfter] ++ [resolved]) ++ [])
    (runs_bind.mpr ⟨_, _, _, rfl,
      runs_bind.mpr ⟨_, _, _, rfl, runs_getNTPSources sampleAfter, .ask (.ret _)⟩, .ret _⟩)
  have lists : Chronyd sampleResolve _ (listed sampleAfter) _ := .listed sampleAfter order ""
  have both := run_synchronized
    ⟨first, .cons (.listed sampleBefore (.of_eq before) "") (.cons (.found rfl)
      (.cons (.added (by decide) (.swap _ _ _) _ "") (.cons lists (.cons lists
        (.cons (.reversed _ _) (.cons (.reversed _ _) (.nil _)))))))⟩
    (List.Subset.refl _)
    ⟨second, .cons lists (.cons (.found rfl) (.cons lists (.cons lists
      (.cons (.reversed _ _) (.cons (.reversed _ _) (.nil _))))))⟩
  exact ⟨_, _, _, _, rfl, rfl, rfl, both⟩

end Synchronized

end AssistedAgent.NtpSynchronizer
