/-
**The reboot for a reclaim, and the kernel parameters that it carries over.**

On `s390x` the action reads the command line of the running kernel and gives some of its parameters to
`zipl`, for the kernel that is booted next. `extractCmdlineParams` searches the command line for each
parameter with a regular expression, into which the name is put as it is: a dot of the name stands for
any character, a match may start inside a token, and only the first match is taken.

* `ValueAt` — a place of the command line that looks like a parameter, and the value there.
* `valueOf_cases` — the value that is taken is that of the first such place.
* **`exact_iff`** — the parameters are carried over exactly when each one is in the command line once at
  most, and the first place that looks like it has its value.
* `not_exact_dasd` — a second disk that is not carried over.
* **`zipl_before_reboot`** — the system on `s390x` is rebooted only after `zipl` has been given them.
-/

import AssistedAgent.BootArtifacts.Execution
import AssistedAgent.Lib.GoStrings
import AssistedAgent.Lib.Interaction
import AssistedAgent.Lib.RegexpMatches
import Mathlib.Data.List.Forall2

namespace AssistedAgent.Actions.RebootForReclaim

open BootArtifacts GoRegexp Interaction

/-! ### Parameters of the command line -/

/-- What a regular expression reads in a way of its own, but for the dot. -/
def metacharacters : List Char :=
  ['\\', '+', '*', '?', '(', ')', '|', '[', ']', '\x7b', '\x7d', '^', '$']

/-- A character of a name. -/
def isNameChar (x : Char) : Bool := ! (isWhite x || x == '=' || metacharacters.contains x)

/-- The name of a kernel parameter. -/
structure ParamName where
  text : String
  plain : text.toList.all isNameChar = true
deriving DecidableEq

theorem ParamName.not_mem (name : ParamName) {x : Char} (other : isNameChar x = false) :
    x ∉ name.text.toList := by
  intro member
  cases (List.all_eq_true.mp name.plain x member).symm.trans other

/-- A character of a name in the expression. -/
def paramPart (x : Char) : Regex := if x = '.' then .dot else .char x

/-- `%s=([^\s]+)`, with a name; the `\b` before it is where a match may start. -/
def paramRegex (name : List Char) : Regex :=
  .all (name.map paramPart ++ [.char '=', .group 1 (.plus (.set fun x => ! isWhite x))])

/-- The value of a parameter in `cmdlineParams`, if there is one. -/
def valueOf (cmdlineOutput : String) (param : ParamName) : Option String :=
  match findStringSubmatchAtBoundary (paramRegex param.text.toList) 1 cmdlineOutput with
  | _ :: value :: _ => some value
  | _ => none

/-- A round of the first loop, on the entries of `cmdlineParams`, latest first. -/
def recordParam (cmdlineOutput : String) (cmdlineParams : List (ParamName × String))
    (param : ParamName) :
    List (ParamName × String) :=
  match valueOf cmdlineOutput param with
  | some value => (param, value) :: cmdlineParams
  | none => cmdlineParams

/-- A round of the second loop. -/
def appendParam (cmdlineParams : List (ParamName × String)) (requiredCmdline : String)
    (key : ParamName) :
    String :=
  match cmdlineParams.lookup key with
  | some value => requiredCmdline ++ (key.text ++ "=" ++ value ++ " ")
  | none => requiredCmdline

def extractCmdlineParams (cmdlineOutput : String) (paramsToExtract : List ParamName) : String :=
  let cmdlineParams := paramsToExtract.foldl (recordParam cmdlineOutput) []
  paramsToExtract.foldl (appendParam cmdlineParams) ""

def paramsToExtract : List ParamName :=
  [⟨"ip", by decide⟩, ⟨"nameserver", by decide⟩, ⟨"rd.znet", by decide⟩,
    ⟨"zfcp.allow_lun_scan", by decide⟩, ⟨"rd.zfcp", by decide⟩, ⟨"rd.dasd", by decide⟩]

/-! ### The action -/

inductive Call
  | chroot (path : String)
  | execute (command : String) (args : List String)
deriving DecidableEq, Repr

/-- Standard output, standard error and the exit code. -/
abbrev Response := String × String × Int

abbrev Answer : Call → Type
  | .chroot _ => Option String
  | .execute _ _ => Response

abbrev ask (call : Call) : Prog Answer (Answer call) := request call

/-- The options of the first line of a boot loader entry that has them. -/
def optionsOf (entry : String) : String :=
  match (GoStrings.split entry '\n').find? (GoStrings.hasPrefix · "options") with
  | some line => GoStrings.trimSpace (GoStrings.trimPrefix line "options")
  | none => ""

def unshareArgs (options requiredCmdline : String) : List String :=
  ["--mount", "bash", "-c",
    "mount -o remount,rw /boot && zipl -V -t /boot -i " ++ artifactsFolder ++ "/" ++ kernelFile ++
      " -r " ++ artifactsFolder ++ "/" ++ initrdFile ++ " -P '" ++ options ++ " " ++ requiredCmdline ++ "'"]

/-- A command that the action goes on after only if it has succeeded. -/
def executeThen (command : String) (args : List String)
    (next : String → Prog Answer (Option Response)) :
    Prog Answer (Option Response) := do
  let (stdout, stderr, exitCode) ← ask (.execute command args)
  if exitCode ≠ 0 then pure (some (stdout, stderr, exitCode)) else next stdout

def reboot : Prog Answer (Option Response) := do
  let response ← ask (.execute "systemctl" ["reboot"])
  pure (some response)

/-- `Run`, with what the argument is decoded to: the mount directory, which may be nil. The action
panics with `none`. -/
def run (goarch : String) (unmarshal : String → Except String (Option String)) (args : List String) :
    Prog Answer (Option Response) :=
  match args with
  | [] => pure none
  | arg :: _ =>
    match unmarshal arg with
    | .error err => pure (some ("", "failed unmarshalling reboot for reclaim request: " ++ err, -1))
    | .ok none => pure none
    | .ok (some hostFsMountDir) => do
      match ← ask (.chroot hostFsMountDir) with
      | some err => pure (some ("", err, -1))
      | none =>
        if goarch = "s390x" then
          executeThen "cat" ["/boot/loader/entries/00-assisted-discovery.conf"] fun entry =>
            executeThen "cat" ["/proc/cmdline"] fun cmdline =>
              executeThen "unshare"
                (unshareArgs (optionsOf entry)
                  (extractCmdlineParams cmdline paramsToExtract)) fun _ => reboot
        else reboot

/-- The reboot has been asked for. -/
def Reboots (events : List (Event Answer)) : Prop :=
  ∃ e ∈ events, e.call = .execute "systemctl" ["reboot"]

theorem Reboots.tail {e : Event Answer} {events : List (Event Answer)} (reboots : Reboots (e :: events))
    (other : e.call ≠ .execute "systemctl" ["reboot"]) : Reboots events := by
  obtain ⟨e', member, is⟩ := reboots
  rcases List.mem_cons.mp member with rfl | member
  · exact absurd is other
  · exact ⟨e', member, is⟩

/-- Where the reboot follows a command, the command has succeeded. -/
theorem runs_executeThen {command : String} {args : List String}
    {next : String → Prog Answer (Option Response)}
    {events : List (Event Answer)} {response : Option Response}
    (runs : Runs (executeThen command args next) events response) (other : command ≠ "systemctl")
    (reboots : Reboots events) :
    ∃ stdout stderr rest, events = ⟨.execute command args, (stdout, stderr, 0)⟩ :: rest ∧ Reboots rest ∧
      Runs (next stdout) rest response := by
  obtain ⟨⟨stdout, stderr, exitCode⟩, rest, rfl, after⟩ := runs_request_bind.mp runs
  replace reboots := reboots.tail fun same => other (Call.execute.inj same).1
  dsimp only at after
  split at after
  · obtain ⟨rfl, -⟩ := runs_pure.mp after
    obtain ⟨e, member, -⟩ := reboots
    cases member
  · rename_i succeeded
    obtain rfl := not_not.mp succeeded
    exact ⟨stdout, stderr, rest, rfl, reboots, after⟩

/-- **On `s390x`, `zipl` has been given the parameters of the running kernel before the reboot.** -/
theorem zipl_before_reboot {unmarshal : String → Except String (Option String)} {args : List String}
    {events : List (Event Answer)} {response : Option Response}
    (runs : Runs (run "s390x" unmarshal args) events response) (reboots : Reboots events) :
    ∃ hostFsMountDir entry cmdline out err err' err'' final,
      events = [⟨.chroot hostFsMountDir, none⟩,
        ⟨.execute "cat" ["/boot/loader/entries/00-assisted-discovery.conf"], (entry, err, 0)⟩,
        ⟨.execute "cat" ["/proc/cmdline"], (cmdline, err', 0)⟩,
        ⟨.execute "unshare" (unshareArgs (optionsOf entry)
          (extractCmdlineParams cmdline paramsToExtract)),
          (out, err'', 0)⟩,
        ⟨.execute "systemctl" ["reboot"], final⟩] ∧ response = some final := by
  have silent {result : Option Response}
      (runs : Runs (pure result : Prog Answer (Option Response)) events response) : False := by
    obtain ⟨rfl, -⟩ := runs_pure.mp runs
    obtain ⟨e, member, -⟩ := reboots
    cases member
  unfold run at runs
  split at runs
  · exact (silent runs).elim
  split at runs
  · exact (silent runs).elim
  · exact (silent runs).elim
  obtain ⟨err, rest, rfl, after⟩ := runs_request_bind.mp runs
  replace reboots := reboots.tail nofun
  cases err with
  | some err =>
    obtain ⟨rfl, -⟩ := runs_pure.mp after
    obtain ⟨e, member, -⟩ := reboots
    cases member
  | none =>
    dsimp only at after
    rw [if_pos rfl] at after
    obtain ⟨entry, err, rest, rfl, reboots, after⟩ := runs_executeThen after (by decide) reboots
    obtain ⟨cmdline, err', rest, rfl, reboots, after⟩ := runs_executeThen after (by decide) reboots
    obtain ⟨out, err'', rest, rfl, -, after⟩ := runs_executeThen after (by decide) reboots
    obtain ⟨final, rest, rfl, done⟩ := runs_request_bind.mp after
    obtain ⟨rfl, rfl⟩ := runs_pure.mp done
    exact ⟨_, _, _, _, _, _, _, _, rfl, rfl⟩

/-! ### What is to be carried over -/

/-- The tokens of a command line, between white space. -/
def tokens (text : List Char) : List (List Char) := (text.splitOnP isWhite).filter (! ·.isEmpty)

/-- A token that gives a value to this parameter. -/
def isParam (name token : List Char) : Bool :=
  (name ++ ['=']).isPrefixOf token && decide (name.length + 1 < token.length)

/-- The tokens of the parameters are carried over, each as it is and as often as it is there, one
parameter after the other. -/
def Exact (cmdline : String) (names : List ParamName) (out : String) : Prop :=
  ∃ group : ParamName → List (List Char),
    (∀ name ∈ names, (group name).Perm ((tokens cmdline.toList).filter (isParam name.text.toList))) ∧
      out.toList = (names.flatMap group).flatMap (· ++ [' '])

/-! ### Places that look like a parameter -/

/-- A text that the expression takes for the name. -/
def Like (name look : List Char) : Prop :=
  List.Forall₂ (fun x y => if x = '.' then y ≠ '\n' else y = x) name look

/-- A text that starts like a parameter, with the value there: up to the next white space. -/
def StartsParam (name value text : List Char) : Prop :=
  ∃ look rest, Like name look ∧ text = look ++ '=' :: (value ++ rest) ∧ value ≠ [] ∧
    (∀ x ∈ value, (! isWhite x) = true) ∧ ∀ x ∈ rest.head?, (! isWhite x) = false

/-- A place of a text that looks like a parameter: at a word boundary. -/
def ValueAt (name value text : List Char) (i : Nat) : Prop :=
  wordBoundary text i = true ∧ StartsParam name value (text.drop i)

/-- The value at the first place that looks like a parameter. -/
def FirstValue (name value text : List Char) : Prop :=
  ∃ i, ValueAt name value text i ∧ ∀ j < i, ∀ other, ¬ ValueAt name other text j

/-- A parameter that is not in the text, and no place looks like it, or that is there once, and the
first place that looks like it has its value. -/
def Unmistakable (cmdline : String) (name : ParamName) : Prop :=
  (tokens cmdline.toList).filter (isParam name.text.toList) = [] ∧
      (∀ i value, ¬ ValueAt name.text.toList value cmdline.toList i) ∨
    ∃ value, (tokens cmdline.toList).filter (isParam name.text.toList) =
      [name.text.toList ++ '=' :: value] ∧
      FirstValue name.text.toList value cmdline.toList

theorem paramPart_eq (x : Char) :
    paramPart x = .set fun y => if x = '.' then y != '\n' else y == x := by
  unfold paramPart
  split
  · rename_i dot
    simp [Regex.dot]
  · rename_i other
    simp [Regex.char]

theorem like_cons_iff {x y : Char} {name look : List Char} :
    Like (x :: name) (y :: look) ↔ (if x = '.' then y != '\n' else y == x) = true ∧ Like name look := by
  rw [Like, List.forall₂_cons]
  refine and_congr ?_ Iff.rfl
  split <;> simp

/-- At a place that looks like a parameter, the expression takes the whole value. -/
theorem head?_run_param {name look value rest : List Char} (like : Like name look) {c : Cursor}
    (is : c.rest = look ++ '=' :: (value ++ rest)) (nonempty : value ≠ [])
    (solid : ∀ x ∈ value, (! isWhite x) = true) (stops : ∀ x ∈ rest.head?, (! isWhite x) = false) :
    (GoRegexp.run (paramRegex name) c).head? =
      some ((c.after (look ++ ['=']) (value ++ rest)).capture 1 value rest) := by
  rw [paramRegex]
  -- One character of the name at a time, each in one way.
  induction name generalizing look c with
  | nil =>
    obtain rfl := List.forall₂_nil_left_iff.mp like
    rw [List.map_nil, List.nil_append, Regex.char,
      run_all_set (p := (· == '=')) is (beq_self_eq_true '='),
      head?_run_all_group_plus rfl nonempty solid stops]
    rfl
  | cons x name ih =>
    cases look with
    | nil => cases like
    | cons y look =>
      obtain ⟨accepted, like⟩ := like_cons_iff.mp like
      rw [List.map_cons, List.cons_append, paramPart_eq, run_all_set is accepted, ih like rfl,
        Cursor.after_after, List.singleton_append]
      rfl

/-- Where the expression matches, the text starts like the parameter. -/
theorem startsParam_of_mem {name : List Char} {c next : Cursor}
    (member : next ∈ GoRegexp.run (paramRegex name) c) : ∃ value, StartsParam name value c.rest := by
  rw [paramRegex] at member
  induction name generalizing c with
  | nil =>
    rw [List.map_nil, List.nil_append, mem_run_all_char] at member
    obtain ⟨rest, is, member⟩ := member
    obtain ⟨text, more, ⟨nonempty, solid⟩, split, -⟩ := mem_run_all_group_plus.mp member
    -- The expression may stop early; the value goes on to the next white space.
    have whole : rest = text ++ more.takeWhile (! isWhite ·) ++ more.dropWhile (! isWhite ·) := by
      rw [List.append_assoc, List.takeWhile_append_dropWhile]
      exact split
    refine ⟨text ++ more.takeWhile (! isWhite ·), [], more.dropWhile (! isWhite ·),
      List.Forall₂.nil, ?_, List.append_ne_nil_of_left_ne_nil nonempty _, fun x member => ?_,
      fun x first => ?_⟩
    · rw [is, List.nil_append, ← whole]
    · rcases List.mem_append.mp member with member | member
      · exact solid x member
      · exact List.mem_takeWhile_imp (p := (! isWhite ·)) member
    · have stopped := List.head?_dropWhile_not (! isWhite ·) more
      rw [first] at stopped
      exact stopped
  | cons x name ih =>
    rw [List.map_cons, List.cons_append, paramPart_eq, mem_run_all_set] at member
    obtain ⟨y, rest, accepted, is, member⟩ := member
    obtain ⟨value, look, more, like, split, holds⟩ := ih member
    rw [is]
    exact ⟨value, y :: look, more, like_cons_iff.mpr ⟨accepted, like⟩, congrArg (y :: ·) split, holds⟩

theorem StartsParam.unique {name value value' text : List Char} (starts : StartsParam name value text)
    (starts' : StartsParam name value' text) : value = value' := by
  obtain ⟨look, rest, like, rfl, -, solid, stops⟩ := starts
  obtain ⟨look', rest', like', same, -, solid', stops'⟩ := starts'
  obtain ⟨-, after⟩ := List.append_inj same (like.length_eq.symm.trans like'.length_eq)
  exact (append_inj_of_class (List.cons.inj after).2 solid solid' stops stops').1

/-- **The value that is taken** is that of the first place that looks like the parameter. -/
theorem valueOf_cases (cmdline : String) (name : ParamName) :
    (valueOf cmdline name = none ∧ ∀ i value, ¬ ValueAt name.text.toList value cmdline.toList i) ∨
      ∃ value, valueOf cmdline name = some value ∧
        FirstValue name.text.toList value.toList cmdline.toList := by
  have empty {i : Nat} (nothing : wordBoundary cmdline.toList i = true →
      GoRegexp.run (paramRegex name.text.toList) ⟨i, cmdline.toList.drop i, []⟩ = [])
      (value : List Char) :
      ¬ ValueAt name.text.toList value cmdline.toList i := by
    rintro ⟨boundary, look, rest, like, is, nonempty, solid, stops⟩
    have first := head?_run_param like (c := ⟨i, cmdline.toList.drop i, []⟩) is nonempty solid stops
    rw [nothing boundary] at first
    cases first
  unfold valueOf findStringSubmatchAtBoundary
  rcases findAtBoundary_cases (paramRegex name.text.toList) cmdline.toList with
    ⟨found, nothing⟩ | ⟨i, c, found, boundary, head, earlier⟩
  · rw [found]
    refine .inl ⟨rfl, fun i value => ?_⟩
    by_cases bound : i ≤ cmdline.toList.length
    · exact empty (nothing i bound) value
    · rintro ⟨-, look, rest, -, is, -⟩
      rw [List.drop_eq_nil_of_le (Nat.le_of_not_le bound)] at is
      cases (List.append_eq_nil_iff.mp is.symm).2
  · rw [found]
    obtain ⟨value, starts⟩ := startsParam_of_mem (List.mem_of_mem_head? head)
    obtain ⟨look, rest, like, is, nonempty, solid, stops⟩ := id starts
    rw [head?_run_param like is nonempty solid stops] at head
    obtain rfl := Option.some.inj head
    refine .inr ⟨String.ofList value, rfl, i, ⟨boundary, ?_⟩, fun j less => empty (earlier j less)⟩
    rw [String.toList_ofList]
    exact starts

theorem FirstValue.unique {name value value' text : List Char} (first : FirstValue name value text)
    (first' : FirstValue name value' text) : value = value' := by
  obtain ⟨i, here, earlier⟩ := first
  obtain ⟨j, here', earlier'⟩ := first'
  rcases Nat.lt_trichotomy i j with less | rfl | less
  · exact absurd here (earlier' i less value)
  · exact here.2.unique here'.2
  · exact absurd here' (earlier j less value')

/-! ### What is carried over -/

/-- The tokens that are emitted for a parameter. -/
def emitted (cmdline : String) (name : ParamName) : List (List Char) :=
  ((valueOf cmdline name).map fun value => name.text.toList ++ '=' :: value.toList).toList

/-- The first loop finds each of its parameters. -/
theorem lookup_recordParam {cmdline : String} {names : List ParamName}
    {params : List (ParamName × String)}
    {name : ParamName} (settled : name ∈ names ∨ params.lookup name = valueOf cmdline name)
    (unset : params.lookup name = none ∨ params.lookup name = valueOf cmdline name) :
    (names.foldl (recordParam cmdline) params).lookup name = valueOf cmdline name := by
  induction names generalizing params with
  | nil =>
    rcases settled with member | settled
    · cases member
    · exact settled
  | cons first names ih =>
    rw [List.foldl_cons]
    by_cases same : name = first
    · subst same
      have now : (recordParam cmdline params name).lookup name = valueOf cmdline name := by
        unfold recordParam
        cases value : valueOf cmdline name with
        | none =>
          rw [value, or_self] at unset
          exact unset
        | some value => exact List.lookup_cons_self
      exact ih (.inr now) (.inr now)
    · have kept : (recordParam cmdline params first).lookup name = params.lookup name := by
        unfold recordParam
        cases valueOf cmdline first with
        | none => rfl
        | some value => rw [List.lookup_cons, beq_eq_false_iff_ne.mpr same]
      refine ih ?_ (by rwa [kept])
      rw [kept]
      exact settled.imp_left fun member => (List.mem_cons.mp member).resolve_left same

/-- **The text that is carried over**, token by token. -/
theorem extractCmdlineParams_eq (cmdline : String) (names : List ParamName) :
    (extractCmdlineParams cmdline names).toList =
      (names.flatMap (emitted cmdline)).flatMap (· ++ [' ']) := by
  have loop (params : List (ParamName × String)) (rest : List ParamName) (out : String)
      (found : ∀ name ∈ rest, params.lookup name = valueOf cmdline name) :
      (rest.foldl (appendParam params) out).toList =
        out.toList ++ (rest.flatMap (emitted cmdline)).flatMap (· ++ [' ']) := by
    induction rest generalizing out with
    | nil => simp
    | cons name rest ih =>
      obtain ⟨here, found⟩ := List.forall_mem_cons.mp found
      rw [List.foldl_cons, ih _ found, appendParam, here, List.flatMap_cons, List.flatMap_append,
        emitted]
      cases valueOf cmdline name with
      | none => simp
      | some value => simp
  rw [extractCmdlineParams,
    loop _ names "" fun name member => lookup_recordParam (.inl member) (.inl rfl)]
  rfl

/-- Tokens without a blank are read back from a text that ends each with one. -/
theorem eq_of_flatMap_blank {xs ys : List (List Char)} (plain : ∀ x ∈ xs, ' ' ∉ x)
    (plain' : ∀ y ∈ ys, ' ' ∉ y)
    (same : xs.flatMap (· ++ [' ']) = ys.flatMap (· ++ [' '])) : xs = ys := by
  induction xs generalizing ys with
  | nil =>
    cases ys with
    | nil => rfl
    | cons y ys => simp at same
  | cons x xs ih =>
    cases ys with
    | nil => simp at same
    | cons y ys =>
      obtain ⟨one, others⟩ := List.forall_mem_cons.mp plain
      obtain ⟨one', others'⟩ := List.forall_mem_cons.mp plain'
      rw [List.flatMap_cons, List.flatMap_cons, List.append_assoc, List.append_assoc] at same
      obtain ⟨rfl, rest⟩ := append_cons_inj same one one'
      rw [ih others others' rest]

/-- The members of a group, from the groups of distinct keys one after the other. -/
theorem filter_flatMap_of_key {α β : Type} (of : α → β → Bool)
    (one : ∀ a b x, of a x = true → of b x = true → a = b) {keys : List α} (distinct : keys.Nodup)
    {group : α → List β} (grouped : ∀ a ∈ keys, ∀ x ∈ group a, of a x = true) {a : α}
      (member : a ∈ keys) :
    (keys.flatMap group).filter (of a) = group a := by
  induction keys with
  | nil => cases member
  | cons b keys ih =>
    obtain ⟨fresh, distinctRest⟩ := List.nodup_cons.mp distinct
    obtain ⟨here, groupedRest⟩ := List.forall_mem_cons.mp grouped
    rw [List.flatMap_cons, List.filter_append]
    by_cases same : a = b
    · subst same
      have rest : (keys.flatMap group).filter (of a) = [] := by
        refine List.filter_eq_nil_iff.mpr fun x member holds => ?_
        obtain ⟨b, listed, member⟩ := List.mem_flatMap.mp member
        exact fresh (one a b x holds (groupedRest b listed x member) ▸ listed)
      rw [List.filter_eq_self.mpr here, rest, List.append_nil]
    · have none : (group b).filter (of a) = [] :=
        List.filter_eq_nil_iff.mpr fun x member holds => same (one a b x holds (here x member))
      rw [none, ih distinctRest groupedRest ((List.mem_cons.mp member).resolve_left same),
        List.nil_append]

theorem isParam_iff {name token : List Char} :
    isParam name token = true ↔ ∃ value, value ≠ [] ∧ token = name ++ '=' :: value := by
  rw [isParam, Bool.and_eq_true, List.isPrefixOf_iff_prefix, decide_eq_true_iff]
  constructor
  · rintro ⟨⟨value, rfl⟩, longer⟩
    refine ⟨value, ?_, by rw [List.append_assoc, List.singleton_append]⟩
    rintro rfl
    simp at longer
  · rintro ⟨value, nonempty, rfl⟩
    refine ⟨⟨value, by rw [List.append_assoc, List.singleton_append]⟩, ?_⟩
    have positive := List.length_pos_iff.mpr nonempty
    rw [List.length_append, List.length_cons]
    omega

/-- A token is of one parameter only. -/
theorem isParam_unique (name name' : ParamName) (token : List Char)
    (holds : isParam name.text.toList token = true)
    (holds' : isParam name'.text.toList token = true) : name = name' := by
  obtain ⟨value, -, rfl⟩ := isParam_iff.mp holds
  obtain ⟨value', -, same⟩ := isParam_iff.mp holds'
  obtain ⟨eq, -⟩ := append_cons_inj same (name.not_mem rfl) (name'.not_mem rfl)
  cases name
  cases name'
  cases String.toList_injective eq
  rfl

/-- The parts of a split have none of the separators. -/
theorem separator_free_of_mem {p : Char → Bool} {text part : List Char}
    (member : part ∈ text.splitOnP p) :
    ∀ x ∈ part, p x = false := by
  induction text generalizing part with
  | nil =>
    obtain rfl := List.mem_singleton.mp member
    exact nofun
  | cons y text ih =>
    rw [List.splitOnP_cons_eq_if_modifyHead] at member
    split at member
    · rcases List.mem_cons.mp member with rfl | member
      · exact nofun
      · exact ih member
    · rename_i inside
      obtain ⟨first, parts, is⟩ := List.exists_cons_of_ne_nil (List.splitOnP_ne_nil p text)
      rw [is, List.modifyHead_cons] at member
      rcases List.mem_cons.mp member with rfl | member
      · refine List.forall_mem_cons.mpr ⟨Bool.eq_false_iff.mpr inside, ih ?_⟩
        rw [is]
        exact List.mem_cons_self
      · exact ih (is ▸ List.mem_cons_of_mem _ member)

theorem blank_not_mem_tokens {text token : List Char} (member : token ∈ tokens text) : ' ' ∉ token := by
  intro blank
  cases separator_free_of_mem (List.mem_of_mem_filter member) ' ' blank

/-- What is emitted for a parameter is like a token of it. -/
theorem emitted_spec {cmdline : String} {name : ParamName} :
    ∀ token ∈ emitted cmdline name, isParam name.text.toList token = true ∧ ' ' ∉ token := by
  intro token member
  rcases valueOf_cases cmdline name with ⟨is, -⟩ |
    ⟨value, is, i, ⟨-, look, rest, -, -, nonempty, solid, -⟩, -⟩
  · rw [emitted, is] at member
    cases member
  · rw [emitted, is] at member
    obtain rfl := List.mem_singleton.mp member
    refine ⟨isParam_iff.mpr ⟨value.toList, nonempty, rfl⟩, fun blank => ?_⟩
    rcases List.mem_append.mp blank with blank | blank
    · exact name.not_mem rfl blank
    · rcases List.mem_cons.mp blank with eq | blank
      · cases eq
      · cases solid ' ' blank

/-- The command line is carried over exactly when each parameter is. -/
theorem exact_iff_emitted (cmdline : String) {names : List ParamName} (distinct : names.Nodup) :
    Exact cmdline names (extractCmdlineParams cmdline names) ↔
      ∀ name ∈ names,
        emitted cmdline name = (tokens cmdline.toList).filter (isParam name.text.toList) := by
  constructor
  · rintro ⟨group, listed, out⟩ name member
    have ofTokens {name : ParamName} (member : name ∈ names) {token : List Char}
      (inGroup : token ∈ group name) :
        token ∈ tokens cmdline.toList ∧ isParam name.text.toList token = true :=
      List.mem_filter.mp ((listed name member).mem_iff.mp inGroup)
    rw [extractCmdlineParams_eq] at out
    have lists : names.flatMap (emitted cmdline) = names.flatMap group := by
      refine eq_of_flatMap_blank (fun token listed => ?_) (fun token listed => ?_) out
      · obtain ⟨name, -, here⟩ := List.mem_flatMap.mp listed
        exact (emitted_spec token here).2
      · obtain ⟨name, member, here⟩ := List.mem_flatMap.mp listed
        exact blank_not_mem_tokens (ofTokens member here).1
    -- The tokens of this parameter, on both sides.
    have same := congrArg (List.filter (isParam name.text.toList)) lists
    rw [filter_flatMap_of_key (fun name => isParam name.text.toList) isParam_unique distinct
        (fun name _ token here => (emitted_spec token here).1) member,
      filter_flatMap_of_key (fun name => isParam name.text.toList) isParam_unique distinct
        (fun name member token here => (ofTokens member here).2) member] at same
    have perm := listed name member
    rw [← same] at perm
    unfold emitted at perm ⊢
    cases is : valueOf cmdline name with
    | none =>
      rw [is] at perm
      exact (List.nil_perm.mp perm).symm
    | some value =>
      rw [is] at perm
      exact List.singleton_perm.mp perm
  · intro each
    refine ⟨emitted cmdline, fun name member => ?_, extractCmdlineParams_eq cmdline names⟩
    rw [each name member]

/-- A parameter is carried over exactly when it cannot be mistaken. -/
theorem emitted_eq_iff {cmdline : String} {name : ParamName} :
    emitted cmdline name = (tokens cmdline.toList).filter (isParam name.text.toList) ↔
      Unmistakable cmdline name := by
  rw [emitted, Unmistakable]
  rcases valueOf_cases cmdline name with ⟨is, nowhere⟩ | ⟨value, is, first⟩
  · rw [is]
    constructor
    · exact fun none => .inl ⟨none.symm, nowhere⟩
    · rintro (⟨none, -⟩ | ⟨value, -, i, here, -⟩)
      · exact none.symm
      · exact absurd here (nowhere i value)
  · rw [is]
    constructor
    · exact fun one => .inr ⟨value.toList, one.symm, first⟩
    · rintro (⟨-, nowhere⟩ | ⟨other, one, first'⟩)
      · obtain ⟨i, here, -⟩ := first
        exact absurd here (nowhere i _)
      · rw [one, ← first.unique first']
        rfl

/-- **When the parameters are carried over exactly.** -/
theorem exact_iff (cmdline : String) (names : List ParamName) (distinct : names.Nodup) :
    Exact cmdline names (extractCmdlineParams cmdline names) ↔
      ∀ name ∈ names, Unmistakable cmdline name :=
  (exact_iff_emitted cmdline distinct).trans (forall₂_congr fun _ _ => emitted_eq_iff)

/-- Each parameter is there once at most. -/
theorem exact_single :
    Exact "root=/dev/dasda1 ip=dhcp rd.znet=qeth,0.0.1000\n" paramsToExtract
      (extractCmdlineParams "root=/dev/dasda1 ip=dhcp rd.znet=qeth,0.0.1000\n" paramsToExtract) := by
  have each : ∀ name ∈ paramsToExtract,
    emitted "root=/dev/dasda1 ip=dhcp rd.znet=qeth,0.0.1000\n" name =
      (tokens "root=/dev/dasda1 ip=dhcp rd.znet=qeth,0.0.1000\n".toList).filter
        (isParam name.text.toList) := by
    decide +kernel
  exact (exact_iff _ _ (by decide)).mpr fun name member => emitted_eq_iff.mp (each name member)

/-- Of two disks, the second one is not carried over. -/
theorem not_exact_dasd :
    ¬ Exact "ip=dhcp rd.dasd=0.0.1234 rd.dasd=0.0.5678\n" paramsToExtract
      (extractCmdlineParams "ip=dhcp rd.dasd=0.0.1234 rd.dasd=0.0.5678\n" paramsToExtract) := by
  intro exact
  have each := (exact_iff_emitted _ (by decide)).mp exact ⟨"rd.dasd", by decide⟩ (by decide)
  revert each
  decide +kernel

end AssistedAgent.Actions.RebootForReclaim
