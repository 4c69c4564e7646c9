/-
**The script of the disk speed check.**

`Args` writes the request between single quotes into a script for `sh -c`, and the timeout and the
image as they are.

* `run_script` — how the script is read up to the request, whatever the request is.
* **`script_intended_iff`** — for accepted arguments the script is the intended one exactly when the
  request has no single quote.
* `script_injected` — a request that runs another command.
* `freeAddresses_intended` — the free addresses action, which quotes its arguments, hands over any
  argument as it is.
-/

import AssistedAgent.Actions.Validate
import AssistedAgent.DiskSpeedCheck.FioPerfCheck
import AssistedAgent.Lib.GoFloat
import AssistedAgent.Lib.GoStrings
import AssistedAgent.Lib.Shell

namespace AssistedAgent.Actions

open GoJson Shell

/-! ### The action -/

/-- A word that stands for itself. -/
def text (s : String) : Word := lits s.toList

/-- `models.DiskSpeedCheckRequest`, by its path. -/
def diskSpeedCheckRequest : Model (Option String) where
  unmarshal := DiskSpeedCheck.decodeRequest
  validate path := if path = none then some (requiredError "path") else none

namespace DiskPerfCheck

def validate (args : List String) : Validation Unit :=
  match validateCommon "disk performance" 2 args diskSpeedCheckRequest with
  | .accepted _ =>
    match args with
    | _ :: timeout :: _ =>
      if GoFloat.accepts timeout then .accepted ()
      else .rejected (.action ("strconv.ParseFloat: parsing " ++ timeout))
    | _ => .panicked
  | .rejected why => .rejected why
  | .panicked => .panicked

/-- The script up to the timeout. -/
def lookupText : String :=
  "id=`podman ps --quiet --filter \"name=disk_performance\"` ; " ++ "test ! -z \"$id\" || " ++ "timeout "

/-- The script between the timeout and the image. -/
def podmanText : String :=
  "podman run --privileged --rm --quiet -v /dev:/dev:rw -v /var/log:/var/log " ++
    "-v /run/systemd/journal/socket:/run/systemd/journal/socket " ++ "--name disk_performance "

/-- The script, with the two arguments and the image of the agent. -/
def script (image request timeout : String) : String :=
  lookupText ++ timeout ++ " " ++ podmanText ++ image ++ " disk_speed_check '" ++ request ++ "'"

/-- `Args`; `none` is an index out of range. -/
def Args (agentVersion : String) : List String → Option (List String)
  | request :: timeout :: _ => some ["-c", script agentVersion request timeout]
  | _ => none

theorem validate_accepted {args : List String} (accepted : validate args = .accepted ()) :
    ∃ request timeout, args = [request, timeout] ∧ GoFloat.accepts timeout = true := by
  unfold validate at accepted
  split at accepted
  · rename_i path common
    obtain ⟨count, request, rest, -, rfl, -⟩ := validateCommon_accepted common
    obtain ⟨timeout, rfl⟩ : ∃ timeout, rest = [timeout] :=
      List.length_eq_one_iff.mp (Nat.succ.inj count)
    dsimp only at accepted
    split at accepted
    · exact ⟨request, timeout, rfl, ‹_›⟩
    · cases accepted
  · cases accepted
  · cases accepted

/-! ### The intended script -/

/-- The word of an image; an empty one is none. -/
def imageWord (image : String) : List Word := if image = "" then [] else [text image]

def lookupWords : List Word :=
  [text "id=" ++ [.subst false "podman ps --quiet --filter \"name=disk_performance\"".toList]]

def testWords : List Word := [text "test", text "!", text "-z", [.param true "id".toList]]

def podmanWords : List Word :=
  [text "podman", text "run", text "--privileged", text "--rm", text "--quiet", text "-v",
    text "/dev:/dev:rw", text "-v", text "/var/log:/var/log", text "-v",
    text "/run/systemd/journal/socket:/run/systemd/journal/socket", text "--name",
    text "disk_performance"]

/-- The command that runs the container, up to the arguments of the container. -/
def runWords (image timeout : String) : List Word :=
  text "timeout" :: text timeout :: podmanWords ++ imageWord image ++ [text "disk_speed_check"]

/-- The container is looked up, and run with the request as its only argument unless it runs. -/
def intended (image request timeout : String) : Script :=
  ⟨lookupWords, [(.seq, testWords), (.or, runWords image timeout ++ [text request])]⟩

/-- The characters that the shell does not take as they are. -/
def isMeta (c : Char) : Bool := isSpecial c || ['*', '?', '[', '#', '~'].contains c

/-! ### Reading the script -/

/-- The tokens before the request. -/
def leading (image timeout : String) : List Token :=
  lookupWords.map .word ++ .op [';'] :: (testWords.map .word ++ .op ['|', '|'] ::
    (runWords image timeout).map .word)

/-- The last command goes on after the tokens before the request. -/
theorem parseFrom_leading {image timeout : String} {ts : List Token} {next : Script}
    (parsed : parseFrom [] ((runWords image timeout).map .word ++ ts) = some next) :
    parseFrom [] (leading image timeout ++ ts) =
      some ⟨lookupWords, (.seq, testWords) :: (.or, next.first) :: next.rest⟩ := by
  have test := parseFrom_command testWords (by simp [testWords])
    (rfl : connector ['|', '|'] = some .or) parsed
  have look := parseFrom_command lookupWords (by simp [lookupWords])
    (rfl : connector [';'] = some .seq) test
  rw [leading, List.append_assoc, List.cons_append, List.append_assoc, List.cons_append]
  exact look

theorem parseFrom_intended (image request timeout : String) :
    parseFrom [] (leading image timeout ++ [.word (text request)]) =
      some (intended image request timeout) := by
  have last := parseFrom_last (runWords image timeout ++ [text request]) (by simp)
  rw [List.map_append] at last
  exact parseFrom_leading last

/-- A text of characters that the shell takes as they are spells itself. -/
theorem spells_of_not_meta {s : String} (filled : s ≠ "") (plain : ∀ c ∈ s.toList, isMeta c = false) :
    Spells s.toList (text s) := by
  have parts : ∀ c ∈ s.toList, isSpecial c = false ∧ c ≠ '#' ∧ c ≠ '~' := by
    intro c member
    have ordinary := plain c member
    simp only [isMeta, Bool.or_eq_false_iff, List.contains_eq_mem, decide_eq_false_iff_not,
      List.mem_cons, not_or] at ordinary
    exact ⟨ordinary.1, ordinary.2.2.2.2.1, ordinary.2.2.2.2.2.1⟩
  refine spells_of_not_special (fun empty => filled (String.toList_eq_nil_iff.mp empty))
    (fun c member => (parts c member).1) (fun head => ?_) (fun head => ?_)
  · exact (parts '#' (List.mem_of_mem_head? head)).2.1 rfl
  · exact (parts '~' (List.mem_of_mem_head? head)).2.2 rfl

theorem not_meta_of_isFloatChar {c : Char} (isChar : GoFloat.isFloatChar c = true) :
    isMeta c = false := by
  have others : (specials ++ ['*', '?', '[', '#', '~']).any GoFloat.isFloatChar = false := by decide
  by_contra special
  have member : c ∈ specials ++ ['*', '?', '[', '#', '~'] := by
    rw [Bool.not_eq_false, isMeta, Bool.or_eq_true, isSpecial, List.contains_iff_mem,
      List.contains_iff_mem] at special
    exact List.mem_append.mpr special
  exact List.any_eq_false.mp others c member isChar

theorem run_lookupText : Shell.run (.plain none) lookupText.toList =
    some (lookupWords.map .word ++ .op [';'] :: (testWords.map .word ++
      [.op ['|', '|'], .word (text "timeout")]), .plain none) := by
  decide +kernel

theorem run_podmanText : Shell.run (.plain none) podmanText.toList =
    some (podmanWords.map .word, .plain none) := by
  -- One line of the script at a time.
  have flags : Shell.run (.plain none)
      "podman run --privileged --rm --quiet -v /dev:/dev:rw -v /var/log:/var/log ".toList =
        some ((podmanWords.take 9).map .word, .plain none) := by
    decide +kernel
  have journal : Shell.run (.plain none)
      "-v /run/systemd/journal/socket:/run/systemd/journal/socket ".toList =
        some (((podmanWords.drop 9).take 2).map .word, .plain none) := by
    decide +kernel
  have name : Shell.run (.plain none) "--name disk_performance ".toList =
      some ((podmanWords.drop 11).map .word, .plain none) := by
    decide +kernel
  unfold podmanText
  simp only [String.toList_append, List.append_assoc]
  rw [run_append_of flags, run_append_of journal, name]
  rfl

/-- **The script up to the request**, which is read from within quotes. -/
theorem run_script {image timeout : String} (request : String)
    (plainImage : ∀ c ∈ image.toList, isMeta c = false) (accepted : GoFloat.accepts timeout = true) :
    Shell.run (.plain none) (script image request timeout).toList =
      (Shell.run (.single []) (request.toList ++ ['\''])).map fun (rest, m) =>
        (leading image timeout ++ rest, m) := by
  obtain ⟨filled, chars⟩ := GoFloat.isFloatChar_of_accepts accepted
  have time : Spells timeout.toList (text timeout) :=
    spells_of_not_meta (fun empty => filled (String.toList_eq_nil_iff.mpr empty))
      fun c member => not_meta_of_isFloatChar (chars c member)
  have imageRead : ∀ more, Shell.run (.plain none) (image.toList ++ ' ' :: more) =
      (Shell.run (.plain none) more).map fun (rest, m) => ((imageWord image).map .word ++ rest, m) := by
    intro more
    unfold imageWord
    split
    · rename_i empty
      subst empty
      exact run_cons_of rfl more
    · rename_i named
      exact (spells_of_not_meta named plainImage).run_blank more
  have parts : (script image request timeout).toList = lookupText.toList ++ (timeout.toList ++ ' ' ::
      (podmanText.toList ++ (image.toList ++ ' ' :: ("disk_speed_check '".toList ++
        (request.toList ++ ['\'']))))) := by
    have check : " disk_speed_check '".toList = ' ' :: "disk_speed_check '".toList := rfl
    unfold script
    rw [String.toList_append, String.toList_append, String.toList_append, String.toList_append,
      String.toList_append, String.toList_append, String.toList_append, check]
    have blank : " ".toList = [' '] := rfl
    have closing : "'".toList = ['\''] := rfl
    rw [blank, closing]
    simp only [List.append_assoc, List.cons_append, List.nil_append]
  have check : Shell.run (.plain none) "disk_speed_check '".toList =
      some ([.word (text "disk_speed_check")], .single []) := by
    decide +kernel
  rw [parts, run_append_of run_lookupText, time.run_blank, run_append_of run_podmanText, imageRead,
    run_append_of check]
  cases Shell.run (.single []) (request.toList ++ ['\'']) with
  | none => rfl
  | some last => simp [leading, runWords]

/-- The script, if the request and the quote after it are read so. -/
theorem parse_script_of {image timeout request : String} {rest lasting : List Token} {m : Mode}
    (plainImage : ∀ c ∈ image.toList, isMeta c = false) (accepted : GoFloat.accepts timeout = true)
    (inner : Shell.run (.single []) (request.toList ++ ['\'']) = some (rest, m))
    (ended : final m = some lasting) :
    Shell.parse (script image request timeout).toList =
      parseFrom [] (leading image timeout ++ (rest ++ lasting)) := by
  rw [Shell.parse, Shell.tokens, run_script request plainImage accepted, inner]
  change ((final m).bind fun last => some (leading image timeout ++ rest ++ last)).bind (parseFrom []) = _
  rw [ended, ← List.append_assoc]
  rfl

/-! ### Which requests the script carries -/

/-- A request without quotes is the last word of the script. -/
theorem parse_script {image request timeout : String}
    (plainImage : ∀ c ∈ image.toList, isMeta c = false) (accepted : GoFloat.accepts timeout = true)
    (plain : '\'' ∉ request.toList) :
    Shell.parse (script image request timeout).toList = some (intended image request timeout) := by
  have closed : Shell.run (.single []) (request.toList ++ ['\'']) =
      some ([], .plain (some (text request))) := by
    have closing : step (.single (text request)) '\'' = some ([], .plain (some (text request))) := rfl
    rw [run_append_of (run_single plain []), List.nil_append, ← text, run_cons_of closing]
    rfl
  rw [parse_script_of plainImage accepted closed rfl]
  exact parseFrom_intended image request timeout

/-- A request with a quote is not: the commands of the script have less characters than it has. -/
theorem plain_of_parse_script {image request timeout : String}
    (plainImage : ∀ c ∈ image.toList, isMeta c = false) (accepted : GoFloat.accepts timeout = true)
    (parsed : Shell.parse (script image request timeout).toList =
      some (intended image request timeout)) : '\'' ∉ request.toList := by
  intro quoted
  rw [Shell.parse, Option.bind_eq_some_iff] at parsed
  obtain ⟨ts, read, commands⟩ := parsed
  rw [Shell.tokens] at read
  obtain ⟨last, ran, read⟩ := Option.bind_eq_some_iff.mp read
  obtain ⟨rest, ended, whole⟩ := Option.bind_eq_some_iff.mp read
  rw [run_script request plainImage accepted] at ran
  obtain ⟨next, inner, rfl⟩ := Option.map_eq_some_iff.mp ran
  cases whole
  have lost := run_single_weight_lt quoted inner
  have found := parseFrom_weight commands
  have wanted := parseFrom_weight (parseFrom_intended image request timeout)
  have lasting := final_weight ended
  simp only [tokensWeight_append, tokensWeight_cons, tokensWeight_nil, Token.weight, text,
    wordWeight_lits, left] at lost found wanted lasting
  omega

/-- **The script is the intended one exactly when the request has no single quote.** -/
theorem script_intended_iff {image : String} {args : List String}
    (plainImage : ∀ c ∈ image.toList, isMeta c = false) (accepted : validate args = .accepted ()) :
    ∃ request timeout, args = [request, timeout] ∧
      Args image args = some ["-c", script image request timeout] ∧
      (Shell.parse (script image request timeout).toList = some (intended image request timeout) ↔
        '\'' ∉ request.toList) := by
  obtain ⟨request, timeout, rfl, float⟩ := validate_accepted accepted
  exact ⟨request, timeout, rfl, rfl, plain_of_parse_script plainImage float,
    parse_script plainImage float⟩

/-- A request for one disk of an agent with a usual image. -/
theorem script_intended_sda :
    ∃ request timeout, ["\x7b\"path\":\"/dev/sda\"\x7d", "2.5"] = [request, timeout] ∧
      Args "quay.io/agent:latest" ["\x7b\"path\":\"/dev/sda\"\x7d", "2.5"] =
        some ["-c", script "quay.io/agent:latest" request timeout] ∧
      (Shell.parse (script "quay.io/agent:latest" request timeout).toList =
        some (intended "quay.io/agent:latest" request timeout) ↔ '\'' ∉ request.toList) :=
  script_intended_iff (GoStrings.forall_of_any (by decide +kernel)) (by decide +kernel)

/-- The path of a disk that ends the quotes, and a command after it. -/
def injected : String := "\x7b\"path\":\"'; reboot; '\"\x7d"

/-- What `sh` runs instead. -/
def injectedScript : Script :=
  ⟨lookupWords, [(.seq, testWords), (.or, runWords "agent" "1" ++ [text "\x7b\"path\":\""]),
    (.seq, [text "reboot"]), (.seq, [text "\"\x7d"])]⟩

/-- **The service can run a command of its own**: the request is accepted, and the script reboots. -/
theorem script_injected :
    validate [injected, "1"] = .accepted () ∧
      Shell.parse (script "agent" injected "1").toList = some injectedScript ∧
      Shell.parse (script "agent" injected "1").toList ≠ some (intended "agent" injected "1") := by
  have inner : Shell.run (.single []) (injected.toList ++ ['\'']) =
      some ([.word (text "\x7b\"path\":\""), .op [';'], .word (text "reboot"), .op [';']],
        .plain (some (text "\"\x7d"))) := by
    decide +kernel
  have commands := parseFrom_command
    (runWords "agent" "1" ++ [text "\x7b\"path\":\""]) (by simp)
    (rfl : connector [';'] = some .seq)
    (parseFrom_command ([text "reboot"]) (by simp) (rfl : connector [';'] = some .seq)
      (parseFrom_last ([text "\"\x7d"]) (by simp)))
  rw [List.map_append, List.append_assoc] at commands
  have parsed : Shell.parse (script "agent" injected "1").toList = some injectedScript := by
    rw [parse_script_of (GoStrings.forall_of_any rfl) (by decide +kernel) inner rfl]
    exact parseFrom_leading commands
  refine ⟨by decide +kernel, parsed, fun same => ?_⟩
  have more : injectedScript.rest.length = (intended "agent" injected "1").rest.length :=
    congrArg (·.rest.length) (Option.some.inj (parsed.symm.trans same))
  exact absurd more (show 4 ≠ 2 by decide)

end DiskPerfCheck

/-! ### The action that quotes its arguments -/

namespace FreeAddresses

def containerName : String := "free_addresses_scanner"

def podmanRunCmd (agentVersion : String) : List String :=
  ["podman", "run", "--privileged", "--net=host", "--rm", "--quiet", "--name", containerName,
    "-v", "/var/log:/var/log", "-v", "/run/systemd/journal/socket:/run/systemd/journal/socket",
    agentVersion, "free_addresses"]

def checkAlreadyRunningCmd : String :=
  "podman ps --format '\x7b\x7b.Names\x7d\x7d' | grep -q '^" ++ containerName ++ "$'"

def script (agentVersion : String) (args : List String) : String :=
  checkAlreadyRunningCmd ++ " || " ++ quoteCommand (podmanRunCmd agentVersion ++ args)

def Args (agentVersion : String) (args : List String) : List String :=
  ["-c", script agentVersion args]

def psWords : List Word :=
  [text "podman", text "ps", text "--format", text "\x7b\x7b.Names\x7d\x7d"]

def grepWords : List Word := [text "grep", text "-q", text "^free_addresses_scanner$"]

/-- The container is looked up by its name, and run with these arguments unless it runs. -/
def intended (agentVersion : String) (args : List String) : Script :=
  ⟨psWords, [(.pipe, grepWords), (.or, (podmanRunCmd agentVersion ++ args).map text)]⟩

/-- **Every argument and every image is handed over as it is**, quotes or not. -/
theorem freeAddresses_intended (agentVersion : String) (args : List String) :
    Shell.parse (script agentVersion args).toList = some (intended agentVersion args) := by
  have look : Shell.run (.plain none) (checkAlreadyRunningCmd ++ " || ").toList =
      some (psWords.map .word ++ .op ['|'] :: (grepWords.map .word ++ [.op ['|', '|']]),
        .plain none) := by
    decide +kernel
  have container := parseFrom_last ((podmanRunCmd agentVersion ++ args).map text)
    (by simp [podmanRunCmd])
  have commands := parseFrom_command psWords (by simp [psWords])
    (rfl : connector ['|'] = some .pipe)
    (parseFrom_command grepWords (by simp [grepWords])
      (rfl : connector ['|', '|'] = some .or) container)
  rw [Shell.parse, script, String.toList_append, tokens_append_of look,
    tokens_quoteCommand (by simp [podmanRunCmd]), Option.map_some, Option.bind_some,
    List.append_assoc, List.cons_append, List.append_assoc]
  exact commands

end FreeAddresses

end AssistedAgent.Actions
