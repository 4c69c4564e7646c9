/-
**The words of a shell script.**

`tokens` reads a script as the POSIX shell does before it expands anything: blanks separate words,
quotes and backslashes are removed, operators stand for themselves, and what is to be expanded stays
in its word as a piece. It is a machine that takes one character at a time (`step`), so that a script
put together from parts is read part by part (`run_append`). What it does not read is `none`: a
redirection, a tilde at the start of a word, `$` before anything but a name, a quote that is not
closed. `parse` groups the words between the operators into commands.

`quote` and `quoteCommand` are those of the package `shellescape`.

* **`spells_quote`, `argv_quoteCommand`** — a quoted text is one word, the text itself, and a quoted
  command is its arguments.
* **`run_weight_le`, `run_weight_lt`** — no character of a script becomes more than one character of a
  word, and a quote that is not itself quoted becomes none.
-/

import Mathlib.Algebra.Ring.Nat
import Mathlib.Data.List.Basic
import Mathlib.Data.List.Forall2

namespace Shell

/-! ### Tokens -/

inductive Piece
  | char (c : Char)
  | param (quoted : Bool) (name : List Char)
  | subst (quoted : Bool) (body : List Char)
deriving DecidableEq, Repr

abbrev Word := List Piece

inductive Token
  | word (w : Word)
  | op (text : List Char)
deriving DecidableEq, Repr

/-- The word of a text that stands for itself. -/
def lits (text : List Char) : Word := text.map .char

/-- Where the machine is: outside of quotes with the word that has begun, if any; after a backslash;
within quotes; after a `$`, in the name after it; within backquotes; after the first character of an
operator; in a comment. -/
inductive Mode
  | plain (cur : Option Word)
  | escaped (cur : Option Word)
  | single (w : Word)
  | double (w : Word)
  | doubleEscaped (w : Word)
  | dollar (quoted : Bool) (w : Word)
  | name (quoted : Bool) (w : Word) (name : List Char)
  | back (quoted : Bool) (w : Word) (body : List Char)
  | backEscaped (quoted : Bool) (w : Word) (body : List Char)
  | oper (c : Char)
  | comment
deriving DecidableEq, Repr

/-- The word that ends here, if one has begun. -/
def finish (cur : Option Word) : List Token := cur.toList.map .word

/-- Back from an expansion to where it stands. -/
def resume (quoted : Bool) (w : Word) : Mode := if quoted then .double w else .plain (some w)

def isBlank (c : Char) : Bool := c == ' ' || c == '\t'

/-- An operator that is never doubled. -/
def isControl (c : Char) : Bool := ['\n', '(', ')'].contains c

/-- An operator that may be doubled. -/
def isPaired (c : Char) : Bool := ['|', '&', ';'].contains c

/-- The characters that do not stand for themselves wherever they are outside of quotes. -/
def specials : List Char :=
  [' ', '\t', '\n', '(', ')', '|', '&', ';', '\'', '"', '\\', '$', '\x60', '<', '>']

def isSpecial (c : Char) : Bool := specials.contains c

def isNameStart (c : Char) : Bool := c.isAlpha || c == '_'

def stepPlain (cur : Option Word) (c : Char) : Option (List Token × Mode) :=
  if isBlank c then some (finish cur, .plain none)
  else if isControl c then some (finish cur ++ [.op [c]], .plain none)
  else if isPaired c then some (finish cur, .oper c)
  else if c = '\'' then some ([], .single (cur.getD []))
  else if c = '"' then some ([], .double (cur.getD []))
  else if c = '\\' then some ([], .escaped cur)
  else if c = '$' then some ([], .dollar false (cur.getD []))
  else if c = '\x60' then some ([], .back false (cur.getD []) [])
  else if c = '<' ∨ c = '>' then none
  else if cur = none ∧ c = '#' then some ([], .comment)
  else if cur = none ∧ c = '~' then none
  else some ([], .plain (some (cur.getD [] ++ [.char c])))

def stepDouble (w : Word) (c : Char) : Mode :=
  if c = '"' then .plain (some w)
  else if c = '\\' then .doubleEscaped w
  else if c = '$' then .dollar true w
  else if c = '\x60' then .back true w []
  else .double (w ++ [.char c])

def step : Mode → Char → Option (List Token × Mode)
  | .plain cur, c => stepPlain cur c
  | .escaped cur, c =>
    some ([], .plain (if c = '\n' then cur else some (cur.getD [] ++ [.char c])))
  | .single w, c =>
    some ([], if c = '\'' then .plain (some w) else .single (w ++ [.char c]))
  | .double w, c => some ([], stepDouble w c)
  | .doubleEscaped w, c =>
    some ([], .double (if c = '\n' then w
      else if ['$', '\x60', '"', '\\'].contains c then w ++ [.char c]
      else w ++ [.char '\\', .char c]))
  | .dollar quoted w, c => if isNameStart c then some ([], .name quoted w [c]) else none
  | .name quoted w name, c =>
    if isNameStart c || c.isDigit then some ([], .name quoted w (name ++ [c]))
    else if quoted then some ([], stepDouble (w ++ [.param quoted name]) c)
    else stepPlain (some (w ++ [.param quoted name])) c
  | .back quoted w body, c =>
    some ([], if c = '\x60' then resume quoted (w ++ [.subst quoted body])
      else if c = '\\' then .backEscaped quoted w body
      else .back quoted w (body ++ [c]))
  | .backEscaped quoted w body, c =>
    some ([], .back quoted w
      (body ++ if ['$', '\x60', '\\'].contains c then [c] else ['\\', c]))
  | .oper o, c =>
    if c = o then some ([.op [o, o]], .plain none)
    else (stepPlain none c).map fun next => (.op [o] :: next.1, next.2)
  | .comment, c => some (if c = '\n' then ([.op ['\n']], .plain none) else ([], .comment))

/-- What the end of the script leaves. -/
def final : Mode → Option (List Token)
  | .plain cur => some (finish cur)
  | .name false w name => some [.word (w ++ [.param false name])]
  | .oper o => some [.op [o]]
  | .comment => some []
  | _ => none

def run : Mode → List Char → Option (List Token × Mode)
  | m, [] => some ([], m)
  | m, c :: text => do
    let (out, m) ← step m c
    let (rest, m) ← run m text
    some (out ++ rest, m)

def tokens (text : List Char) : Option (List Token) := do
  let (out, m) ← run (.plain none) text
  let rest ← final m
  some (out ++ rest)

/-! ### Commands -/

inductive Connector
  | seq
  | and
  | or
  | pipe
  | background
deriving DecidableEq, Repr

def connector (text : List Char) : Option Connector :=
  if text = [';'] ∨ text = ['\n'] then some .seq
  else if text = ['&', '&'] then some .and
  else if text = ['|', '|'] then some .or
  else if text = ['|'] then some .pipe
  else if text = ['&'] then some .background
  else none

/-- Simple commands, each after the first with the operator before it. -/
structure Script where
  first : List Word
  rest : List (Connector × List Word)
deriving DecidableEq, Repr

/-- The commands of the tokens, after these words of the first one. -/
def parseFrom : List Word → List Token → Option Script
  | cur, [] => if cur = [] then none else some ⟨cur, []⟩
  | cur, .word w :: ts => parseFrom (cur ++ [w]) ts
  | cur, .op o :: ts =>
    if cur = [] then none
    else do
      let k ← connector o
      let next ← parseFrom [] ts
      some ⟨cur, (k, next.first) :: next.rest⟩

/-- The commands of a script without subshells. -/
def parse (text : List Char) : Option Script := (tokens text).bind (parseFrom [])

/-! ### Arguments -/

def Piece.literal : Piece → Option Char
  | .char c => some c
  | _ => none

def Token.literal : Token → Option String
  | .word w => (w.mapM Piece.literal).map String.ofList
  | .op _ => none

/-- The argument vector of a single command in which nothing is expanded. -/
def argv (text : String) : Option (List String) := (tokens text.toList).bind (·.mapM Token.literal)

/-! ### Quoting -/

/-- The complement of the class that `shellescape` looks for. -/
def isSafe (c : Char) : Bool := c.isAlphanum || "_@%+=:,./-".toList.contains c

def quoteChar (c : Char) : List Char := if c = '\'' then ['\'', '"', '\'', '"', '\''] else [c]

/-- `shellescape.Quote`. -/
def quote (s : String) : String :=
  if s = "" then "''"
  else if s.toList.any (! isSafe ·) then
    String.ofList ('\'' :: s.toList.flatMap quoteChar ++ ['\''])
  else s

/-- `shellescape.QuoteCommand`. -/
def quoteCommand (args : List String) : String := " ".intercalate (args.map quote)

/-! ### Reading part by part -/

theorem run_append (m : Mode) (text more : List Char) :
    run m (text ++ more) = (run m text).bind fun (out, m) =>
      (run m more).map fun (rest, m) => (out ++ rest, m) := by
  induction text generalizing m with
  | nil => cases h : run m more <;> simp [run, h]
  | cons c text ih =>
    rw [List.cons_append, run, run]
    cases step m c with
    | none => rfl
    | some next =>
      obtain ⟨out, m'⟩ := next
      simp only [Option.bind_eq_bind, Option.bind_some, ih]
      cases run m' text with
      | none => rfl
      | some last =>
        obtain ⟨rest, m''⟩ := last
        cases h : run m'' more <;> simp [h]

theorem run_append_of {m m' : Mode} {text : List Char} {out : List Token}
    (read : run m text = some (out, m')) (more : List Char) :
    run m (text ++ more) = (run m' more).map fun (rest, m) => (out ++ rest, m) := by
  rw [run_append, read]
  rfl

theorem tokens_append_of {text : List Char} {out : List Token}
    (read : run (.plain none) text = some (out, .plain none)) (more : List Char) :
    tokens (text ++ more) = (tokens more).map (out ++ ·) := by
  unfold tokens
  rw [run_append_of read more]
  cases run (.plain none) more with
  | none => rfl
  | some last =>
    obtain ⟨rest, m⟩ := last
    cases h : final m <;> simp [h]

theorem run_cons_of {m m' : Mode} {c : Char} {out : List Token} (read : step m c = some (out, m'))
    (text : List Char) :
    run m (c :: text) = (run m' text).map fun (rest, m) => (out ++ rest, m) := by
  rw [run, read]
  cases h : run m' text <;> simp [h]

/-- A text that is read as the beginning of one word. -/
def Spells (text : List Char) (w : Word) : Prop :=
  run (.plain none) text = some ([], .plain (some w))

theorem Spells.run_blank {text : List Char} {w : Word} (spells : Spells text w) (more : List Char) :
    run (.plain none) (text ++ ' ' :: more) =
      (run (.plain none) more).map fun (rest, m) => (.word w :: rest, m) := by
  have blank : step (.plain (some w)) ' ' = some ([.word w], .plain none) := rfl
  rw [run_append_of spells, run_cons_of blank]
  cases run (.plain none) more <;> rfl

theorem Spells.tokens_eq {text : List Char} {w : Word} (spells : Spells text w) :
    tokens text = some [.word w] := by
  unfold tokens
  rw [spells]
  rfl

theorem Spells.tokens_blank {text : List Char} {w : Word} (spells : Spells text w)
    (more : List Char) :
    tokens (text ++ ' ' :: more) = (tokens more).map (.word w :: ·) := by
  have read := spells.run_blank []
  rw [run, Option.map_some] at read
  have parts : text ++ ' ' :: more = (text ++ [' ']) ++ more := by simp
  rw [parts, tokens_append_of read more]
  rfl

/-- **Words with blanks between them.** -/
theorem tokens_intercalate {texts : List (List Char)} {words : List Word}
    (spells : List.Forall₂ Spells texts words) (filled : texts ≠ []) :
    tokens ([' '].intercalate texts) = some (words.map .word) := by
  induction spells with
  | nil => exact absurd rfl filled
  | @cons text w texts words first rest ih =>
    cases rest with
    | nil =>
      rw [List.intercalate_singleton]
      exact first.tokens_eq
    | @cons text' w' texts words second rest =>
      rw [List.intercalate_cons_cons, List.append_assoc, List.singleton_append,
        first.tokens_blank, ih (List.cons_ne_nil _ _)]
      rfl

/-! ### Quoted texts -/

theorem stepPlain_of_not_special {c : Char} (ordinary : isSpecial c = false) {cur : Option Word}
    (start : cur = none → c ≠ '#' ∧ c ≠ '~') :
    stepPlain cur c = some ([], .plain (some (cur.getD [] ++ [.char c]))) := by
  simp only [isSpecial, specials, List.contains_eq_mem, decide_eq_false_iff_not, List.mem_cons,
    List.not_mem_nil, or_false, not_or] at ordinary
  obtain ⟨space, tab, newline, opening, closing, bar, ampersand, semicolon, quote, doubleQuote,
    backslash, dollar, backquote, less, greater⟩ := ordinary
  have blank : ¬ isBlank c = true := by
    simp only [isBlank, Bool.or_eq_true, beq_iff_eq, space, tab, or_self, not_false_eq_true]
  have control : ¬ isControl c = true := by
    simp only [isControl, List.contains_eq_mem, decide_eq_true_eq, List.mem_cons, List.not_mem_nil,
      newline, opening, closing, or_self, not_false_eq_true]
  have paired : ¬ isPaired c = true := by
    simp only [isPaired, List.contains_eq_mem, decide_eq_true_eq, List.mem_cons, List.not_mem_nil,
      bar, ampersand, semicolon, or_self, not_false_eq_true]
  unfold stepPlain
  rw [if_neg blank, if_neg control, if_neg paired, if_neg quote, if_neg doubleQuote,
    if_neg backslash, if_neg dollar, if_neg backquote, if_neg (not_or.mpr ⟨less, greater⟩),
    if_neg fun comment => (start comment.1).1 comment.2,
    if_neg fun tilde => (start tilde.1).2 tilde.2]

/-- Characters that are not special are added to the word that has begun. -/
theorem run_plain_of_not_special {text : List Char} (ordinary : ∀ c ∈ text, isSpecial c = false)
    (w : Word) : run (.plain (some w)) text = some ([], .plain (some (w ++ lits text))) := by
  induction text generalizing w with
  | nil => simp [run, lits]
  | cons c text ih =>
    have first : step (.plain (some w)) c = some ([], .plain (some (w ++ [.char c]))) :=
      stepPlain_of_not_special (ordinary c List.mem_cons_self) nofun
    rw [run_cons_of first, ih fun c member => ordinary c (List.mem_cons_of_mem _ member)]
    simp [lits]

/-- **A text of ordinary characters spells itself.** -/
theorem spells_of_not_special {text : List Char} (filled : text ≠ [])
    (ordinary : ∀ c ∈ text, isSpecial c = false) (comment : text.head? ≠ some '#')
    (tilde : text.head? ≠ some '~') : Spells text (lits text) := by
  cases text with
  | nil => exact absurd rfl filled
  | cons c text =>
    have start : c ≠ '#' ∧ c ≠ '~' :=
      ⟨fun same => comment (congrArg some same), fun same => tilde (congrArg some same)⟩
    have first : step (.plain none) c = some ([], .plain (some [.char c])) :=
      stepPlain_of_not_special (ordinary c List.mem_cons_self) fun _ => start
    unfold Spells
    rw [run_cons_of first,
      run_plain_of_not_special fun c member => ordinary c (List.mem_cons_of_mem _ member)]
    rfl

theorem not_special_of_safe {c : Char} (safe : isSafe c = true) :
    isSpecial c = false ∧ c ≠ '#' ∧ c ≠ '~' := by
  have unsafeChars : ('#' :: '~' :: specials).any isSafe = false := by decide
  have other : c ∉ '#' :: '~' :: specials :=
    fun member => List.any_eq_false.mp unsafeChars c member safe
  rw [List.mem_cons, List.mem_cons, not_or, not_or] at other
  obtain ⟨comment, tilde, ordinary⟩ := other
  exact ⟨by simpa [isSpecial] using ordinary, comment, tilde⟩

/-- A quoted character adds itself to the word within the quotes. -/
theorem run_quoteChar (w : Word) (c : Char) :
    run (.single w) (quoteChar c) = some ([], .single (w ++ [.char c])) := by
  unfold quoteChar
  split
  · rename_i isQuote
    subst isQuote
    rfl
  · rename_i other
    simp [run, step, other]

theorem run_flatMap_quoteChar (w : Word) (text : List Char) :
    run (.single w) (text.flatMap quoteChar) = some ([], .single (w ++ lits text)) := by
  induction text generalizing w with
  | nil => simp [run, lits]
  | cons c text ih =>
    rw [List.flatMap_cons, run_append_of (run_quoteChar w c), ih]
    simp [lits]

/-- **A quoted text is one word, the text itself.** -/
theorem spells_quote (s : String) : Spells (quote s).toList (lits s.toList) := by
  unfold quote
  split
  · rename_i empty
    subst empty
    rfl
  · rename_i filled
    split
    · rw [String.toList_ofList, List.cons_append]
      unfold Spells
      have opening : step (.plain none) '\'' = some ([], .single []) := rfl
      rw [run_cons_of opening, run_append_of (run_flatMap_quoteChar [] _)]
      rfl
    · rename_i all
      have safe : ∀ c ∈ s.toList, isSafe c = true := by simpa using all
      have ends : ∀ c, s.toList.head? = some c → isSafe c = true := fun c head =>
        safe c (List.mem_of_mem_head? head)
      refine spells_of_not_special ?_ (fun c member => (not_special_of_safe (safe c member)).1)
        (fun head => ?_) (fun head => ?_)
      · exact fun empty => filled (String.toList_eq_nil_iff.mp empty)
      · exact (not_special_of_safe (ends '#' head)).2.1 rfl
      · exact (not_special_of_safe (ends '~' head)).2.2 rfl

theorem literal_lits (s : String) : Token.literal (.word (lits s.toList)) = some s := by
  have chars : ∀ text : List Char, (lits text).mapM Piece.literal = some text := by
    intro text
    induction text with
    | nil => rfl
    | cons c text ih =>
      show (Piece.char c :: lits text).mapM Piece.literal = _
      rw [List.mapM_cons, ih]
      rfl
  show ((lits s.toList).mapM Piece.literal).map String.ofList = some s
  rw [chars, Option.map_some, String.ofList_toList]

/-- **Texts that spell these arguments**, with blanks between them, are read as the arguments. -/
theorem tokens_texts {texts args : List String} (filled : texts ≠ [])
    (spells : List.Forall₂ (fun text arg => Spells text.toList (lits arg.toList)) texts args) :
    tokens (" ".intercalate texts).toList =
      some ((args.map fun arg => lits arg.toList).map .word) := by
  rw [String.toList_intercalate]
  refine tokens_intercalate ?_ (by simpa using filled)
  rw [List.forall₂_map_left_iff, List.forall₂_map_right_iff]
  exact spells

theorem argv_intercalate {texts args : List String} (filled : texts ≠ [])
    (spells : List.Forall₂ (fun text arg => Spells text.toList (lits arg.toList)) texts args) :
    argv (" ".intercalate texts) = some args := by
  have literals : ((args.map fun arg => lits arg.toList).map Token.word).mapM Token.literal =
      some args := by
    clear filled spells texts
    induction args with
    | nil => rfl
    | cons arg args ih =>
      rw [List.map_cons, List.map_cons, List.mapM_cons, literal_lits, ih]
      rfl
  unfold argv
  rw [tokens_texts filled spells]
  exact literals

theorem spells_quotes (args : List String) :
    List.Forall₂ (fun text arg => Spells text.toList (lits arg.toList)) (args.map quote) args := by
  rw [List.forall₂_map_left_iff]
  exact List.forall₂_same.mpr fun arg _ => spells_quote arg

/-- **A quoted command is its arguments.** -/
theorem tokens_quoteCommand {args : List String} (filled : args ≠ []) :
    tokens (quoteCommand args).toList =
      some ((args.map fun arg => lits arg.toList).map .word) := by
  exact tokens_texts (by simpa using filled) (spells_quotes args)

theorem intercalate_append {sep : List Char} {first second : List (List Char)} (filled : first ≠ [])
    (filled' : second ≠ []) :
    sep.intercalate (first ++ second) = sep.intercalate first ++ sep ++ sep.intercalate second := by
  induction first with
  | nil => exact absurd rfl filled
  | cons text first ih =>
    cases first with
    | nil =>
      obtain ⟨text', second, rfl⟩ := List.exists_cons_of_ne_nil filled'
      rw [List.singleton_append, List.intercalate_cons_cons, List.intercalate_singleton]
    | cons next first =>
      rw [List.cons_append, List.cons_append, List.intercalate_cons_cons, ← List.cons_append,
        ih (List.cons_ne_nil _ _), List.intercalate_cons_cons]
      simp only [List.append_assoc]

/-- **Quoted words around one that stands for itself.** -/
theorem argv_quoteCommand_around {before after : List String} {word : String} (filled : before ≠ [])
    (filled' : after ≠ []) (spells : Spells word.toList (lits word.toList)) :
    argv (quoteCommand before ++ " " ++ word ++ " " ++ quoteCommand after) =
      some (before ++ [word] ++ after) := by
  have joined : quoteCommand before ++ " " ++ word ++ " " ++ quoteCommand after =
      " ".intercalate (before.map quote ++ [word] ++ after.map quote) := by
    refine String.toList_inj.mp ?_
    rw [String.toList_intercalate, List.map_append, List.map_append,
      intercalate_append (by simp) (by simpa using filled'),
      intercalate_append (by simpa using filled) (by simp), List.map_singleton,
      List.intercalate_singleton]
    simp only [quoteCommand, String.toList_append, String.toList_intercalate]
  rw [joined]
  refine argv_intercalate (by simp) ?_
  exact List.rel_append (List.rel_append (spells_quotes before) (.cons spells .nil))
    (spells_quotes after)

/-! ### Commands -/

theorem parseFrom_words (cur words : List Word) (ts : List Token) :
    parseFrom cur (words.map .word ++ ts) = parseFrom (cur ++ words) ts := by
  induction words generalizing cur with
  | nil => rw [List.map_nil, List.nil_append, List.append_nil]
  | cons w words ih =>
    rw [List.map_cons, List.cons_append, parseFrom, ih, List.append_assoc, List.singleton_append]

/-- The words of a command, and the operator after it. -/
theorem parseFrom_command (words : List Word) (filled : words ≠ []) {o : List Char} {k : Connector}
    (known : connector o = some k) {ts : List Token} {next : Script}
    (parsed : parseFrom [] ts = some next) :
    parseFrom [] (words.map .word ++ .op o :: ts) =
      some ⟨words, (k, next.first) :: next.rest⟩ := by
  rw [parseFrom_words, List.nil_append, parseFrom, if_neg filled, known, parsed]
  rfl

/-- The words of the last command. -/
theorem parseFrom_last (words : List Word) (filled : words ≠ []) :
    parseFrom [] (words.map .word) = some ⟨words, []⟩ := by
  have read := parseFrom_words [] words []
  rw [List.append_nil, List.nil_append] at read
  rw [read, parseFrom, if_neg filled]

/-! ### Weights -/

/-- The number of characters of a word that stand for themselves. -/
def Piece.weight : Piece → Nat
  | .char _ => 1
  | _ => 0

def wordWeight (w : Word) : Nat := (w.map Piece.weight).sum

def Token.weight : Token → Nat
  | .word w => wordWeight w
  | .op _ => 0

def tokensWeight (ts : List Token) : Nat := (ts.map Token.weight).sum

/-- The characters of the word that has begun, and a backslash that may stand for itself. -/
def Mode.weight : Mode → Nat
  | .plain cur | .escaped cur => wordWeight (cur.getD [])
  | .single w | .double w | .dollar _ w | .name _ w _ | .back _ w _ | .backEscaped _ w _ => wordWeight w
  | .doubleEscaped w => wordWeight w + 1
  | .oper _ | .comment => 0

@[simp] theorem wordWeight_nil : wordWeight [] = 0 := rfl

@[simp] theorem wordWeight_append (w w' : Word) : wordWeight (w ++ w') = wordWeight w + wordWeight w' := by
  simp [wordWeight]

@[simp] theorem wordWeight_singleton (p : Piece) : wordWeight [p] = p.weight := by
  simp [wordWeight]

@[simp] theorem tokensWeight_nil : tokensWeight [] = 0 := rfl

@[simp] theorem tokensWeight_cons (t : Token) (ts : List Token) :
    tokensWeight (t :: ts) = t.weight + tokensWeight ts := by
  simp [tokensWeight]

@[simp] theorem tokensWeight_append (ts ts' : List Token) :
    tokensWeight (ts ++ ts') = tokensWeight ts + tokensWeight ts' := by
  simp [tokensWeight]

@[simp] theorem tokensWeight_finish (cur : Option Word) :
    tokensWeight (finish cur) = wordWeight (cur.getD []) := by
  cases cur <;> simp [finish, Token.weight]

theorem wordWeight_lits (text : List Char) : wordWeight (lits text) = text.length := by
  induction text with
  | nil => rfl
  | cons c text ih =>
    have cons_ : lits (c :: text) = [.char c] ++ lits text := rfl
    rw [cons_, wordWeight_append, ih, wordWeight_singleton, List.length_cons, Piece.weight]
    omega

/-- The weight that a step leaves: what it has written, and what is in the word that has begun. -/
def left (next : List Token × Mode) : Nat := tokensWeight next.1 + next.2.weight

/-- **Outside of quotes** a character is added to the word, or is lost. -/
theorem stepPlain_weight {cur : Option Word} {c : Char} {next : List Token × Mode}
    (taken : stepPlain cur c = some next) :
    next = ([], .plain (some (cur.getD [] ++ [.char c]))) ∧ c ≠ '\'' ∨
      left next ≤ wordWeight (cur.getD []) := by
  -- what has begun is in the word, or has been written
  have begun : ∀ m : Mode, m.weight = wordWeight (cur.getD []) →
      left ([], m) ≤ wordWeight (cur.getD []) := by
    intro m same
    exact Nat.le_of_eq (by rw [left, same, tokensWeight_nil, Nat.zero_add])
  have written : ∀ (m : Mode) (ops : List Token), m.weight = 0 → tokensWeight ops = 0 →
      left (finish cur ++ ops, m) ≤ wordWeight (cur.getD []) := by
    intro m ops none_ zero
    rw [left, none_, tokensWeight_append, tokensWeight_finish, zero]
    exact Nat.le_refl _
  unfold stepPlain at taken
  by_cases blank : isBlank c = true
  · rw [if_pos blank, ← List.append_nil (finish cur)] at taken
    cases taken
    exact Or.inr (written _ [] rfl rfl)
  rw [if_neg blank] at taken
  by_cases control : isControl c = true
  · rw [if_pos control] at taken
    cases taken
    exact Or.inr (written _ _ rfl rfl)
  rw [if_neg control] at taken
  by_cases paired : isPaired c = true
  · rw [if_pos paired, ← List.append_nil (finish cur)] at taken
    cases taken
    exact Or.inr (written _ [] rfl rfl)
  rw [if_neg paired] at taken
  by_cases quote : c = '\''
  · rw [if_pos quote] at taken
    cases taken
    exact Or.inr (begun _ rfl)
  rw [if_neg quote] at taken
  by_cases doubleQuote : c = '"'
  · rw [if_pos doubleQuote] at taken
    cases taken
    exact Or.inr (begun _ rfl)
  rw [if_neg doubleQuote] at taken
  by_cases backslash : c = '\\'
  · rw [if_pos backslash] at taken
    cases taken
    exact Or.inr (begun _ rfl)
  rw [if_neg backslash] at taken
  by_cases dollar : c = '$'
  · rw [if_pos dollar] at taken
    cases taken
    exact Or.inr (begun _ rfl)
  rw [if_neg dollar] at taken
  by_cases backquote : c = '\x60'
  · rw [if_pos backquote] at taken
    cases taken
    exact Or.inr (begun _ rfl)
  rw [if_neg backquote] at taken
  by_cases redirection : c = '<' ∨ c = '>'
  · rw [if_pos redirection] at taken
    cases taken
  rw [if_neg redirection] at taken
  by_cases comment : cur = none ∧ c = '#'
  · rw [if_pos comment] at taken
    cases taken
    exact Or.inr (Nat.zero_le _)
  rw [if_neg comment] at taken
  by_cases tilde : cur = none ∧ c = '~'
  · rw [if_pos tilde] at taken
    cases taken
  rw [if_neg tilde] at taken
  cases taken
  exact Or.inl ⟨rfl, quote⟩

theorem stepPlain_weight_le {cur : Option Word} {c : Char} {next : List Token × Mode}
    (taken : stepPlain cur c = some next) : left next ≤ wordWeight (cur.getD []) + 1 := by
  rcases stepPlain_weight taken with ⟨rfl, -⟩ | lost
  · simp [left, Mode.weight, Piece.weight]
  · omega

theorem stepDouble_weight_le (w : Word) (c : Char) : (stepDouble w c).weight ≤ wordWeight w + 1 := by
  unfold stepDouble
  repeat' split
  all_goals simp [Mode.weight, Piece.weight]

/-- **One character is at most one character of a word.** -/
theorem step_weight_le {m : Mode} {c : Char} {next : List Token × Mode}
    (taken : step m c = some next) : left next ≤ m.weight + 1 := by
  cases m with
  | plain cur => exact stepPlain_weight_le taken
  | escaped cur =>
    cases taken
    split <;> simp [left, Mode.weight, Piece.weight]
  | single w =>
    cases taken
    split <;> simp [left, Mode.weight, Piece.weight]
  | double w =>
    cases taken
    rw [left, tokensWeight_nil, Nat.zero_add]
    exact stepDouble_weight_le w c
  | doubleEscaped w =>
    cases taken
    have added : wordWeight [.char '\\', .char c] = 2 := rfl
    repeat' split
    all_goals
      simp only [left, Mode.weight, tokensWeight_nil, wordWeight_append, wordWeight_singleton,
        Piece.weight, added]
      omega
  | dollar quoted w =>
    simp only [step] at taken
    split at taken
    · cases taken
      simp [left, Mode.weight]
    · cases taken
  | name quoted w name =>
    have same : wordWeight (w ++ [.param quoted name]) = wordWeight w := by
      rw [wordWeight_append]
      rfl
    simp only [step] at taken
    split at taken
    · cases taken
      simp [left, Mode.weight]
    · split at taken
      · cases taken
        rw [left, tokensWeight_nil, Nat.zero_add]
        have moved := stepDouble_weight_le (w ++ [.param quoted name]) c
        rwa [same] at moved
      · have moved := stepPlain_weight_le taken
        rwa [Option.getD_some, same] at moved
  | back quoted w body =>
    cases taken
    repeat' split
    · cases quoted <;> simp [left, resume, Mode.weight, Piece.weight]
    · simp [left, Mode.weight]
    · simp [left, Mode.weight]
  | backEscaped quoted w body =>
    cases taken
    simp [left, Mode.weight]
  | oper o =>
    simp only [step] at taken
    split at taken
    · cases taken
      simp [left, Mode.weight, Token.weight]
    · obtain ⟨inner, moved, rfl⟩ := Option.map_eq_some_iff.mp taken
      simpa [left, Mode.weight, Token.weight] using stepPlain_weight_le moved
  | comment =>
    simp only [step, Option.some.injEq] at taken
    subst taken
    split <;> simp [left, Mode.weight, Token.weight]

theorem run_cons_eq_some {m : Mode} {c : Char} {text : List Char} {last : List Token × Mode}
    (read : run m (c :: text) = some last) :
    ∃ next rest, step m c = some next ∧ run next.2 text = some rest ∧
      last = (next.1 ++ rest.1, rest.2) := by
  obtain ⟨next, moved, tail⟩ := Option.bind_eq_some_iff.mp read
  obtain ⟨rest, ran, eq⟩ := Option.bind_eq_some_iff.mp tail
  exact ⟨next, rest, moved, ran, (Option.some.inj eq).symm⟩

/-- **No character of a script is more than one character of a word.** -/
theorem run_weight_le {m : Mode} {text : List Char} {last : List Token × Mode}
    (read : run m text = some last) : left last ≤ m.weight + text.length := by
  induction text generalizing m last with
  | nil =>
    cases read
    simp [left]
  | cons c text ih =>
    obtain ⟨next, rest, moved, ran, rfl⟩ := run_cons_eq_some read
    have first := step_weight_le moved
    have others := ih ran
    simp only [left, tokensWeight_append, List.length_cons] at first others ⊢
    omega

/-- **A quote outside of quotes is lost**, or something before it is. -/
theorem run_weight_lt {cur : Option Word} {text : List Char} (quoted : '\'' ∈ text)
    {last : List Token × Mode} (read : run (.plain cur) text = some last) :
    left last < wordWeight (cur.getD []) + text.length := by
  induction text generalizing cur last with
  | nil => cases quoted
  | cons c text ih =>
    obtain ⟨next, rest, moved, ran, rfl⟩ := run_cons_eq_some read
    rcases stepPlain_weight moved with ⟨rfl, other⟩ | lost
    · have later : '\'' ∈ text := (List.mem_cons.mp quoted).resolve_left (Ne.symm other)
      have others := ih later ran
      simp only [left, Option.getD_some, wordWeight_append, wordWeight_singleton, Piece.weight,
        List.nil_append, List.length_cons] at others ⊢
      omega
    · have others := run_weight_le ran
      simp only [left, tokensWeight_append, List.length_cons] at lost others ⊢
      omega

/-- A text without quotes is taken as it is within quotes. -/
theorem run_single {text : List Char} (plain : '\'' ∉ text) (w : Word) :
    run (.single w) text = some ([], .single (w ++ lits text)) := by
  induction text generalizing w with
  | nil => simp [run, lits]
  | cons c text ih =>
    obtain ⟨other, later⟩ := not_or.mp (mt List.mem_cons.mpr plain)
    have first : step (.single w) c = some ([], .single (w ++ [.char c])) := by
      rw [step, if_neg (Ne.symm other)]
    rw [run_cons_of first, ih later]
    simp [lits]

/-- **A text with quotes does not fit between quotes**: one of its characters is lost. -/
theorem run_single_weight_lt {text : List Char} (quoted : '\'' ∈ text) {last : List Token × Mode}
    (read : run (.single []) (text ++ ['\'']) = some last) : left last < text.length := by
  obtain ⟨before, after, rfl, first⟩ := List.eq_append_cons_of_mem quoted
  have closing : step (.single (lits before)) '\'' = some ([], .plain (some (lits before))) := rfl
  rw [List.append_assoc, run_append_of (run_single first []), List.cons_append, List.nil_append,
    run_cons_of closing] at read
  obtain ⟨next, closed, rfl⟩ := Option.map_eq_some_iff.mp read
  obtain ⟨rest, ran, rfl⟩ := Option.map_eq_some_iff.mp closed
  have lost := run_weight_lt (List.mem_append_right after (List.mem_singleton_self '\'')) ran
  rw [Option.getD_some, wordWeight_lits] at lost
  simp only [left, List.nil_append, List.length_append, List.length_cons, List.length_nil] at lost ⊢
  omega

theorem final_weight {m : Mode} {ts : List Token} (ended : final m = some ts) :
    tokensWeight ts = m.weight := by
  cases m with
  | plain cur =>
    cases ended
    exact tokensWeight_finish cur
  | name quoted w name =>
    cases quoted <;> cases ended
    simp [Token.weight, Mode.weight, Piece.weight]
  | oper o =>
    cases ended
    rfl
  | comment =>
    cases ended
    rfl
  | _ => cases ended

/-- The characters of the words of the commands. -/
def commandWeight (words : List Word) : Nat := (words.map wordWeight).sum

def Script.weight (s : Script) : Nat :=
  commandWeight s.first + (s.rest.map fun next => commandWeight next.2).sum

/-- **The commands have the characters of the tokens.** -/
theorem parseFrom_weight {cur : List Word} {ts : List Token} {s : Script}
    (parsed : parseFrom cur ts = some s) : s.weight = commandWeight cur + tokensWeight ts := by
  induction ts generalizing cur s with
  | nil =>
    simp only [parseFrom] at parsed
    split at parsed
    · cases parsed
    · cases parsed
      simp [Script.weight]
  | cons t ts ih =>
    cases t with
    | word w =>
      rw [ih parsed]
      simp [commandWeight, Token.weight]
      omega
    | op o =>
      simp only [parseFrom] at parsed
      split at parsed
      · cases parsed
      · obtain ⟨k, -, parsed⟩ := Option.bind_eq_some_iff.mp parsed
        obtain ⟨next, found, parsed⟩ := Option.bind_eq_some_iff.mp parsed
        cases parsed
        have others := ih found
        simp only [Script.weight, commandWeight, List.map_nil, List.sum_nil, List.map_cons,
          List.sum_cons, tokensWeight_cons, Token.weight] at others ⊢
        omega

end Shell
