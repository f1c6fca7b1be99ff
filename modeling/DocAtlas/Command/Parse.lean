-- SUMMARY: Reading a command line into a command, or into a complaint.
import DocAtlas.Command.Basic
import DocAtlas.Command.Complaint
import DocAtlas.Site.Basic
import DocAtlas.Text.Similarity

/-! # Reading a command line

Words are read from the left, first those of the program and then those of the
command. An option waits for its value until the next word; what it was given is
judged when the next argument is read, or at the end of its level. The command's
words are judged before what still waits on the level of the program. -/

namespace DocAtlas.Command

open Text.Similarity (similar)

/-! ## What has been read of a level -/

/-- What has been read of a level. -/
structure Progress where
  /-- The arguments given so far with their values, in order. -/
  given : List (Arg × String) := []
  /-- The argument whose value has not been judged, and the value once it is read. -/
  pending : Option (Arg × Option String) := none
  /-- Whether the value by its place has been read. -/
  placed : Bool := false

namespace Progress

def value? (p : Progress) (id : ArgId) : Option String :=
  (p.given.find? (·.1.id = id)).map (·.2)

def has (p : Progress) (id : ArgId) : Bool := (p.value? id).isSome

/-- The arguments given so far. -/
def args (p : Progress) : List Arg := p.given.map (·.1)

/-- Whether the next word is the value of an option. -/
def waits (p : Progress) : Bool :=
  match p.pending with
  | some (_, none) => true
  | _ => false

/-- The complaint about the value of an argument, if it has a fault. -/
def judge (a : Arg) (value : String) : Option Complaint :=
  if a.value.isNone then none
  else if !a.choices.isEmpty then
    if value ∈ a.choices then none
    else some (.invalidValue a value a.choices (similar value a.choices).getLast?)
  else if value = "" then some (.invalidValue a "" [] none)
  else none

/-- Takes in an argument with its value; a faulty one counts as given. -/
def take (l : Level) (p : Progress) (a : Arg) (value : String) : Progress × Option Complaint :=
  if p.has a.id then
    ({ p with given := p.given.filter (·.1.id ≠ a.id) }, some (.repeated a l.usage))
  else ({ p with given := p.given ++ [(a, value)] }, judge a value)

/-- Takes in the argument that waits to be judged. -/
def settled (l : Level) (p : Progress) : Progress × Option Complaint :=
  let q := { p with pending := none }
  match p.pending with
  | none => (q, none)
  | some (a, none) => (q, some (.invalidValue a "" a.choices none))
  | some (a, some value) => q.take l a value

/-- Takes in the argument that waits to be judged, or complains about it. -/
def settle (l : Level) (p : Progress) : Except Complaint Progress :=
  match p.settled l with
  | (p, none) => .ok p
  | (_, some c) => .error c

/-- Takes in an argument after the one that waits. -/
def give (l : Level) (p : Progress) (a : Arg) (value : String) : Except Complaint Progress := do
  match (← p.settle l).take l a value with
  | (p, none) => .ok p
  | (_, some c) => .error c

/-- Lets an option wait for its value. -/
def await (l : Level) (p : Progress) (a : Arg) : Except Complaint Progress := do
  return { ← p.settle l with pending := some (a, none) }

/-- Takes in a flag; those for help and for the version end the reading. -/
def giveFlag (l : Level) (p : Progress) (a : Arg) : Except Complaint Progress := do
  match a.id with
  | .help =>
    let _ ← p.settle l
    .error (.help l)
  | .version =>
    let _ ← p.settle l
    .error .version
  | _ => p.give l a "true"

end Progress

/-! ## Unknown words -/

/-- The command among the words to come that has an option like the given name: the place of the
command, the option and the command. -/
def optionElsewhere (name : String) (rest : List String) (v : Verb) :
    Option (Nat × String × Verb) := do
  let long ← (similar name (Level.ofVerb v).longNames).getLast?
  let index ← rest.findIdx? (· = v.name)
  return (index, long, v)

/-- The one with the lowest place, the first of equals. -/
def nearest : List (Nat × String × Verb) → Option (Nat × String × Verb)
  | [] => none
  | x :: rest =>
    match nearest rest with
    | some y => if y.1 < x.1 then some y else some x
    | none => some x

/-- The tip to write a word that looks like an option behind the mark `--`. -/
def valueTip (l : Level) (word : String) : List String :=
  if l.operand.isSome then
    ["to pass " ++ Complaint.quotedWord word ++ " as a value, use "
      ++ Complaint.quotedWord ("-- " ++ word)]
  else []

/-- The complaint about an unknown long option. -/
def unknownLong (l : Level) (p : Progress) (name : String) (rest : List String) : Complaint :=
  let word := "--" ++ name
  let given := (p.settled l).1.args
  match (similar name l.longNames).getLast? with
  | some long =>
    .unknownArgument word (some ("--" ++ long)) [] (l.usageWith (given ++ (l.long? long).toList))
  | none =>
    match nearest (l.verbs.filterMap (optionElsewhere name rest)) with
    | some (_, long, v) =>
      .unknownArgument word none [Complaint.quotedWord (v.name ++ " --" ++ long) ++ " exists"]
        (l.usageWith given)
    | none => .unknownArgument word none (valueTip l word) (l.usageWith given)

/-- The complaint about a word that has no place. -/
def unknownWord (l : Level) (trailing : Bool) (word : String) : Complaint :=
  if trailing && (l.verb? word).isSome then
    .unknownArgument word none
      ["subcommand " ++ Complaint.quotedWord word
        ++ " exists; to use it, remove the '--' before it"] l.usage
  else if l.verbs.isEmpty then .unknownArgument word none [] l.usage
  else .unknownCommand word (similar word Verb.names) l.usage

/-- The answer to the command for help: the page of the level that the words name. -/
def explain (l : Level) : List String → Complaint
  | [] => .help l
  | word :: rest =>
    match l.verb? word with
    | some v => explain (Level.ofVerb v) rest
    | none => .unknownCommand word [] l.usage

/-! ## Words -/

/-- What a word looks like. -/
inductive Word where
  /-- The mark `--`, after which all words are values. -/
  | mark
  | long (name : String) (value : Option String)
  | short (flags : List Char)
  | plain

/-- The name and the value of a long option. -/
def Word.ofLong (body : List Char) : Word :=
  match body.dropWhile (· ≠ '=') with
  | _ :: value => long (String.ofList (body.takeWhile (· ≠ '='))) (some (String.ofList value))
  | [] => long (String.ofList body) none

def Word.of (word : String) : Word :=
  match word.toList with
  | ['-', '-'] => mark
  | '-' :: '-' :: body => ofLong body
  | ['-'] => plain
  | '-' :: flags => short flags
  | _ => plain

/-- Reads a long option. -/
def readLong (l : Level) (p : Progress) (name : String) (value : Option String)
    (rest : List String) : Except Complaint Progress :=
  match l.long? name with
  | none => .error (unknownLong l p name rest)
  | some a =>
    if a.value.isSome then
      match value with
      | some v => p.give l a v
      | none => p.await l a
    else
      match value with
      | some v => .error (.unneededValue a v (l.usageWith (p.args ++ [a])))
      | none => p.giveFlag l a

/-- Reads a group of short options; the first with a value takes all that follows. -/
def readShort (l : Level) (p : Progress) : List Char → Except Complaint Progress
  | [] => .ok p
  | c :: flags =>
    match l.short? c with
    | none =>
      let word := String.ofList ['-', c]
      .error (.unknownArgument word none (valueTip l word) l.usage)
    | some a =>
      if a.value.isSome then
        match flags with
        | [] => p.await l a
        | '=' :: value => p.give l a (String.ofList value)
        | value => p.give l a (String.ofList value)
      else do readShort l (← p.giveFlag l a) flags

/-- Reads a value by its place. -/
def readPlain (l : Level) (trailing : Bool) (p : Progress) (word : String) :
    Except Complaint Progress :=
  match l.operand, p.placed with
  | some a, false => do
    return { ← p.settle l with pending := some (a, some word), placed := true }
  | _, _ => .error (unknownWord l trailing word)

/-- Reads the words of a level up to the command, if one follows; gives the command and the words
after it. -/
def readLevel (l : Level) : (trailing : Bool) → Progress → List String →
    Except Complaint (Progress × Option (Verb × List String))
  | _, p, [] => .ok (p, none)
  | true, p, word :: rest => do readLevel l true (← readPlain l true p word) rest
  | false, p, word :: rest =>
    match if p.waits then none else l.verb? word with
    | some .help => .error (explain l rest)
    | some v => .ok (p, some (v, rest))
    | none =>
      match Word.of word with
      | .mark => readLevel l true p rest
      | .long name value => do readLevel l false (← readLong l p name value rest) rest
      | .short flags => do readLevel l false (← readShort l p flags) rest
      | .plain =>
        match p.pending with
        | some (a, none) => readLevel l false { p with pending := some (a, some word) } rest
        | _ => do readLevel l false (← readPlain l false p word) rest

/-! ## Commands -/

def colourOf : Option String → ColourChoice
  | some "always" => .always
  | some "never" => .never
  | _ => .auto

def checkOptionsOf (p : Progress) : CheckOptions :=
  { warnOnly := p.has .warnOnly, verbose := p.has .verbose }

/-- The task that a command's words ask for. -/
def taskOf (v : Verb) (p : Progress) : Task :=
  match v with
  | .init => .init (p.value? .name) (p.has .dry)
  | .check => .check (checkOptionsOf p)
  | .build => .build (checkOptionsOf p) (p.value? .output)
  | .print | .help => .print

/-- Reads a command line, without the name of the program. -/
def parse (words : List String) : Except Complaint Command := do
  match ← readLevel .program false {} words with
  | (top, none) =>
    let top ← top.settle .program
    .error (if top.given.isEmpty then .nothingAsked else .missingCommand)
  | (top, some (v, rest)) =>
    let level := Level.ofVerb v
    let (own, _) ← readLevel level false {} rest
    let own ← own.settle level
    let top ← top.settle .program
    return {
      colour := colourOf ((own.value? .color).or (top.value? .color))
      config := (top.value? .config).getD Site.defaultFile
      task := taskOf v own }

end DocAtlas.Command
