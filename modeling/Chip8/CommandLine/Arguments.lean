/-!
# Command line arguments

A command line is a list of words.  A word that begins with two dashes names an option in full, and
may carry its value behind an equals sign; a word that begins with one dash holds options of one
letter each, of which the last may take the rest of the word as its value; a single dash and any
other word stand for themselves.  A value that is not joined to its option is the next word, with
whatever it begins.  Two dashes alone end the options.

## What is here

* `ArgumentError` — what can be wrong with a command line, and its wording.
* `Choice` — an option: its names and what it does to the settings.
* `count` — a number given as a value.
* `Interface` — the options and words that a program understands, and `Interface.read`, the settings
  that a command line asks for.
-/

set_option autoImplicit false

namespace Chip8.CommandLine

/-! ## Errors -/

/-- What can be wrong with a command line.  Options are given as they were written. -/
inductive ArgumentError where
  /-- A word that must be there is not. -/
  | missingFree
  /-- There is no place for this word. -/
  | unexpectedFree (word : String)
  /-- There is no such option. -/
  | unrecognized (option : String)
  /-- The option needs a value and there is none. -/
  | missingValue (option : String)
  /-- The option takes no value and has one. -/
  | unexpectedValue (option : String)
  /-- The option cannot take this value. -/
  | invalidValue (option reason : String)
  deriving DecidableEq, Repr

/-- The error in words. -/
def ArgumentError.message : ArgumentError → String
  | .missingFree => "missing required free argument"
  | .unexpectedFree word => "unexpected free argument `" ++ word ++ "`"
  | .unrecognized option => "unrecognized option `" ++ option ++ "`"
  | .missingValue option => "missing argument to option `" ++ option ++ "`"
  | .unexpectedValue option => "option `" ++ option ++ "` does not accept an argument"
  | .invalidValue option reason => "invalid argument to option `" ++ option ++ "`: " ++ reason

/-! ## Numbers -/

/-- The value of a decimal digit. -/
def decimalDigit? (c : Char) : Option Nat :=
  if c.isDigit then some (c.toNat - '0'.toNat) else none

/-- Reads digits behind a number; at each place a character that is no digit is found out before a
number that has become too large. -/
def countFrom (bound n : Nat) : List Char → Except String Nat
  | [] => .ok n
  | c :: rest =>
    match decimalDigit? c with
    | none => .error "invalid digit found in string"
    | some d =>
      if 10 * n + d < bound then countFrom bound (10 * n + d) rest
      else .error "number too large to fit in target type"

/-- A number below `bound`, written in digits with or without a plus sign. -/
def count (bound : Nat) (s : String) : Except String Nat :=
  match s.toList with
  | [] => .error "cannot parse integer from empty string"
  | '+' :: c :: rest => countFrom bound 0 (c :: rest)
  | digits => countFrom bound 0 digits

/-! ## Options -/

/-- What an option does to settings of type `σ`. -/
inductive Effect (σ : Type) where
  /-- The option is on or off. -/
  | flag (set : σ → σ)
  /-- The option takes a value, which may be refused with a reason. -/
  | value (set : String → σ → Except String σ)

/-- An option: its long name, its letter if it has one, and what it does. -/
structure Choice (σ : Type) where
  /-- The name behind two dashes. -/
  long : String
  /-- The letter behind one dash. -/
  short : Option Char
  /-- What the option does. -/
  effect : Effect σ

/-- A command line interface: options, and what a free word does. -/
structure Interface (σ : Type) where
  /-- The options. -/
  choices : List (Choice σ)
  /-- What a free word does to the settings; `none` if there is no place for it. -/
  free : String → σ → Option σ

/-- A word of the command line by its beginning. -/
inductive Argument where
  /-- The end of the options. -/
  | stop
  /-- The long name of an option. -/
  | long (name : String)
  /-- The long name of an option with a value. -/
  | longWith (name value : String)
  /-- Letters of options. -/
  | letters (cs : List Char)
  /-- A word that stands for itself. -/
  | free (word : String)
  deriving DecidableEq, Repr

/-- Tells what kind of word a word is. -/
def Argument.ofString (s : String) : Argument :=
  match s.toList with
  | ['-', '-'] => .stop
  | '-' :: '-' :: rest =>
    match rest.dropWhile (· != '=') with
    | [] => .long (.ofList rest)
    | _ :: value => .longWith (.ofList (rest.takeWhile (· != '='))) (.ofList value)
  | '-' :: c :: cs => .letters (c :: cs)
  | _ => .free s

variable {σ : Type}

/-- Puts a free word in its place. -/
def Interface.takeFree (i : Interface σ) (s : σ) (word : String) : Except ArgumentError σ :=
  match i.free word s with
  | some s => .ok s
  | none => .error (.unexpectedFree word)

/-- Gives an option its value. -/
def giveValue (option : String) (set : String → σ → Except String σ) (value : String) (s : σ) :
    Except ArgumentError σ :=
  match set value s with
  | .ok s => .ok s
  | .error reason => .error (.invalidValue option reason)

/-- Reads the letters left of a word and then the words left of a command line. -/
def Interface.readFrom (i : Interface σ) (letters : List Char) (words : List String) (s : σ) :
    Except ArgumentError σ :=
  match letters with
  | c :: cs =>
    let option := String.ofList ['-', c]
    match i.choices.find? fun choice => choice.short == some c with
    | none => .error (.unrecognized option)
    | some ⟨_, _, .flag set⟩ => i.readFrom cs words (set s)
    | some ⟨_, _, .value set⟩ =>
      match cs, words with
      | [], [] => .error (.missingValue option)
      | [], word :: rest =>
        match giveValue option set word s with
        | .error e => .error e
        | .ok s => i.readFrom [] rest s
      | d :: ds, words =>
        match giveValue option set (.ofList (d :: ds)) s with
        | .error e => .error e
        | .ok s => i.readFrom [] words s
  | [] =>
    match words with
    | [] => .ok s
    | word :: rest =>
      match Argument.ofString word with
      | .stop => rest.foldlM i.takeFree s
      | .letters cs => i.readFrom cs rest s
      | .free word =>
        match i.takeFree s word with
        | .error e => .error e
        | .ok s => i.readFrom [] rest s
      | .long name =>
        match i.choices.find? fun choice => choice.long == name with
        | none => .error (.unrecognized ("--" ++ name))
        | some ⟨_, _, .flag set⟩ => i.readFrom [] rest (set s)
        | some ⟨_, _, .value set⟩ =>
          match rest with
          | [] => .error (.missingValue ("--" ++ name))
          | value :: rest =>
            match giveValue ("--" ++ name) set value s with
            | .error e => .error e
            | .ok s => i.readFrom [] rest s
      | .longWith name value =>
        match i.choices.find? fun choice => choice.long == name with
        | none => .error (.unrecognized ("--" ++ name))
        | some ⟨_, _, .flag _⟩ => .error (.unexpectedValue ("--" ++ name))
        | some ⟨_, _, .value set⟩ =>
          match giveValue ("--" ++ name) set value s with
          | .error e => .error e
          | .ok s => i.readFrom [] rest s
termination_by (words.length, letters.length)

/-- The settings that a command line asks for, on top of those given. -/
def Interface.read (i : Interface σ) (words : List String) (s : σ) : Except ArgumentError σ :=
  i.readFrom [] words s

end Chip8.CommandLine
