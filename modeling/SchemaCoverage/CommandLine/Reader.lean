import SchemaCoverage.CommandLine.Options
/-!
Reading a command line. Values that wait for more words are taken into the draft when something
else begins, so that the first fault in the order of the words is the one that is told, except
that an unknown option is told at once.
-/
namespace SchemaCoverage.CommandLine

/-- What waits for more words. -/
inductive Pending
  | nothing
  /-- An option with the value that follows it, once that is read. -/
  | option (option : ValueOption) (value : Option String)
  /-- Schema paths that follow one another. -/
  | paths (paths : List String)
deriving Repr, DecidableEq

namespace Draft

/-- Takes what waited into the draft. -/
def settle (draft : Draft) : Pending → Except Refusal Draft
  | .nothing => .ok draft
  | .option _ none => .error .invalidValue
  | .option option (some value) => draft.set value option
  | .paths paths => draft.addPaths paths

/-- Takes the last words, none of which is an option. -/
def takeAll (draft : Draft) (pending : Pending) (words : List String) : Except Refusal Draft :=
  match pending, words with
  | pending, [] => draft.settle pending
  | .paths paths, words => draft.addPaths (paths ++ words)
  | pending, words => do (← draft.settle pending).addPaths words

/-- Begins an option that is known, with a value that comes in the same word. -/
def beginOption (draft : Draft) (pending : Pending) (option : KnownOption)
    (value : Option String) : Except Refusal (Draft × Pending) :=
  match option, value with
  | .help, none => do
      let _ ← draft.settle pending
      .error .helpWanted
  | .allowGaps, none => do return (← (← draft.settle pending).setAllowGaps, .nothing)
  | .valued option, none => do return (← draft.settle pending, .option option none)
  | .valued option, some value => do
      return (← (← draft.settle pending).set value option, .nothing)
  | _, some _ => .error .unneededValue

/-- The value that comes in the same word as the letter of an option. -/
def attachedValue : List Char → Option String
  | [] => none
  | '=' :: value => some (String.ofList value)
  | value => some (String.ofList value)

/-- Begins the options of some letters. The first letter that takes a value takes the rest of the
word. -/
def beginLetters (draft : Draft) (pending : Pending) : List Char →
    Except Refusal (Draft × Pending)
  | [] => .ok (draft, pending)
  | letter :: rest =>
      match KnownOption.ofLetter? letter with
      | none => .error .unknownArgument
      | some (.valued option) => draft.beginOption pending (.valued option) (attachedValue rest)
      | some option => do
          let (draft, pending) ← draft.beginOption pending option none
          beginLetters draft pending rest

/-- A plain word is the value of an option that waits for one, or else a schema path. -/
def takePlain (draft : Draft) (pending : Pending) (word : String) :
    Except Refusal (Draft × Pending) :=
  match pending with
  | .option option none => .ok (draft, .option option (some word))
  | .paths paths => .ok (draft, .paths (paths ++ [word]))
  | pending => do return (← draft.settle pending, .paths [word])

/-- Reads the words after the name of the command. -/
def read (draft : Draft) (pending : Pending) : List String → Except Refusal Draft
  | [] => draft.settle pending
  | word :: words =>
      match Word.ofString word with
      | .divider => draft.takeAll pending words
      | .plain => do
          let (draft, pending) ← draft.takePlain pending word
          read draft pending words
      | .short letters => do
          let (draft, pending) ← draft.beginLetters pending letters
          read draft pending words
      | .long name value =>
          match KnownOption.ofName? name with
          | none => .error .unknownArgument
          | some option => do
              let (draft, pending) ← draft.beginOption pending option value
              read draft pending words

end Draft

namespace InspectOptions

/-- Reads the words after the name of the command. -/
def read (words : List String) : Except Refusal InspectOptions := do
  (← Draft.empty.read .nothing words).finish

end InspectOptions

namespace Invocation

/-- The names of the commands. -/
def commands : List String := ["inspect", "help"]

/-- What the words after `help` lead to: help on one known command at most. -/
def readHelp : List String → Refusal
  | [] => .helpWanted
  | [command] => if command ∈ commands then .helpWanted else .unknownCommand
  | _ => .unknownCommand

/-- Asks for much to be told, once. -/
def setVerbose (verbose : Bool) : Except Refusal Bool :=
  if verbose then .error .repeatedOption else .ok true

/-- Begins the options of some letters. -/
def readLetters (verbose : Bool) : List Char → Except Refusal Bool
  | [] => .ok verbose
  | 'h' :: _ => .error .helpWanted
  | 'V' :: _ => .error .versionWanted
  | 'v' :: rest => do readLetters (← setVerbose verbose) rest
  | _ => .error .unknownArgument

/-- Begins the option of a long name. -/
def readLong (verbose : Bool) : String → Option String → Except Refusal Bool
  | "help", none => .error .helpWanted
  | "version", none => .error .versionWanted
  | "verbose", none => setVerbose verbose
  | name, some _ =>
      .error (if name ∈ ["help", "version", "verbose"] then .unneededValue else .unknownArgument)
  | _, none => .error .unknownArgument

/-- Reads the words up to a command and hands the others on to it. -/
def readFrom (verbose : Bool) : List String → Except Refusal Invocation
  | [] => .ok ⟨verbose, none⟩
  | word :: words =>
      if word = "help" then .error (readHelp words)
      else if word = "inspect" then do return ⟨verbose, some (← InspectOptions.read words)⟩
      else
        match Word.ofString word with
        | .plain => .error .unknownCommand
        | .divider =>
            match words with
            | [] => .ok ⟨verbose, none⟩
            | next :: _ =>
                .error (if next ∈ commands then .unknownArgument else .unknownCommand)
        | .short letters => do readFrom (← readLetters verbose letters) words
        | .long name value => do readFrom (← readLong verbose name value) words

/-- Reads a command line, without the name of the program. -/
def read (words : List String) : Except Refusal Invocation :=
  readFrom false words

end Invocation

end SchemaCoverage.CommandLine
