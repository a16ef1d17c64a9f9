/-
Module: Countersign.CommandLine
Purpose: The arguments that the service is started with.
Main exports: CommandLine.Arguments, CommandLine.Outcome, CommandLine.read, CommandLine.banner,
  CommandLine.usage, CommandLine.help
-/
import Countersign.Number.Numeral
import Countersign.Text.Quoted
import Countersign.Value.Display

namespace Countersign.CommandLine

open Text Numeral

/-!
A long option may be cut short as long as no other begins in the same way, and its value may follow an
equals sign or be the next argument. An argument that looks like a negative number, or that has a space
in it, is no option. Cut-short options that could mean several stop the reading before anything else is
looked at; other mistakes are told in the order in which they stand.
-/

/-- The options. -/
inductive Switch where
  | help
  | host
  | port
  | reload
  | workers
deriving DecidableEq, Repr

/-- The spellings of the options. -/
def spellings : List (String × Switch) :=
  [("-h", .help), ("--help", .help), ("--host", .host), ("--port", .port), ("--reload", .reload),
    ("--workers", .workers)]

namespace Switch

/-- The name of an option in a complaint. -/
def label : Switch → String
  | help => "-h/--help"
  | host => "--host"
  | port => "--port"
  | reload => "--reload"
  | workers => "--workers"

def takesValue : Switch → Bool
  | help => false
  | reload => false
  | _ => true

end Switch

/-- What the service is started with. -/
structure Arguments where
  host : String := "127.0.0.1"
  port : Int := 8000
  reload : Bool := false
  workers : Int := 1
deriving DecidableEq, Repr

/-- How the value of an option is attached to it, if it is. -/
inductive Attachment where
  | nothing
  | equals (s : String)
  | joined (s : String)
deriving DecidableEq, Repr

/-- What an argument is. -/
inductive Token where
  | plain (s : String)
  | separator
  | known (switch : Switch) (spelling : String) (attached : Attachment)
  | unknown (s : String)
deriving DecidableEq, Repr

/-- A text before and after its first equals sign, if it has one. -/
def splitEquals? (s : String) : Option (String × String) :=
  let cs := s.toList
  if cs.contains '=' then
    some (String.ofList (cs.takeWhile (· != '=')), String.ofList ((cs.dropWhile (· != '=')).drop 1))
  else none

/-- The options that a cut-short spelling may mean, each with its spelling and what is attached. -/
def meanings (s : String) : List (Switch × String × Attachment) :=
  let begins (part whole : String) : Bool := part.toList.isPrefixOf whole.toList
  if begins "--" s then
    let (part, attached) :=
      match splitEquals? s with
      | some (part, attached) => (part, Attachment.equals attached)
      | none => (s, .nothing)
    (spellings.filter fun (spelling, _) => begins part spelling).map
      fun (spelling, switch) => (switch, spelling, attached)
  else
    let short := String.ofList (s.toList.take 2)
    let rest := String.ofList (s.toList.drop 2)
    spellings.filterMap fun (spelling, switch) =>
      if spelling = short then some (switch, spelling, .joined rest)
      else if begins s spelling then some (switch, spelling, .nothing)
      else none

def isDigitOfAnyScript (c : Char) : Bool := (digitValue? c).isSome

/-- A text without the end of a line behind it. -/
def withoutLineEnd (s : String) : List Char :=
  let cs := s.toList
  if cs.getLast? == some '\n' then cs.dropLast else cs

/-- Whether a text is a minus sign and digits, with or without a point before the last of them. It may end
a line. -/
def isNegativeNumber (s : String) : Bool :=
  match withoutLineEnd s with
  | '-' :: rest =>
      let whole := rest.takeWhile isDigitOfAnyScript
      match rest.dropWhile isDigitOfAnyScript with
      | [] => !whole.isEmpty
      | '.' :: places => !places.isEmpty && places.all isDigitOfAnyScript
      | _ => false
  | _ => false

/-- Tell what an argument is, or which options it could mean. -/
def classify (s : String) : Except String Token :=
  if !("-".toList.isPrefixOf s.toList) then .ok (.plain s)
  else match spellings.lookup s with
  | some switch => .ok (.known switch s .nothing)
  | none =>
    if s.length = 1 then .ok (.plain s)
    else
      let spelledOut := (splitEquals? s).bind fun (spelling, attached) =>
        (spellings.lookup spelling).map fun switch => Token.known switch spelling (.equals attached)
      match spelledOut, meanings s with
      | some token, _ => .ok token
      | none, [(switch, spelling, attached)] => .ok (.known switch spelling attached)
      | none, [] =>
          if isNegativeNumber s || s.toList.contains ' ' then .ok (.plain s) else .ok (.unknown s)
      | none, several =>
          .error (s!"ambiguous option: {s} could match "
            ++ ", ".intercalate (several.map fun (_, spelling, _) => spelling))

/-- Tell what all arguments are. Behind two hyphens there are no options. -/
def classifyAll : List String → Except String (List Token)
  | [] => .ok []
  | s :: rest =>
      if s = "--" then .ok (.separator :: rest.map .plain)
      else do
        let token ← classify s
        let tokens ← classifyAll rest
        return token :: tokens

/-- What the arguments ask for. -/
inductive Outcome where
  | serve (arguments : Arguments)
  | help
  | wrong (complaint : String)
deriving DecidableEq, Repr

def about (switch : Switch) (complaint : String) : String :=
  s!"argument {switch.label}: {complaint}"

def tooMuch (switch : Switch) (attached : String) : Outcome :=
  .wrong (about switch s!"ignored explicit argument {quoted attached}")

/-- Set an option to a value. -/
def Arguments.assign (arguments : Arguments) (switch : Switch) (s : String) :
    Except String Arguments :=
  let number (f : Int → Arguments) : Except String Arguments :=
    match readInteger? s with
    | some n => .ok (f n)
    | none => .error (about switch s!"invalid int value: {quoted s}")
  match switch with
  | .host => .ok { arguments with host := s }
  | .port => number fun port => { arguments with port }
  | .workers => number fun workers => { arguments with workers }
  | _ => .ok arguments

/-- What letters behind the short spelling of help ask for: help, if each of them is help too. -/
def afterShortHelp (switch : Switch) : List Char → Outcome
  | [] => .help
  | 'h' :: rest => afterShortHelp switch rest
  | rest => tooMuch switch (String.ofList rest)

/-- What a text attached to a switch without a value asks for. -/
def afterEquals (switch : Switch) (spelling attached : String) : Outcome :=
  if spelling = "-h" ∧ attached ≠ "" then afterShortHelp switch attached.toList
  else tooMuch switch attached

/-- Follow the arguments, given what was set before and what nobody asked for. -/
def follow (arguments : Arguments) (extra : List String) : List Token → Outcome
  | [] =>
      if extra.isEmpty then .serve arguments
      else .wrong ("unrecognized arguments: " ++ " ".intercalate extra)
  | .plain s :: rest => follow arguments (extra ++ [s]) rest
  | .separator :: rest => follow arguments (extra ++ ["--"]) rest
  | .unknown s :: rest => follow arguments (extra ++ [s]) rest
  | .known switch spelling (.equals attached) :: rest =>
      if switch.takesValue then
        match arguments.assign switch attached with
        | .ok arguments => follow arguments extra rest
        | .error complaint => .wrong complaint
      else afterEquals switch spelling attached
  | .known switch _ (.joined attached) :: _ => afterShortHelp switch attached.toList
  | .known .help _ .nothing :: _ => .help
  | .known .reload _ .nothing :: rest => follow { arguments with reload := true } extra rest
  | .known switch _ .nothing :: .plain s :: rest =>
      match arguments.assign switch s with
      | .ok arguments => follow arguments extra rest
      | .error complaint => .wrong complaint
  | .known switch _ .nothing :: _ => .wrong (about switch "expected one argument")

/-- Read the arguments. -/
def read (given : List String) : Outcome :=
  match classifyAll given with
  | .ok tokens => follow {} [] tokens
  | .error complaint => .wrong complaint

/-- The number of processes that serve: one when they are to be reloaded. -/
def Arguments.processes (arguments : Arguments) : Int :=
  if arguments.reload then 1 else arguments.workers

/-- What is printed when the service starts. -/
def banner (arguments : Arguments) : List String :=
  ["Starting Trade Approval Engine API server...", s!"  Host: {arguments.host}",
    s!"  Port: {arguments.port}", s!"  Reload: {Value.boolName arguments.reload}"]
    ++ (if !arguments.reload && 1 < arguments.workers then [s!"  Workers: {arguments.workers}"]
      else [])
    ++ [""]

def usage (program : String) : String :=
  s!"usage: {program} [-h] [--host HOST] [--port PORT] [--reload] [--workers WORKERS]"

/-- What is printed on demand. -/
def help (program : String) : List String :=
  [usage program, "", "Run the Trade Approval Engine API server", "", "options:",
    "  -h, --help         show this help message and exit",
    "  --host HOST        Host to bind to (default: 127.0.0.1)",
    "  --port PORT        Port to bind to (default: 8000)",
    "  --reload           Enable auto-reload for development",
    "  --workers WORKERS  Number of worker processes (default: 1, ignored if",
    "                     --reload is set)"]

/-- The line that tells of a mistake. -/
def complaintLine (program complaint : String) : String := s!"{program}: error: {complaint}"

end Countersign.CommandLine
