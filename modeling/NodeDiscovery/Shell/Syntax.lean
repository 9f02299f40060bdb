import NodeDiscovery.Shell.Text

/-! Command lines of the shell as trees. -/
namespace NodeDiscovery.Shell

inductive Change
  | none
  /-- Another text instead, if the parameter is unset, or if it is unset or empty. -/
  | orElse (evenEmpty : Bool)
  | assign (evenEmpty : Bool)
  | complain (evenEmpty : Bool)
  /-- Another text instead, if the parameter is set, or if it is not empty. -/
  | ifSet (evenEmpty : Bool)
  /-- The value without the shortest or longest match of a pattern at its beginning or end. -/
  | trimStart (longest : Bool)
  | trimEnd (longest : Bool)
  | length
  /-- There is no such change. -/
  | bad
deriving DecidableEq, Repr

inductive RedirectionKind
  | input
  | output
  /-- Output, also to a file that is not to be lost. -/
  | overwriting
  | addition
  | update
  | duplicate
  /-- From a text in the script. -/
  | document (number : Nat)
deriving DecidableEq, Repr

mutual

/-- A part of a word. Quoted parts are not split into fields and match only themselves. -/
inductive Piece
  | text (text : Text) (quoted : Bool)
  /-- A quote, which keeps an empty field. -/
  | mark
  | parameter (name : Text) (change : Change) (word : List Piece) (quoted : Bool)
  | substitution (body : Command) (quoted : Bool)
  | arithmetic (expression : List Piece) (quoted : Bool)

inductive Redirection
  | mk (kind : RedirectionKind) (descriptor : Nat) (target : List Piece)

inductive Command
  | nothing
  | simple (line : Nat) (assignments : List (Text × List Piece)) (words : List (List Piece))
      (redirections : List Redirection)
  | sequence (first second : Command)
  | and (first second : Command)
  | or (first second : Command)
  | not (command : Command)
  | pipeline (stages : List Command) (inBackground : Bool)
  | background (line : Nat) (command : Command) (redirections : List Redirection)
  | subshell (line : Nat) (body : Command) (redirections : List Redirection)
  | redirected (line : Nat) (command : Command) (redirections : List Redirection)
  | ifElse (condition body otherwise : Command)
  | loop (isUntil : Bool) (condition body : Command)
  | for_ (line : Nat) (name : Text) (words : List (List Piece)) (body : Command)
  | case_ (line : Nat) (subject : List Piece) (arms : List (List (List Piece) × Command))
  | function (line : Nat) (name : Text) (body : Command)

end

abbrev Word := List Piece

namespace Word

/-- The text of a word in which nothing is quoted and nothing is to be expanded. -/
def plain? : Word → Option Text
  | [] => some []
  | [.text t false] => some t
  | _ => none

def assignment? : Word → Option (Text × Word)
  | .text t false :: rest =>
    let name := t.takeWhile isNamePart
    match t.dropWhile isNamePart with
    | '=' :: value =>
      if isName name then some (name, if value.isEmpty then rest else .text value false :: rest)
      else none
    | _ => none
  | _ => none

end Word
end NodeDiscovery.Shell
