/-!
# Scripts

The commands of the shell language and the words they are made of, as trees. A word is a
row of pieces: text, and what is put in its place when the word is used.
-/

namespace PodMesh.Host.Shell

/-- What is done to the value of a parameter, given a word. -/
inductive Change where
  | plain
  | length
  /-- The word stands in for a value that is missing, or also for one that is empty. -/
  | default (orEmpty : Bool)
  /-- So it does, and the parameter gets it. -/
  | assign (orEmpty : Bool)
  /-- The word is the complaint about a value that is missing, or also about an empty one. -/
  | complain (orEmpty : Bool)
  /-- The word stands in for a value that is there, or only for one that is not empty. -/
  | replace (notEmpty : Bool)
  /-- The word is a pattern for what is cut off in front: as little as possible or as much. -/
  | cutStart (longest : Bool)
  | cutEnd (longest : Bool)
  /-- Something that is no change. -/
  | bad
  deriving DecidableEq, Repr

/-- How a redirection opens what its word names. -/
inductive Opening where
  | read
  | write
  /-- Also where a file is not to be lost by writing. -/
  | overwrite
  | append
  | both
  deriving DecidableEq, Repr

mutual

/-- A piece of a word. What is put in its place does not fall into fields where it is quoted. -/
inductive Piece where
  | text (chars : List Char) (quoted : Bool)
  | parameter (name : String) (change : Change) (word : List Piece) (quoted : Bool)
  /-- What a command prints. -/
  | substitution (body : Command) (quoted : Bool)
  /-- The value of an arithmetic expression. -/
  | arithmetic (expression : List Piece) (quoted : Bool)

/-- A redirection of a descriptor. -/
inductive Redirection where
  | file (descriptor : Nat) (opening : Opening) (name : List Piece)
  /-- What another descriptor leads to; a dash closes. -/
  | copy (descriptor : Nat) (word : List Piece)
  /-- Text that stands in the script. -/
  | document (descriptor : Nat) (text : List Piece)

/-- A value for a variable. -/
inductive Assignment where
  | mk (name : String) (value : List Piece)

/-- A command. Some know the line of the script that they stand on. -/
inductive Command where
  /-- Does nothing and succeeds. -/
  | skip
  | simple (line : Nat) (assignments : List Assignment) (words : List (List Piece))
      (redirections : List Redirection)
  | redirected (line : Nat) (a : Command) (redirections : List Redirection)
  | pipe (a b : Command)
  | not (a : Command)
  | and (a b : Command)
  | or (a b : Command)
  | seq (a b : Command)
  /-- Runs while what follows goes on. -/
  | background (a : Command)
  | choose (condition yes no : Command)
  /-- Repeats as long as the condition comes out as `goOn`. -/
  | loop (condition : Command) (goOn : Bool) (body : Command)
  /-- Without words, the arguments of the script are gone through. -/
  | forEach (line : Nat) (name : String) (words : Option (List (List Piece))) (body : Command)
  | select (line : Nat) (word : List Piece) (branches : List Branch)
  | subshell (line : Nat) (a : Command)
  /-- Gives a name to a command. -/
  | define (line : Nat) (name : String) (body : Command)

/-- A branch of a selection. -/
inductive Branch where
  | mk (patterns : List (List Piece)) (body : Command)

end

instance : Inhabited Piece := ⟨.text [] false⟩

instance : Inhabited Command := ⟨.skip⟩

end PodMesh.Host.Shell
