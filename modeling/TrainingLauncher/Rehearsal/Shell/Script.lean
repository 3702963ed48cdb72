/-
Shell scripts: commands, the words they consist of, and the parts of words. A part is text, the
value of a parameter, what another script writes, or the value of an expression; each keeps whether
it stands between quotes, which keep a word together and take the special characters in it as they
are. Commands that can complain keep the line they stand in.
-/

namespace TrainingLauncher.Rehearsal.Shell

mutual

/-- A part of a word. -/
inductive Part where
  /-- Characters that stand for themselves. -/
  | text (quoted : Bool) (chars : String)
  /-- The value of a parameter. -/
  | parameter (quoted : Bool) (name : String) (variation : Variation)
  /-- What a script writes. -/
  | output (quoted : Bool) (script : Script)
  /-- The value of an expression. -/
  | arithmetic (quoted : Bool) (expression : List Part)

/-- What is done with the value of a parameter. A parameter that is set to nothing counts as one
that is not set if `evenEmpty` says so. -/
inductive Variation where
  | plain
  /-- The number of its characters. -/
  | size
  /-- A word serves in its place. -/
  | standIn (evenEmpty : Bool) (word : List Part)
  /-- Like a stand-in, which is its value from then on. -/
  | kept (evenEmpty : Bool) (word : List Part)
  /-- A word serves if there is a value. -/
  | alternative (evenEmpty : Bool) (word : List Part)
  /-- There must be a value; a word says what is wrong if there is none. -/
  | required (evenEmpty : Bool) (word : List Part)
  /-- The value without what a pattern matches at its start or end, the least or the most of it. -/
  | trimmed (atEnd longest : Bool) (pattern : List Part)
  /-- Nothing that can be understood. -/
  | senseless

/-- What a descriptor stands for. -/
inductive Target where
  /-- What another descriptor stands for, or nothing. -/
  | same (descriptor : Option Nat)
  /-- Like `same`, with a descriptor that is yet to be found out. -/
  | named (word : List Part)
  | source (path : List Part)
  | replaced (path : List Part)
  /-- Like `replaced`, whatever the shell has been told about files that exist. -/
  | forced (path : List Part)
  | extended (path : List Part)
  | updated (path : List Part)
  /-- The text itself is read. -/
  | document (text : List Part)

/-- A descriptor and what it stands for. -/
inductive Redirection where
  | mk (descriptor : Nat) (target : Target)

/-- A script. -/
inductive Script where
  | nothing
  /-- Settings of variables and a command in words. -/
  | simple (line : Nat) (settings : List (String × List Part)) (words : List (List Part))
      (redirections : List Redirection)
  | sequence (first second : Script)
  | both (first second : Script)
  | either (first second : Script)
  | negation (script : Script)
  /-- What one writes is what the next one reads. -/
  | pipeline (members : List Script)
  /-- A pipeline that is not waited for. -/
  | pipelineBeside (members : List Script)
  /-- In a shell of its own. -/
  | apart (line : Nat) (script : Script) (redirections : List Redirection)
  /-- In a shell of its own that is not waited for. -/
  | beside (line : Nat) (script : Script) (redirections : List Redirection)
  | redirected (line : Nat) (script : Script) (redirections : List Redirection)
  | conditional (condition yes no : Script)
  /-- As long as a condition holds, or until it does. -/
  | loop (untilIt : Bool) (condition body : Script)
  /-- Once for each word. -/
  | each (line : Nat) (name : String) (words : List (List Part)) (body : Script)
  /-- The first arm that has a pattern for a word. -/
  | choice (line : Nat) (word : List Part) (arms : List (List (List Part) × Script))
  | function (name : String) (body : Script)

end

/-- A word of a script. -/
abbrev ScriptWord := List Part

instance : Inhabited Script := ⟨.nothing⟩

/-- The descriptor of a redirection. -/
def Redirection.descriptor : Redirection → Nat
  | mk descriptor _ => descriptor

/-- What the descriptor of a redirection stands for. -/
def Redirection.target : Redirection → Target
  | mk _ target => target

/-- A part stands between quotes. -/
def Part.isQuoted : Part → Bool
  | text quoted _ | parameter quoted _ _ | output quoted _ | arithmetic quoted _ => quoted

/-- A part is the list of the arguments, each a word of its own. Quotes around nothing else are no
word if there are no arguments. -/
def Part.isArguments : Part → Bool
  | parameter true "@" .plain => true
  | _ => false

/-- The text that a word is, if it is nothing but text. -/
def plainText? : ScriptWord → Option String
  | [] => some ""
  | .text _ chars :: rest => (plainText? rest).map (chars ++ ·)
  | _ :: _ => none

/-- The text that a word is, if no part of it is quoted or a parameter. -/
def bareText? : ScriptWord → Option String
  | [] => some ""
  | .text false chars :: rest => (bareText? rest).map (chars ++ ·)
  | _ :: _ => none

end TrainingLauncher.Rehearsal.Shell
