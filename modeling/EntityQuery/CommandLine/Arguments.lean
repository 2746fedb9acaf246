import EntityQuery.Report.Section

/-!
# Arguments

The arguments of the program are read from left to right. Each is an option or the
value of the option before it; there are no others. An option has a long name, or
a letter, or both; letters may be joined, and a value may follow its option at once
or after an equals sign.

No option may be given twice. The request for the version is answered as soon as it
is read, whatever follows it. All that a reader of arguments can say is in
`Command.ofArguments`.
-/

namespace EntityQuery.CommandLine

/-- An option that takes a value. -/
inductive ValueOption where
  | database
  | format
  deriving DecidableEq, Repr

/-- An option that is given or not. -/
inductive Switch where
  | reset
  | verbose
  deriving DecidableEq, Repr

/-- What the arguments say. -/
structure Given where
  database : Option String
  format : Option Report.Format
  reset : Bool
  verbose : Bool
  deriving DecidableEq, Repr

/-- What no argument says. -/
def Given.nothing : Given := ⟨none, none, false, false⟩

/-- What a list of arguments asks for. -/
inductive Command where
  | report (g : Given)
  | version
  /-- The arguments are not understood. -/
  | misuse
  deriving DecidableEq, Repr

/-- An argument by its form. -/
inductive Word where
  /-- Two dashes, after which there are no more options. -/
  | escape
  /-- A long option, with what follows the first equals sign. -/
  | long (name : List Char) (value : Option (List Char))
  /-- Letters after a dash; there is one at least. -/
  | short (letters : List Char)
  /-- Any other text; a lone dash is one. -/
  | plain (text : String)

/-- A text up to the first equals sign, and what follows that. -/
def splitAtEquals (cs : List Char) : List Char × Option (List Char) :=
  (cs.takeWhile (· != '='), (cs.dropWhile (· != '=')).tail?)

/-- The form of an argument. -/
def Word.ofString (s : String) : Word :=
  match s.toList with
  | ['-', '-'] => .escape
  | '-' :: '-' :: cs => .long (splitAtEquals cs).1 (splitAtEquals cs).2
  | '-' :: c :: cs => .short (c :: cs)
  | _ => .plain s

/-- How far the arguments are read. -/
inductive Progress where
  /-- The next argument is an option. -/
  | ready (g : Given)
  /-- The next argument is the value of an option. -/
  | awaiting (o : ValueOption) (g : Given)
  /-- There may be no further argument. -/
  | closed (g : Given)
  /-- What is asked for is known. -/
  | decided (c : Command)

namespace Progress

/-- Takes the value of an option. -/
def give (g : Given) (value : String) : ValueOption → Progress
  | .database =>
    if g.database.isSome then .decided .misuse else .ready { g with database := some value }
  | .format =>
    match Report.Format.ofName? value with
    | none => .decided .misuse
    | some f =>
      if g.format.isSome then .decided .misuse else .ready { g with format := some f }

/-- Takes a switch. -/
def turn (g : Given) : Switch → Progress
  | .reset => if g.reset then .decided .misuse else .ready { g with reset := true }
  | .verbose => if g.verbose then .decided .misuse else .ready { g with verbose := true }

/-- Takes an option with the value that came with it, or waits for the value. -/
def giveOrAwait (g : Given) (value : Option (List Char)) (o : ValueOption) : Progress :=
  match value with
  | some v => give g (String.ofList v) o
  | none => .awaiting o g

/-- Takes a long option. -/
def long (g : Given) (name : List Char) (value : Option (List Char)) : Progress :=
  match String.ofList name, value with
  | "database", value => giveOrAwait g value .database
  | "format", value => giveOrAwait g value .format
  | "reset", none => turn g .reset
  | "verbose", none => turn g .verbose
  | "version", none => .decided .version
  | _, _ => .decided .misuse

/-- The value that follows a letter at once, if there is one; an equals sign in
    between is no part of it. -/
def attached : List Char → Option (List Char)
  | [] => none
  | '=' :: value => some value
  | value => some value

/-- Takes letters. -/
def short (g : Given) : List Char → Progress
  | [] => .ready g
  | 'V' :: _ => .decided .version
  | 'd' :: rest => giveOrAwait g (attached rest) .database
  | 'v' :: rest =>
    match turn g .verbose with
    | .ready g => short g rest
    | other => other
  | _ :: _ => .decided .misuse

/-- Takes one more argument. -/
def take (p : Progress) (w : Word) : Progress :=
  match p, w with
  | .decided c, _ => .decided c
  | .ready _, .plain _ => .decided .misuse
  | .ready g, .escape => .closed g
  | .ready g, .long name value => long g name value
  | .ready g, .short letters => short g letters
  | .awaiting o g, .plain value => give g value o
  | .awaiting _ _, _ => .decided .misuse
  | .closed _, _ => .decided .misuse

/-- What is asked for if no argument follows. -/
def command : Progress → Command
  | .ready g => .report g
  | .closed g => .report g
  | .awaiting _ _ => .misuse
  | .decided c => c

end Progress

/-- What a list of arguments asks for. -/
def Command.ofArguments (args : List String) : Command :=
  ((args.map Word.ofString).foldl Progress.take (.ready .nothing)).command

end EntityQuery.CommandLine
