import TaskCrew.Environment.Basic
import TaskCrew.Exit
import TaskCrew.Text.Alphanumeric
import TaskCrew.Text.Blank

/-!
# Files of variables

A file of variables has a line `KEY=VALUE` for each variable, perhaps after the word `export`. A
value may be quoted, may then run over several lines, and may refer to other variables.

* `LineState`, `takeLine` — where a line of the file ends, which quotes may put off;
* `Piece`, `readValue` — a value as characters and references, independent of any environment;
* `Assignment`, `readLine` — the variable and the value of a line;
* `EnvironmentFile.assignments` — the assignments up to the first malformed line;
* `Environment.load` — an environment after the assignments of a file, which set only what is unset,
  and break off at a text that no variable can hold.

**Design.** A line is read without looking at the environment, so whether it is malformed depends on
the file alone. References are resolved when an assignment is applied: first in the environment as
it is then, next among the earlier lines, and otherwise to nothing. The content of a file is text; left out
are files whose bytes are not Unicode, of which the lines before such bytes would be read.
-/

namespace TaskCrew

/-! ## Lines -/

/-- What the characters of a line so far have opened. -/
inductive LineState
  | complete
  /-- A backslash outside quotes. -/
  | escape
  | strong
  /-- A backslash within single quotes. -/
  | strongEscape
  | weak
  /-- A backslash within double quotes. -/
  | weakEscape
  /-- A blank, after which a comment may begin. -/
  | blank
  deriving DecidableEq, Repr

/-- What a character after nothing, or after a blank, opens. -/
def LineState.opened (c : Char) : LineState :=
  if c = '\\' then .escape
  else if c = '"' then .weak
  else if c = '\'' then .strong
  else .complete

/-- The state after one more character that does not begin a comment. -/
def LineState.next (q : LineState) (c : Char) : LineState :=
  match q with
  | .complete =>
    if Text.isBlank c ∧ c ≠ '\n' ∧ c ≠ '\r' then .blank else .opened c
  | .blank => .opened c
  | .escape => .complete
  | .strong => if c = '\\' then .strongEscape else if c = '\'' then .complete else .strong
  | .strongEscape => .strong
  | .weak => if c = '\\' then .weakEscape else if c = '"' then .complete else .weak
  | .weakEscape => .weak

/-- The state after a stretch of characters, or the characters before a comment, if one begins. -/
def LineState.scan (q : LineState) : List Char → LineState ⊕ List Char
  | [] => .inl q
  | c :: cs =>
    if q = .blank ∧ c = '#' then .inr []
    else match (q.next c).scan cs with
      | .inl q => .inl q
      | .inr before => .inr (c :: before)

/-- The characters up to and including the first line end, and the text after it. -/
def splitLine : List Char → List Char × List Char
  | [] => ([], [])
  | c :: cs =>
    if c = '\n' then ([c], cs)
    else
      let (line, rest) := splitLine cs
      (c :: line, rest)

theorem splitLine_length (c : Char) (cs : List Char) :
    (splitLine (c :: cs)).2.length < (c :: cs).length := by
  induction cs generalizing c with
  | nil => simp only [splitLine]; split <;> simp
  | cons d ds ih =>
    rw [splitLine]
    split
    · simp
    · have := ih d
      simp only [List.length_cons] at this ⊢
      omega

/-- A text without the line end at its end. -/
def chomp (cs : List Char) : List Char :=
  match cs.reverse with
  | '\n' :: '\r' :: rest => rest.reverse
  | '\n' :: rest => rest.reverse
  | _ => cs

/-- What comes next in a file. -/
inductive FileLine
  /-- A line, without its comment and its line end, and the text after it. -/
  | line (text rest : List Char)
  /-- The end of the file, at which something was still open. -/
  | unfinished
  | done

/-- The next line of a file, which goes on as long as something is open; `before` is the part of it
already taken, at whose end the state is `q`. -/
def takeLine (q : LineState) (before cs : List Char) : FileLine :=
  match cs with
  | [] => if q = .complete then .done else .unfinished
  | c :: cs =>
    let stretch := (splitLine (c :: cs)).1
    let rest := (splitLine (c :: cs)).2
    let text := before ++ stretch
    if (Text.trimStart text).head? = some '#' then .line [] rest
    else match q.scan stretch with
      | .inr shown => .line (before ++ shown) rest
      | .inl .complete => .line (chomp text) rest
      | .inl q => takeLine q text rest
  termination_by cs.length
  decreasing_by exact splitLine_length c cs

theorem takeLine_length {q : LineState} {before cs text rest : List Char}
    (h : takeLine q before cs = .line text rest) : rest.length < cs.length := by
  fun_induction takeLine q before cs with
  | case1 => simp at h
  | case2 => simp at h
  | case3 q before c cs =>
    simp only [FileLine.line.injEq] at h
    exact h.2 ▸ splitLine_length c cs
  | case4 q before c cs =>
    simp only [FileLine.line.injEq] at h
    exact h.2 ▸ splitLine_length c cs
  | case5 q before c cs =>
    simp only [FileLine.line.injEq] at h
    exact h.2 ▸ splitLine_length c cs
  | case6 q before c cs =>
    next ih => exact Nat.lt_trans (ih h) (splitLine_length c cs)

/-! ## Values -/

/-- A piece of a value. -/
inductive Piece
  | char (c : Char)
  | reference (name : List Char)
  deriving DecidableEq, Repr

/-- Where the reading of a value stands. `quoted` says whether it is within double quotes. -/
inductive ValueState
  | plain (quoted : Bool)
  | escape (quoted : Bool)
  | strong
  | naming (quoted : Bool) (name : List Char)
  | braced (quoted : Bool) (name : List Char)
  /-- After the value, where blanks and a comment may follow. -/
  | ended
  deriving DecidableEq, Repr

/-- Whether an escape may stand before a character, and the character it stands for. -/
def escapedChar? (c : Char) : Option Char :=
  if c = '\\' ∨ c = '\'' ∨ c = '"' ∨ c = '$' ∨ c = ' ' then some c
  else if c = 'n' then some '\n'
  else none

/-- The state after one more character with the pieces that it completes, or nothing if the value is
malformed. A name ends at the first character that is not alphanumeric, which stands for itself
unless it begins the next reference. -/
def ValueState.next (q : ValueState) (c : Char) : Option (ValueState × List Piece) :=
  match q with
  | .plain true =>
    if c = '$' then some (.naming true [], [])
    else if c = '"' then some (.plain false, [])
    else if c = '\\' then some (.escape true, [])
    else some (.plain true, [.char c])
  | .plain false =>
    if c = '$' then some (.naming false [], [])
    else if c = '\'' then some (.strong, [])
    else if c = '"' then some (.plain true, [])
    else if c = '\\' then some (.escape false, [])
    else if c = ' ' ∨ c = '\t' then some (.ended, [])
    else some (.plain false, [.char c])
  | .escape quoted => (escapedChar? c).map fun c => (.plain quoted, [.char c])
  | .strong => if c = '\'' then some (.plain false, []) else some (.strong, [.char c])
  | .naming quoted name =>
    if Text.isAlphanumeric c then some (.naming quoted (name ++ [c]), [])
    else if c = '\x7b' ∧ name = [] then some (.braced quoted [], [])
    else if c = '$' then some (.naming quoted [], [.reference name])
    else some (.plain quoted, [.reference name, .char c])
  | .braced quoted name =>
    if c = '\x7d' then some (.plain quoted, [.reference name])
    else some (.braced quoted (name ++ [c]), [])
  | .ended => if c = ' ' ∨ c = '\t' then some (.ended, []) else none

/-- The pieces that the end of a value completes, or nothing if something is still open. -/
def ValueState.finish : ValueState → Option (List Piece)
  | .plain false | .escape false | .ended => some []
  | .naming false name => some [.reference name]
  | _ => none

/-- The pieces of a value. A comment may follow the value. -/
def readValue (q : ValueState) : List Char → Option (List Piece)
  | [] => q.finish
  | c :: cs =>
    if q = .ended ∧ c = '#' then some []
    else match q.next c with
      | none => none
      | some (q, pieces) => (readValue q cs).map (pieces ++ ·)

/-! ## Assignments -/

/-- A variable with the value that a line gives it. -/
structure Assignment where
  key : String
  value : List Piece
  deriving DecidableEq, Repr

/-- What a line says. -/
inductive LineContent
  | nothing
  | assignment (a : Assignment)
  | malformed
  deriving DecidableEq, Repr

/-- Whether a name may begin with a character. -/
def beginsKey (c : Char) : Bool :=
  c.isAlpha || c == '_'

/-- Whether a name may go on with a character. -/
def continuesKey (c : Char) : Bool :=
  c.isAlphanum || c == '_' || c == '.'

/-- The name at the start of a text, with the text after it and after blanks. -/
def readKey (cs : List Char) : Option (List Char × List Char) :=
  match cs with
  | [] => none
  | c :: cs =>
    if beginsKey c then
      some (c :: cs.takeWhile continuesKey, Text.trimStart (cs.dropWhile continuesKey))
    else none

/-- The assignment of a value to a variable; the text begins with the equals sign. A value that
begins with the sign of a comment is empty. -/
def readAssigned (key cs : List Char) : LineContent :=
  match cs with
  | '=' :: cs =>
    match Text.trimStart cs with
    | [] | '#' :: _ => .assignment ⟨String.ofList key, []⟩
    | cs =>
      match readValue (.plain false) cs with
      | some value => .assignment ⟨String.ofList key, value⟩
      | none => .malformed
  | _ => .malformed

def readLine (line : List Char) : LineContent :=
  match Text.trim line with
  | [] | '#' :: _ => .nothing
  | cs =>
    match readKey cs with
    | none => .malformed
    | some (key, rest) =>
      if key = "export".toList ∧ rest.head? ≠ some '=' then
        match readKey rest with
        | none => .malformed
        | some (key, rest) => readAssigned key rest
      else readAssigned key rest

namespace EnvironmentFile

/-- The assignments of the lines up to the first malformed one. -/
def assignmentsFrom (cs : List Char) : List Assignment :=
  match h : takeLine .complete [] cs with
  | .done | .unfinished => []
  | .line text rest =>
    have := takeLine_length h
    match readLine text with
    | .malformed => []
    | .nothing => assignmentsFrom rest
    | .assignment a => a :: assignmentsFrom rest
  termination_by cs.length

/-- The assignments of a file, which may begin with a byte order mark. -/
def assignments (content : String) : List Assignment :=
  match content.toList with
  | '\ufeff' :: cs => assignmentsFrom cs
  | cs => assignmentsFrom cs

end EnvironmentFile

/-! ## Loading -/

/-- What a reference stands for: the text in the environment, else the value of the last earlier
line that assigned it, else nothing. -/
def Environment.resolve (e : Environment) (earlier : List (String × String)) (name : List Char) :
    String :=
  ((e.textAt? name).or (earlier.lookup (String.ofList name))).getD ""

def Environment.expand (e : Environment) (earlier : List (String × String))
    (value : List Piece) : String :=
  String.ofList (value.flatMap fun
    | .char c => [c]
    | .reference name => (e.resolve earlier name).toList)

/-- The environment with a variable set, unless it has a text already. No variable can be set to a
text with a null character: the attempt breaks off. -/
def Environment.setUnset (e : Environment) (name text : String) : Exit Environment :=
  if (e.text? name).isSome then .returned e
  else if '\x00' ∈ text.toList then .panicked
  else .returned (e.set name text)

/-- The environment after assignments, or as it is when one of them breaks off; `earlier` holds the
values of the lines before, the latest first. -/
def Environment.applyAfter (e : Environment) (earlier : List (String × String)) :
    List Assignment → Exit Unit × Environment
  | [] => (.returned (), e)
  | a :: rest =>
    let text := e.expand earlier a.value
    match e.setUnset a.key text with
    | .returned e => e.applyAfter ((a.key, text) :: earlier) rest
    | .panicked => (.panicked, e)

/-- The environment after the assignments of a file, which is valid Unicode, or as it is when one of them
breaks off. -/
def Environment.load (e : Environment) (content : String) : Exit Unit × Environment :=
  e.applyAfter [] (EnvironmentFile.assignments content)

end TaskCrew
