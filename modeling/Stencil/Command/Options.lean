import Stencil.Text.Digit
import Stencil.Text.Split

/-!
The grammar of command lines.  Options start with a hyphen; a long one may be shortened as long as
it stays unique, an argument may be attached to it after an equals sign or follow as the next word,
and the argument of a short one may also be attached directly.  After the separator `--` all words
are plain.  A word that looks like a negative number, or that holds a space and is no option, is
plain as well.
-/
namespace Stencil.Command

open Text

inductive Argument
  | word (t : Text)
  /-- The separator `--` was attached, which leaves nothing. -/
  | nothing
  deriving DecidableEq, Repr

def Argument.text : Argument → Text
  | word t => t
  | nothing => []

/-- An option: the key of its effect, its spellings, and whether it takes an argument. -/
structure Switch where
  key : String
  spellings : List Text
  takesArgument : Bool

/-- What the plain words of a command line are. -/
inductive Plain
  | nothing
  | operand
  | command
  deriving DecidableEq, Repr

structure Grammar where
  switches : List Switch
  plain : Plain

/-- What a command line says, in order. -/
inductive Event
  | flag (key : String)
  | argument (key : String) (value : Argument)
  | operand (t : Text)
  | command (name : Text) (words : List Text)
  /-- A word that has no meaning. -/
  | surplus
  | misuse
  deriving DecidableEq, Repr

/-! ## Kinds of words -/

/-- A spelling of an option in a word, with the argument attached to it. -/
structure Use where
  switch : Switch
  short : Bool
  attached : Option Text

/-- The kinds of words. -/
inductive Word
  | separator
  | plain
  | use (u : Use)
  /-- It looks like an option, but there is none like it. -/
  | unknown
  /-- It may mean more than one option. -/
  | ambiguous

namespace Grammar

def switch? (g : Grammar) (spelling : Text) : Option Switch :=
  g.switches.find? fun s => s.spellings.contains spelling

def isShort (spelling : Text) : Bool :=
  (spelling.drop 1).head? != some '-'

/-- The uses that a word which is no spelling may mean, one for each spelling it may shorten. -/
def uses (g : Grammar) (word : Text) : List Use :=
  let all := g.switches.flatMap fun s => s.spellings.map fun spelling => (s, spelling)
  if isShort word then
    (all.filter fun e => e.2 == word.take 2).map fun e => ⟨e.1, true, some (word.drop 2)⟩
  else
    let (start, attached) :=
      match cut? '=' word with
      | some (start, value) => (start, some value)
      | none => (word, none)
    (all.filter fun e => start.isPrefixOf e.2).map fun e => ⟨e.1, false, attached⟩

/-- A hyphen and digits, or a hyphen and a decimal fraction; a line feed may end it. -/
def isNegativeNumber (word : Text) : Bool :=
  match word with
  | '-' :: cs =>
    let cs := if cs.getLast? = some '\n' then cs.dropLast else cs
    let whole := cs.takeWhile isDigit
    match cs.drop whole.length with
    | [] => !whole.isEmpty
    | '.' :: places => !places.isEmpty && places.all isDigit
    | _ => false
  | _ => false

/-- The kind of a word that stands before any separator. -/
def kind (g : Grammar) (word : Text) : Word :=
  if word = ['-', '-'] then .separator
  else if word.head? != some '-' then .plain
  else match g.switch? word with
    | some s => .use ⟨s, isShort word, none⟩
    | none =>
      if word.length = 1 then .plain
      else match (cut? '=' word).bind fun e => (g.switch? e.1).map fun s => (s, e) with
        | some (s, e) => .use ⟨s, isShort e.1, some e.2⟩
        | none =>
          match g.uses word with
          | [u] => .use u
          | _ :: _ => .ambiguous
          | [] => if isNegativeNumber word || word.contains ' ' then .plain else .unknown

def kinds (g : Grammar) : List Text → List (Text × Word)
  | [] => []
  | word :: words =>
    match g.kind word with
    | .separator => (word, .separator) :: words.map fun w => (w, .plain)
    | k => (word, k) :: g.kinds words

/-! ## Reading -/

def attachedArgument (t : Text) : Argument :=
  if t = ['-', '-'] then .nothing else .word t

/-- The events of an option without an attached argument, and how many of the words after it belong
to it. -/
def detached (s : Switch) (next : List (Text × Word)) : Option (List Event × Nat) :=
  if s.takesArgument then
    match next with
    | (t, .plain) :: _ => some ([.argument s.key (.word t)], 1)
    | _ => none
  else some ([.flag s.key], 0)

/-- The events of a short option with characters attached to it: the argument of an option that
takes one, or further short options. -/
def cluster (g : Grammar) (s : Switch) (next : List (Text × Word)) :
    Text → Option (List Event × Nat)
  | [] => detached s next
  | c :: cs =>
    if s.takesArgument then some ([.argument s.key (attachedArgument (c :: cs))], 0)
    else (g.switch? ['-', c]).bind fun other =>
      (g.cluster other next cs).map fun r => (.flag s.key :: r.1, r.2)

/-- The events of a use of an option, and how many of the words after it belong to it. -/
def events (g : Grammar) (u : Use) (next : List (Text × Word)) : Option (List Event × Nat) :=
  match u.attached with
  | none => detached u.switch next
  | some t =>
    if u.switch.takesArgument then some ([.argument u.switch.key (attachedArgument t)], 0)
    else if u.short && !t.isEmpty then g.cluster u.switch next t
    else none

/-- Reads the words of known kinds.  The first `skip` of them already belong to an option or an
operand before them, and `wanted` says whether the plain words that the grammar names are still to
come. -/
def readFrom (g : Grammar) : Nat → Bool → List (Text × Word) → List Event
  | _, _, [] => []
  | skip + 1, wanted, _ :: words => g.readFrom skip wanted words
  | 0, wanted, (word, kind) :: words =>
    match kind with
    | .use u =>
      match g.events u words with
      | some (events, used) => events ++ g.readFrom used wanted words
      | none => [.misuse]
    | .unknown => .surplus :: g.readFrom 0 wanted words
    | .ambiguous => [.misuse]
    | .plain =>
      if !wanted then .surplus :: g.readFrom 0 wanted words
      else match g.plain with
        | .nothing => .surplus :: g.readFrom 0 wanted words
        | .command => [.command word (words.map Prod.fst)]
        | .operand =>
          let closed := match words with
            | (_, .separator) :: _ => 1
            | _ => 0
          .operand word :: g.readFrom closed false words
    | .separator =>
      match words with
      | (first, _) :: others =>
        if !wanted then .surplus :: g.readFrom 0 wanted words
        else match g.plain with
          | .nothing => .surplus :: g.readFrom 0 wanted words
          | .command => [.command word (first :: others.map Prod.fst)]
          | .operand => .operand first :: g.readFrom 1 false words
      | [] => [.surplus]

/-- What a command line says.  Words that may mean more than one option spoil all of it. -/
def read (g : Grammar) (words : List Text) : List Event :=
  let kinds := g.kinds words
  if kinds.any fun e => e.2 matches .ambiguous then [.misuse] else g.readFrom 0 true kinds

end Grammar

end Stencil.Command
