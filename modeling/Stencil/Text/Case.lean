import Stencil.Text.CaseTable

/-!
Small and capital forms of whole texts.  A letter may turn into several characters, and a capital
sigma turns into the final small sigma at the end of a word.
-/
namespace Stencil.Text

/-- The counterpart of a character under a list of spans; a character that none holds stays. -/
def mapSpans (spans : List CaseSpan) (c : Char) : Char :=
  ((spans.findSome? fun s => s.apply? c.toNat).map Char.ofNat).getD c

/-- The small form of a character that is not a capital sigma. -/
def lowerChar (c : Char) : Text :=
  if c.toNat < 128 then [c.toLower]
  else if c == 'İ' then ['i', Char.ofNat 0x307]
  else [mapSpans lowerSpans c]

def upperChar (c : Char) : Text :=
  if c.toNat < 128 then [c.toUpper]
  else match upperSequences.lookup c.toNat with
    | some numbers => numbers.map Char.ofNat
    | none => [mapSpans upperSpans c]

/-- Passed over when a letter is looked for beside a sigma. -/
def isCaseIgnorable (c : Char) : Bool :=
  caseIgnorableRanges.covers c.toNat

/-- A letter that has case. -/
def isCased (c : Char) : Bool :=
  casedRanges.covers c.toNat

/-- The first character that counts is a letter with case. -/
def startsCased (t : Text) : Bool :=
  match t.dropWhile isCaseIgnorable with
  | c :: _ => isCased c
  | [] => false

/-- Lowers a text that stands after a letter with case or not. -/
def lowerAfter (afterLetter : Bool) : Text → Text
  | [] => []
  | c :: cs =>
    let small :=
      if c == 'Σ' then [if afterLetter && !startsCased cs then 'ς' else 'σ'] else lowerChar c
    small ++ lowerAfter (if isCaseIgnorable c then afterLetter else isCased c) cs

def lower (t : Text) : Text :=
  lowerAfter false t

def upper (t : Text) : Text :=
  t.flatMap upperChar

end Stencil.Text
