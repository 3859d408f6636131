import Stencil.Release.Notes
import Stencil.Text.Digit
import Stencil.Text.Utf8

/-!
Reading release notes.  The first line has to be a version header, and the lines below it are
changes up to a blank line or the header of an older release.
-/
namespace Stencil.Release

open Text

structure Header where
  version : Text
  tag : Option Text
  deriving DecidableEq, Repr

namespace Header

/-- Further numbers of a version, at most so many: full stops, each with digits after it. -/
def moreNumbers : Nat → Text → Text
  | count + 1, '.' :: cs =>
    let digits := cs.takeWhile isDigit
    if digits.isEmpty then []
    else '.' :: digits ++ moreNumbers count (cs.drop digits.length)
  | _, _ => []

/-- The version that a text starts with: one to three numbers. -/
def versionOf? (t : Text) : Option Text :=
  let digits := t.takeWhile isDigit
  if digits.isEmpty then none else some (digits ++ moreNumbers 2 (t.drop digits.length))

/-- The tag that a text starts with: what stands between a hyphen and the next blank. -/
def tagOf? : Text → Option Text
  | '-' :: cs =>
    let tag := cs.takeWhile fun c => !isBlank c
    if tag.isEmpty then none else some tag
  | _ => none

/-- Reads a header line: two number signs, blanks, a version, a tag if there is one, and anything
after them. -/
def read? : Text → Option Header
  | '#' :: '#' :: c :: cs =>
    if isBlank c then
      let t := trimStart cs
      (versionOf? t).map fun version => ⟨version, tagOf? (t.drop version.length)⟩
    else none
  | _ => none

end Header

/-- A change without the bullet of asterisks before it. -/
def changeOf (line : Text) : Text :=
  let bullet := line.takeWhile (· == '*')
  let rest := line.drop bullet.length
  match rest with
  | c :: _ => if !bullet.isEmpty && isBlank c then trimStart rest else line
  | [] => line

def endsChanges (line : Text) : Bool :=
  line.all isBlank || (Header.read? line).isSome

namespace Notes

def ofLines : List Text → Notes
  | [] => unreleased
  | first :: others =>
    match Header.read? first with
    | none => unreleased
    | some header =>
      ⟨header.version, header.tag, (others.takeWhile fun line => !endsChanges line).map changeOf⟩

/-- Reads release notes from a text, whose lines are trimmed. -/
def ofText (content : Text) : Notes :=
  ofLines ((split '\n' content).map trim)

/-- Reads release notes from the text of a file, whose lines are taken as they are. -/
def ofFileText (content : Text) : Notes :=
  ofLines (splitLines content)

end Notes

end Stencil.Release
