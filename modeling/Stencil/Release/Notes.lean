import Stencil.Source.Record

/-!
Release notes: the latest release that a changelog describes.
-/
namespace Stencil.Release

open Text

/-- A release: its version, the tag of a version before it, and what has changed. -/
structure Notes where
  version : Text
  tag : Option Text
  changes : List Text
  deriving DecidableEq, Repr

namespace Notes

/-- The notes of a changelog without a release. -/
def unreleased : Notes :=
  ⟨"0.0.0".toList, none, []⟩

/-- The version together with its tag, when the tag is not blank. -/
def packageVersion (n : Notes) : Text :=
  match n.tag with
  | some tag => if tag.all isBlank then n.version else n.version ++ '-' :: tag
  | none => n.version

def toRecord (n : Notes) : Record where
  attributes := [
    ("file_version".toList, .text n.version),
    ("tag".toList, (n.tag.map Value.text).getD .null),
    ("changes".toList, .list (n.changes.map Value.text))]
  properties := [("package_version".toList, .text n.packageVersion)]
  inherited := []
  classAttributes := []

/-- The names of the attributes, in the order in which they are searched. -/
def attributeNames : List Text :=
  ["file_version", "tag", "changes", "package_version"].map String.toList

/-- What the attributes of notes answer.  Changes are shown as a list, and a tag may be missing. -/
def attributes (n : Notes) : Table (Option Text) := [
  ("file_version".toList, some n.version),
  ("tag".toList, n.tag),
  ("changes".toList, some (Value.list (n.changes.map Value.text)).toText),
  ("package_version".toList, some n.packageVersion)]

/-- A name is meant by another one: by itself, or also by one of the same small letters. -/
def sameName (ignoreCase : Bool) (name asked : Text) : Bool :=
  if ignoreCase then lower name == lower asked else name == asked

def attribute? (n : Notes) (ignoreCase : Bool) (name : Text) : Option Text :=
  (n.attributes.find? fun e => sameName ignoreCase e.1 name).bind Prod.snd

end Notes

/-- The names that every data model carries.  The attributes of notes are not among them. -/
structure Reserved where
  names : List Text
  free : ∀ name ∈ Notes.attributeNames, name ∉ names
  deriving DecidableEq, Repr

end Stencil.Release
