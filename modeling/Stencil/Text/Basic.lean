/-!
Texts.  A text is the list of its characters, so every position in this library counts code points.
-/
namespace Stencil

/-- A text is the list of its characters. -/
abbrev Text := List Char

end Stencil
