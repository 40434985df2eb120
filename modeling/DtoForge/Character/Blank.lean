/-
White space.

This is Unicode's property, so it holds the no-break spaces and the line and
paragraph separators, and leaves out the zero-width space.
-/
import DtoForge.Character.Run

namespace DtoForge

/-- The white-space characters. -/
def blankRuns : List CodeRun := [
  ⟨0x9, 0xD, 1⟩, ⟨0x20, 0x20, 1⟩, ⟨0x85, 0x85, 1⟩, ⟨0xA0, 0xA0, 1⟩, ⟨0x1680, 0x1680, 1⟩,
  ⟨0x2000, 0x200A, 1⟩, ⟨0x2028, 0x2029, 1⟩, ⟨0x202F, 0x202F, 1⟩, ⟨0x205F, 0x205F, 1⟩,
  ⟨0x3000, 0x3000, 1⟩]

/-- Whether the character is white space. -/
def isBlank (c : Char) : Bool :=
  CodeRun.anyHolds blankRuns c

end DtoForge
