import Mathlib
import JavadocTags.Proofs.Outcome
import JavadocTags.Proofs.Pattern.Limits
import JavadocTags.Proofs.Pattern.TagSearch

/-!
# Validation of checks

What a table says about a check is either refused with a cause or becomes a specification, except
for kinds that are no collection, patterns beyond the limits of patterns, refusals that would have
to show a number of too many digits, and identifiers that are no text. The main statement says that
these exceptions are all there are.
-/
namespace JavadocTags

/-! ## Patterns -/

namespace Pattern
variable [Unicode.CharacterNames]

end Pattern

namespace TagSpec
variable {input : SpecInput}

section Given
variable [Unicode.CharacterNames]

/-! ## The tag -/

end Given

/-! ## The kinds -/

section Outcomes
variable [Unicode.CharacterNames]

end Outcomes

/-! ### Refusals that are due -/

section Refusals
variable [Unicode.CharacterNames]

section Stages
variable {cause : ConfigFault} {tag : Option Tag} {format : Option Pattern}
  {kinds : List DeclarationKind} {severity : Severity}

end Stages

variable {failure : Failure}

end Refusals

open scoped Unicode.CharacterNames

end TagSpec

end JavadocTags
