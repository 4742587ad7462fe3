import Tablewright.Proofs.Emission.Closure
import Tablewright.Proofs.Emission.Locality
import Tablewright.Proofs.Text.Lines
import Tablewright.Proofs.Text.Quoting

namespace Tablewright.Emission

section Loaders

variable (table : ResolvedTable) (csv excel : String)

end Loaders

section Counting

variable {first second csv excel : String} (denotes : Text.Denotes first excel)
  (otherDenotes : Text.Denotes second csv)
include denotes otherDenotes

end Counting

end Tablewright.Emission
