import Tablewright.Proofs.Emission.KeyFunctions

namespace Tablewright.Emission

variable {Key2 Key3 Row : Type} [DecidableEq Key2] [DecidableEq Key3] {tools : Tools Key2 Key3}
  {code : KeyCode} {fields : Row → Fields Key2 Key3}

end Tablewright.Emission
