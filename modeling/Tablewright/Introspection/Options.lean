namespace Tablewright

/-- Declaration files have names with a lead, compared without regard to case. The marker is the
attribute of key fields. -/
structure IntrospectionOptions where
  lead : String := "c_"
  marker : String := "table"
  deriving DecidableEq, Repr

end Tablewright
