namespace Tablewright

structure EmitOptions where
  base : String := "crate::pkg"
  primaryModule : String := "table"
  secondaryModule : String := "table_after_load"
  deriving DecidableEq, Repr

end Tablewright
