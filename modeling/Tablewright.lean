import Tablewright.Annotation
import Tablewright.Build
import Tablewright.CommandLine
import Tablewright.Declaration
import Tablewright.Emission
import Tablewright.Introspection
import Tablewright.Main
import Tablewright.Proofs.Annotation.Accounting
import Tablewright.Proofs.Annotation.Blocks
import Tablewright.Proofs.Annotation.Division
import Tablewright.Proofs.Annotation.Writing
import Tablewright.Proofs.Build.Delivery
import Tablewright.Proofs.Build.FailedStart
import Tablewright.Proofs.Build.FailedWriting
import Tablewright.Proofs.Build.Independence
import Tablewright.Proofs.Build.RoundTrip
import Tablewright.Proofs.Build.Working
import Tablewright.Proofs.Emission.Closure
import Tablewright.Proofs.Emission.DataPaths
import Tablewright.Proofs.Emission.DependencyComments
import Tablewright.Proofs.Emission.FunctionNames
import Tablewright.Proofs.Emission.LoadedRows
import Tablewright.Proofs.Emission.Locality
import Tablewright.Proofs.Emission.LosslessKeys
import Tablewright.Proofs.Emission.ParameterNames
import Tablewright.Proofs.Emission.Rebuilding
import Tablewright.Proofs.Emission.SectionLayout
import Tablewright.Proofs.Introspection.Collisions
import Tablewright.Proofs.Introspection.KeyPrecedence
import Tablewright.Proofs.Introspection.Layout
import Tablewright.Proofs.Introspection.Listing
import Tablewright.Proofs.Introspection.Literals
import Tablewright.Proofs.Introspection.Probing
import Tablewright.Proofs.Introspection.Registration
import Tablewright.Proofs.Introspection.StructSearch
import Tablewright.Proofs.Introspection.Tables
import Tablewright.Proofs.Introspection.VariantNames
import Tablewright.Proofs.Introspection.Wrapping
import Tablewright.Proofs.Settings.Outputs
import Tablewright.Settings.Loading
import Tablewright.Table.Registry
