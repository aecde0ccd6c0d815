import DerivedQuery.Main
import DerivedQuery.Manifest.Serialized
import DerivedQuery.Query.Group
import DerivedQuery.Proofs.Condition.Evaluation
import DerivedQuery.Proofs.Condition.Expression
import DerivedQuery.Proofs.Condition.Assignment
import DerivedQuery.Proofs.Condition.Pruning
import DerivedQuery.Proofs.Condition.Conditional
import DerivedQuery.Proofs.Condition.SelectiveWhere
import DerivedQuery.Proofs.Condition.Truth
import DerivedQuery.Proofs.Condition.FixedWhere
import DerivedQuery.Proofs.Statement.Columns
import DerivedQuery.Proofs.Statement.Fragments
import DerivedQuery.Proofs.Statement.Parts
import DerivedQuery.Proofs.Types.Resolving
import DerivedQuery.Proofs.Except
import DerivedQuery.Proofs.Generation.Run
import DerivedQuery.Proofs.Generation.Accounts
import DerivedQuery.Proofs.Generation.Repetition
import DerivedQuery.Proofs.Operand.References
import DerivedQuery.Proofs.Operand.Placement
import DerivedQuery.Proofs.MethodName.Grammar
import DerivedQuery.Proofs.MethodName.Acceptance
import DerivedQuery.Proofs.MethodName.Classification
import DerivedQuery.Proofs.MethodName.Paths
import DerivedQuery.Proofs.MethodName.Pieces
import DerivedQuery.Proofs.MethodName.Lexemes
import DerivedQuery.Proofs.MethodName.Division
import DerivedQuery.Proofs.MethodName.Positions
import DerivedQuery.Proofs.MethodName.Spelling
import DerivedQuery.Proofs.MethodName.RoundTrip
import DerivedQuery.Proofs.Naming.Decapitalize
import DerivedQuery.Proofs.Types.Closure
import DerivedQuery.Proofs.Types.Inheritance
import DerivedQuery.Proofs.Types.Inherited
import DerivedQuery.Proofs.Types.Linking
import DerivedQuery.Proofs.Xml.Mapper
import DerivedQuery.Proofs.Json.Literal
import DerivedQuery.Proofs.Json.Printed
import DerivedQuery.Proofs.Record.Fields
import DerivedQuery.Proofs.Record.FragmentTree
import DerivedQuery.Proofs.Record.Layer
import DerivedQuery.Proofs.Record.JsonLayer
import DerivedQuery.Proofs.Record.Reload
import DerivedQuery.Proofs.Record.Depth
import DerivedQuery.Proofs.Generation.Reload
import DerivedQuery.Proofs.Firsts
import DerivedQuery.Proofs.Types.Bean
import DerivedQuery.Proofs.Types.Precedence
import DerivedQuery.Proofs.Types.Supertypes
import DerivedQuery.Proofs.Types.Termination
import DerivedQuery.Proofs.Naming.Capitalize
import DerivedQuery.Proofs.Types.Property
import DerivedQuery.Proofs.Generation.Explicit
import DerivedQuery.Proofs.Operand.Mentions
import DerivedQuery.Proofs.Statement.CommaList
import DerivedQuery.Proofs.Statement.Insertion
import DerivedQuery.Proofs.Statement.Assignments
import DerivedQuery.Proofs.Statement.Addressing
import DerivedQuery.Proofs.Method.Collection
import DerivedQuery.Proofs.Condition.Grouping
import DerivedQuery.Proofs.MethodName.Standstill
import DerivedQuery.Proofs.Types.SignatureError
import DerivedQuery.Proofs.Statement.Canonical
import DerivedQuery.Proofs.Naming.Boundaries
