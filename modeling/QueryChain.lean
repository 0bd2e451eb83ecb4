import QueryChain.Binding
import QueryChain.Builder.Call
import QueryChain.Builder.Expansion
import QueryChain.Proofs.Drafting
import QueryChain.Proofs.ValueShape
import QueryChain.Proofs.SharedConditions
import QueryChain.Proofs.Catalog
import QueryChain.Proofs.Clashes
import QueryChain.Proofs.GeneratedNames
import QueryChain.Proofs.Binds
import QueryChain.Proofs.ClauseContext
import QueryChain.Proofs.ChainedScope
import QueryChain.Proofs.QueryOutcomes
import QueryChain.Proofs.GeneratedFilters
import QueryChain.Proofs.QuotedNames
import QueryChain.Proofs.CatalogNames
import QueryChain.Proofs.ReportedFaults
import QueryChain.Proofs.SharedColumns
import QueryChain.Proofs.DialectAgreement
import QueryChain.Proofs.SnakeNames
import QueryChain.Proofs.NameWords
import QueryChain.Proofs.InsertedFields
import QueryChain.Proofs.AssignedColumns
import QueryChain.Proofs.MembershipTests
import QueryChain.Proofs.RefusedStatements
import QueryChain.Proofs.FirstOfAll
import QueryChain.Proofs.GroupedConditions
import QueryChain.Proofs.ConstantNames
import QueryChain.Proofs.WrappedTypes
import QueryChain.Proofs.DocLines
import QueryChain.Proofs.FieldKeys
import QueryChain.Proofs.ArgumentNames
import QueryChain.Proofs.ClashOwners
import QueryChain.Proofs.SetItems
