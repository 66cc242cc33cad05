import DomainCompiler.Main
import DomainCompiler.Value.JsonReader
import DomainCompiler.Proofs.Model.Reordering
import DomainCompiler.Proofs.Model.FirstDeclared
import DomainCompiler.Proofs.Model.Coherence
import DomainCompiler.Proofs.Model.ImportSets
import DomainCompiler.Proofs.Model.Classes
import DomainCompiler.Proofs.Model.ValueObjects
import DomainCompiler.Proofs.Model.Capture
import DomainCompiler.Proofs.Compile.BackReference
import DomainCompiler.Proofs.Model.Creation
import DomainCompiler.Proofs.Model.Audit
import DomainCompiler.Proofs.Model.Scalars
import DomainCompiler.Proofs.Model.InnermostName
import DomainCompiler.Proofs.Compile.Independence
import DomainCompiler.Proofs.Export.RoundTrip
import DomainCompiler.Proofs.Command.Agreement
import DomainCompiler.Proofs.Declared.Spelling
import DomainCompiler.Proofs.Declared.Vocabulary
import DomainCompiler.Proofs.File.Loading
import DomainCompiler.Proofs.Json.Loading
import DomainCompiler.Proofs.Model.ListTypes
import DomainCompiler.Proofs.Model.Removal
import DomainCompiler.Proofs.Model.ChildNames
import DomainCompiler.Proofs.Model.Stored
import DomainCompiler.Proofs.Model.ColumnAnnotation
import DomainCompiler.Proofs.Model.ConstraintText
import DomainCompiler.Proofs.Model.Tables
