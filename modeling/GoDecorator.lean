import GoDecorator.Descriptor.Input
import GoDecorator.Main
import GoDecorator.Proofs.Token.Exactness
import GoDecorator.Proofs.Catalogue.Wrappers
import GoDecorator.Proofs.Catalogue.Safety
import GoDecorator.Proofs.Catalogue.Histories
import GoDecorator.Proofs.Catalogue.Inputs
import GoDecorator.Proofs.Decl.Stability
import GoDecorator.Proofs.Descriptor.NameRequests
import GoDecorator.Proofs.Descriptor.Qualification
import GoDecorator.Proofs.Pattern.Capture
import GoDecorator.Proofs.Reading.Expressions
import GoDecorator.Proofs.Template.Binding
import GoDecorator.Proofs.Template.Grammar
import GoDecorator.Proofs.Reading.Spacing
import GoDecorator.Proofs.Decl.Indentation
import GoDecorator.Proofs.Decl.Provenance
import GoDecorator.Proofs.Reading.Parameters
import GoDecorator.Proofs.Reading.VariableNames
import GoDecorator.Proofs.Reading.Failures
import GoDecorator.Proofs.Decl.Alignment
import GoDecorator.Proofs.Pattern.Collections
import GoDecorator.Proofs.Pattern.Measures
import GoDecorator.Proofs.Reading.Progress
