import EntityScaffold.Main
import EntityScaffold.Record.Document
import EntityScaffold.Source.Document
import EntityScaffold.Proofs.Scaffold.Files
import EntityScaffold.Proofs.Naming.ProperName
import EntityScaffold.Proofs.Scaffold.Integrity
import EntityScaffold.Proofs.Wizard.Agreement
import EntityScaffold.Proofs.Wizard.Rejection
import EntityScaffold.Proofs.Source.UseClause
import EntityScaffold.Proofs.Source.Resolution
import EntityScaffold.Proofs.Naming.Words
import EntityScaffold.Proofs.Text.Lines
import EntityScaffold.Proofs.Text.OneLine
import EntityScaffold.Proofs.Source.Layout
import EntityScaffold.Proofs.Record.Assembly
import EntityScaffold.Proofs.Scaffold.Layout
import EntityScaffold.Proofs.Source.Collisions
import EntityScaffold.Proofs.Scaffold.Collisions
import EntityScaffold.Proofs.Scaffold.Effects
import EntityScaffold.Proofs.Scaffold.Repetition
import EntityScaffold.Proofs.Scaffold.Dispatch
import EntityScaffold.Proofs.Scaffold.Lookups
import EntityScaffold.Proofs.Keyed
import EntityScaffold.Proofs.Record.Acceptance
import EntityScaffold.Proofs.Record.Lists
import EntityScaffold.Proofs.Record.Traits
import EntityScaffold.Proofs.Wizard.Names
import EntityScaffold.Proofs.Session.Replies
import EntityScaffold.Proofs.Session.Record
import EntityScaffold.Proofs.Record.Inconsistency
import EntityScaffold.Proofs.Scaffold.Failures
import EntityScaffold.Proofs.Scaffold.DataFlow
import EntityScaffold.Proofs.Text.Characters
import EntityScaffold.Proofs.Text.Brackets
import EntityScaffold.Proofs.Source.Comments
import EntityScaffold.Proofs.Source.Brackets
import EntityScaffold.Proofs.Scaffold.Independence
import EntityScaffold.Proofs.Scaffold.Identifiers
import EntityScaffold.Proofs.Scaffold.Imports
import EntityScaffold.Proofs.Scaffold.Words
import EntityScaffold.Proofs.Scaffold.Brackets
import EntityScaffold.Proofs.Record.Malformed
import EntityScaffold.Proofs.Scaffold.RepositoryMethods
import EntityScaffold.Proofs.Scaffold.RepositoryShape
import EntityScaffold.Proofs.Definition.Reports
import EntityScaffold.Proofs.Scaffold.Containment
import EntityScaffold.Proofs.Schema.Fields
import EntityScaffold.Proofs.Schema.Void
import EntityScaffold.Proofs.Text.Parts
import EntityScaffold.Proofs.Relation
import EntityScaffold.Proofs.Scaffold.ForeignKeys
import EntityScaffold.Proofs.Resolver.Order
import EntityScaffold.Proofs.Resolver.Answers
import EntityScaffold.Proofs.TypeExpression.Names
import EntityScaffold.Proofs.TypeExpression.Printing
import EntityScaffold.Proofs.Wizard.Silence
import EntityScaffold.Proofs.Definition.SelfReference
import EntityScaffold.Proofs.Scaffold.Discovery
import EntityScaffold.Proofs.Document.Json.Texts
import EntityScaffold.Proofs.Document.Json.Values
import EntityScaffold.Proofs.Path.Text
import EntityScaffold.Proofs.Config.RoundTrip
import EntityScaffold.Proofs.Text.Passes
import EntityScaffold.Proofs.Text.NormalForm
import EntityScaffold.Proofs.Resolver.FixedPoints
import EntityScaffold.Proofs.Text.Words
import EntityScaffold.Proofs.TypeExpression.Nullability
import EntityScaffold.Proofs.TypeExpression.Flags
import EntityScaffold.Proofs.Source.Literal
import EntityScaffold.Proofs.Text.Fragments
import EntityScaffold.Proofs.Source.Literal.Forms
import EntityScaffold.Proofs.Source.Literal.Reading
import EntityScaffold.Proofs.Source.Literal.Types
import EntityScaffold.Proofs.Source.Members
import EntityScaffold.Proofs.Source.Evaluation
import EntityScaffold.Proofs.Scaffold.Defaults
import EntityScaffold.Proofs.Scaffold.Initialisers
import EntityScaffold.Proofs.Scaffold.Capture
import EntityScaffold.Proofs.Record.Events
import EntityScaffold.Proofs.Scaffold.EntityNames
import EntityScaffold.Proofs.Scaffold.FormFallbacks
import EntityScaffold.Proofs.Source.ImportOrder
import EntityScaffold.Proofs.Record.Padding
import EntityScaffold.Proofs.Scaffold.Columns
import EntityScaffold.Proofs.Naming.Breaks
import EntityScaffold.Proofs.Naming.ClassPath.Inverse
