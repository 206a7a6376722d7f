import FormScript.Emission.Unfold
import FormScript.Main
import FormScript.Proofs.Emission
import FormScript.Proofs.Hoisting
import FormScript.Proofs.Hoisting.Collection
import FormScript.Proofs.Hoisting.Forms
import FormScript.Proofs.Precedence
import FormScript.Proofs.Precedence.Faithful
import FormScript.Proofs.Precedence.Formula
import FormScript.Proofs.Precedence.Reading
import FormScript.Proofs.PrefixCode
import FormScript.Proofs.Readability
import FormScript.Proofs.Readability.Expression
import FormScript.Proofs.Readability.Literals
import FormScript.Proofs.Readability.Tokens
import FormScript.Proofs.Simulation
import FormScript.Proofs.Context
import FormScript.Proofs.Restamping
import FormScript.Proofs.Transparency
import FormScript.Proofs.Writing
import FormScript.Regex.Reader
import FormScript.Registry.Stock
import FormScript.Proofs.Cutoff
import FormScript.Proofs.HeadExpansion
import FormScript.Proofs.WellFormed.Range
import FormScript.Proofs.WellFormed.Shape
import FormScript.Proofs.WellFormed
import FormScript.Proofs.Declaring
import FormScript.Proofs.Moments
import FormScript.Proofs.SharedScope
import FormScript.Proofs.Tracking
import FormScript.Proofs.Unscoped
import FormScript.Proofs.Deduplication
import FormScript.Proofs.Brackets.Skeleton
import FormScript.Proofs.Brackets
import FormScript.Proofs.Respelling
import FormScript.Proofs.Respelling.Layout
import FormScript.Proofs.Respelling.Emission
import FormScript.Proofs.Filling
import FormScript.Proofs.Interchange
import FormScript.Proofs.Consulting
import FormScript.Proofs.Isolation
import FormScript.Proofs.Counting
import FormScript.Proofs.Filling.Dictionary
import FormScript.Proofs.Filling.Substitution
import FormScript.Proofs.Filling.Composition
import FormScript.Proofs.Filling.Complete
import FormScript.Proofs.Sequencing
import FormScript.Proofs.HeadExpansion.NormalForm
import FormScript.Proofs.HeadExpansion.Limit
import FormScript.Proofs.Parameters
import FormScript.Proofs.Filling.TemplateForms
import FormScript.Proofs.QualifiedNames
import FormScript.Proofs.RegistryHistory
import FormScript.Proofs.TryClauses
import FormScript.Proofs.Assignments
import FormScript.Proofs.Numerals
import FormScript.Proofs.Settings
import FormScript.Proofs.Targets
import FormScript.Proofs.Filling.Usable
import FormScript.Proofs.ModuleText
import FormScript.Proofs.Command.Walks
import FormScript.Proofs.Command.Files
import FormScript.Proofs.Command.Styles
import FormScript.Proofs.Command.Emit
import FormScript.Proofs.Termination
