import DartTransfer.CommandLine.Disk
import DartTransfer.Main
import DartTransfer.Terminal
import DartTransfer.Proofs.Cuts
import DartTransfer.Proofs.CharacterClasses
import DartTransfer.Proofs.Headings
import DartTransfer.Proofs.Located
import DartTransfer.Proofs.Generated
import DartTransfer.Proofs.Insertions
import DartTransfer.Proofs.Headers
import DartTransfer.Proofs.Declarations
import DartTransfer.Proofs.Comments
import DartTransfer.Proofs.Keys
import DartTransfer.Proofs.Resolved
import DartTransfer.Proofs.Emission
import DartTransfer.Proofs.ReadBack
import DartTransfer.Proofs.Accepted
import DartTransfer.Proofs.InTurn
import DartTransfer.Proofs.NameWords
import DartTransfer.Proofs.SharedKeys
import DartTransfer.Proofs.LineHeads
import DartTransfer.Proofs.Imports
import DartTransfer.Proofs.ImportFree
import DartTransfer.Proofs.Patterns
import DartTransfer.Proofs.Blocks
import DartTransfer.Proofs.FirstClass
import DartTransfer.Proofs.Forms
import DartTransfer.Proofs.Ownership
import DartTransfer.Proofs.Outcomes
import DartTransfer.Proofs.Joined
import DartTransfer.Proofs.Conversions
import DartTransfer.Proofs.LineEndings
import DartTransfer.Proofs.Questions
import DartTransfer.Proofs.Suffixes
import DartTransfer.Proofs.JsonText
import DartTransfer.Proofs.Switches
import DartTransfer.Proofs.Delivery
import DartTransfer.Proofs.Sections
import DartTransfer.Proofs.LineStarts
import DartTransfer.Proofs.SectionLines
import DartTransfer.Proofs.SectionKeys
import DartTransfer.Proofs.InertComments
import DartTransfer.Proofs.Searches
import DartTransfer.Proofs.Nullability
import DartTransfer.Proofs.Anchors
import DartTransfer.Proofs.AnchoredImports
import DartTransfer.Proofs.Replacements
import DartTransfer.Proofs.Directives
import DartTransfer.Proofs.Kinds
import DartTransfer.Proofs.Brackets
import DartTransfer.Proofs.Separators
import DartTransfer.Proofs.TemplatePairs
import DartTransfer.Proofs.WordRuns
import DartTransfer.Proofs.SettledNames
import DartTransfer.Proofs.Literals
import DartTransfer.Proofs.Conserved
import DartTransfer.Proofs.RoundTrips
import DartTransfer.Proofs.Renderings
import DartTransfer.Proofs.References
