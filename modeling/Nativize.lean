import Nativize.Main
import Nativize.Profile.Encode
import Nativize.Proofs.Stylesheet.Evaluation
import Nativize.Proofs.Syntax.Parser.Program
import Nativize.Proofs.Imports
import Nativize.Proofs.Sweep.Elements
import Nativize.Proofs.Sweep.Navigation
import Nativize.Proofs.Sweep.Order
import Nativize.Proofs.Sweep.Settled
import Nativize.Proofs.Sweep.Steps
import Nativize.Proofs.Sweep.Tables
import Nativize.Proofs.Syntax.Parser.Import
import Nativize.Proofs.Template
import Nativize.Proofs.Pipeline.Tags
import Nativize.Proofs.Pipeline.Templates
import Nativize.Proofs.ImportRules
import Nativize.Proofs.Pipeline.Completion
import Nativize.Proofs.Pipeline.Coverage
import Nativize.Proofs.Pipeline.Stability
import Nativize.Proofs.Sweep.Refusal
import Nativize.Proofs.Sweep.Aliases
import Nativize.Proofs.Pipeline.StyleMembers
import Nativize.Proofs.Pipeline.PlatformImports
import Nativize.Proofs.Pipeline.ImportNames
import Nativize.Proofs.Stylesheet.Declarations
import Nativize.Proofs.Style.Resolution
import Nativize.Proofs.FileSystem
import Nativize.Proofs.Stylesheet.Repetition
import Nativize.Proofs.CommandLine
import Nativize.Proofs.Json.Reader
import Nativize.Proofs.Profile
import Nativize.Proofs.Style.Merge
import Nativize.Proofs.ImportRuns
import Nativize.Proofs.Attributes
import Nativize.Proofs.Syntax.Lexer.Quotation
import Nativize.Proofs.Usage
import Nativize.Proofs.Syntax.Lexer.Token
import Nativize.Proofs.Syntax.Parser.Reading
import Nativize.Proofs.Syntax.Parser.Constant
import Nativize.Proofs.Fonts.Loading
import Nativize.Proofs.Recognition
import Nativize.Proofs.Reconciliation
import Nativize.Proofs.Style.CamelCase
import Nativize.Proofs.Style.LeadingNumber
import Nativize.Proofs.TemplateStrings
