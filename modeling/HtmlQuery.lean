import HtmlQuery.Calendar.Date
import HtmlQuery.Calendar.Fields
import HtmlQuery.Calendar.Pattern
import HtmlQuery.Calendar.Reading
import HtmlQuery.Decimal.Binary
import HtmlQuery.Decimal.Leading
import HtmlQuery.Decimal.Locale
import HtmlQuery.Decimal.Numeral
import HtmlQuery.Decimal.Shortest
import HtmlQuery.Decimal.Text
import HtmlQuery.Document
import HtmlQuery.Encoding.Basic
import HtmlQuery.Encoding.Declaration
import HtmlQuery.Encoding.Decoding
import HtmlQuery.Encoding.Label
import HtmlQuery.Encoding.Table
import HtmlQuery.Encoding.Unicode
import HtmlQuery.Main
import HtmlQuery.Markup.Builder
import HtmlQuery.Markup.Content
import HtmlQuery.Markup.Draft
import HtmlQuery.Markup.Foreign
import HtmlQuery.Markup.Formatting
import HtmlQuery.Markup.Legacy
import HtmlQuery.Markup.Page
import HtmlQuery.Markup.Printer
import HtmlQuery.Markup.Reference
import HtmlQuery.Markup.Reference.Name
import HtmlQuery.Markup.Rules.Body
import HtmlQuery.Markup.Rules.Ending
import HtmlQuery.Markup.Rules.Foreign
import HtmlQuery.Markup.Rules.Frame
import HtmlQuery.Markup.Rules.Head
import HtmlQuery.Markup.Rules.Mode
import HtmlQuery.Markup.Rules.Table
import HtmlQuery.Markup.Rules.Template
import HtmlQuery.Markup.Token
import HtmlQuery.Markup.Token.Declaration
import HtmlQuery.Markup.Token.Reading
import HtmlQuery.Markup.Token.Tag
import HtmlQuery.Query.Basic
import HtmlQuery.Query.Error
import HtmlQuery.Query.Evaluation
import HtmlQuery.Query.Expr
import HtmlQuery.Query.Lexer
import HtmlQuery.Query.Parser
import HtmlQuery.Query.Template
import HtmlQuery.Query.Token
import HtmlQuery.Query.Value
import HtmlQuery.Report
import HtmlQuery.Search.Condition
import HtmlQuery.Search.Named
import HtmlQuery.Search.Scope
import HtmlQuery.Text.Alphabetic
import HtmlQuery.Text.Blank
import HtmlQuery.Text.Digit
import HtmlQuery.Text.Front
import HtmlQuery.Text.Mark
import HtmlQuery.Text.Normal
import HtmlQuery.Text.Normal.Table
import HtmlQuery.Text.Occurrence
import HtmlQuery.Text.Pattern
import HtmlQuery.Text.Printable
import HtmlQuery.Text.Quoted
import HtmlQuery.Text.Table
import HtmlQuery.Tree.Basic
import HtmlQuery.Tree.Content
import HtmlQuery.Tree.Node
import HtmlQuery.Tree.Order
import HtmlQuery.Tree.Place
import HtmlQuery.Tree.Walk
import HtmlQuery.Url.Basic
import HtmlQuery.Url.Host
import HtmlQuery.Url.Name
import HtmlQuery.Url.Name.Direction
import HtmlQuery.Url.Name.Joining
import HtmlQuery.Url.Name.Mapping
import HtmlQuery.Url.Percent
import HtmlQuery.Url.Punycode
import HtmlQuery.Url.Reference
import HtmlQuery.Proofs.Tree.Extent
import HtmlQuery.Proofs.Tree.Order
import HtmlQuery.Proofs.Tree.Preorder
import HtmlQuery.Proofs.Tree.Numbering
import HtmlQuery.Proofs.Tree.Descent
import HtmlQuery.Proofs.Query.Axis
import HtmlQuery.Proofs.Query.Evaluation
import HtmlQuery.Proofs.Query.Position
import HtmlQuery.Proofs.Query.Location
import HtmlQuery.Proofs.Decimal.Scaled
import HtmlQuery.Proofs.Decimal.Rounding
import HtmlQuery.Proofs.Decimal.Equality
import HtmlQuery.Proofs.Query.Substring
import HtmlQuery.Proofs.Query.Lexing
import HtmlQuery.Proofs.Query.Running
import HtmlQuery.Proofs.Query.Parsing
import HtmlQuery.Proofs.Query.Subexpression
import HtmlQuery.Proofs.Query.Rendering
import HtmlQuery.Proofs.Query.WellFormed
import HtmlQuery.Proofs.Query.Height
import HtmlQuery.Proofs.Query.Typing
import HtmlQuery.Proofs.Query.Quoting
import HtmlQuery.Proofs.Query.Template
import HtmlQuery.Proofs.Query.Bridge
import HtmlQuery.Proofs.Query.Abbreviation
import HtmlQuery.Proofs.Query.Bytes
import HtmlQuery.Proofs.Query.Spelling
import HtmlQuery.Proofs.Query.ByteReader
import HtmlQuery.Proofs.Query.Injection
import HtmlQuery.Proofs.Search.Scope
import HtmlQuery.Proofs.Query.Closed
import HtmlQuery.Proofs.Query.NameCheck
import HtmlQuery.Proofs.Encoding.Unicode
import HtmlQuery.Proofs.Encoding.Pairs
import HtmlQuery.Proofs.Encoding.Strictness
import HtmlQuery.Proofs.Text.Blank
import HtmlQuery.Proofs.Text.Words
import HtmlQuery.Proofs.Decimal.Written
import HtmlQuery.Proofs.Decimal.Leading
import HtmlQuery.Proofs.Query.Lookahead
import HtmlQuery.Proofs.Query.Exchange
import HtmlQuery.Proofs.Query.Layout
import HtmlQuery.Proofs.Query.Outcome
import HtmlQuery.Proofs.Query.Placing
import HtmlQuery.Proofs.Query.Comparison
import HtmlQuery.Proofs.Tree.Navigation
import HtmlQuery.Proofs.Query.Pointing
import HtmlQuery.Proofs.Query.Classification
import HtmlQuery.Proofs.Query.Progress
import HtmlQuery.Proofs.Decimal.Locale
import HtmlQuery.Proofs.Text.Pattern
import HtmlQuery.Proofs.Encoding.Declaration
import HtmlQuery.Proofs.Decimal.Numeral
import HtmlQuery.Proofs.Query.Number
import HtmlQuery.Proofs.Text.Occurrence
import HtmlQuery.Proofs.Query.Occurrence
