import PageFeed.Atom
import PageFeed.Data.Fault
import PageFeed.Data.Node
import PageFeed.Decimal.Notation
import PageFeed.Decimal.Shortest
import PageFeed.Error
import PageFeed.Exchange
import PageFeed.Extraction.Entries
import PageFeed.Extraction.Extractor
import PageFeed.Extraction.Format
import PageFeed.Feed
import PageFeed.Fields
import PageFeed.Html.Construction.Adoption
import PageFeed.Html.Construction.Body
import PageFeed.Html.Construction.Classes
import PageFeed.Html.Construction.Foreign
import PageFeed.Html.Construction.Insertion
import PageFeed.Html.Construction.State
import PageFeed.Html.Construction.Step
import PageFeed.Html.Construction.Table
import PageFeed.Html.Document
import PageFeed.Html.Name
import PageFeed.Html.Page
import PageFeed.Html.Reference
import PageFeed.Html.Reference.Table
import PageFeed.Html.Token
import PageFeed.Html.Token.Declaration
import PageFeed.Html.Token.Lexer
import PageFeed.Html.Token.Tag
import PageFeed.Html.Token.Text
import PageFeed.Html.Tree
import PageFeed.Json.Cursor
import PageFeed.Json.Flaw
import PageFeed.Json.Number
import PageFeed.Json.Quoted
import PageFeed.Json.Reading
import PageFeed.Json.Value
import PageFeed.Json.Value.Reading
import PageFeed.Moment.Basic
import PageFeed.Moment.Calendar
import PageFeed.Moment.Internet
import PageFeed.Moment.Layout
import PageFeed.Moment.Mail
import PageFeed.Moment.Names
import PageFeed.Moment.Reader
import PageFeed.Rule.Basic
import PageFeed.Rule.Compilation
import PageFeed.Rule.Display
import PageFeed.Rule.Registry
import PageFeed.Rule.Set
import PageFeed.Rule.Spec.Basic
import PageFeed.Rule.Spec.Loading
import PageFeed.Rule.Spec.Reading
import PageFeed.Rule.Spec.Writing
import PageFeed.Selector.Basic
import PageFeed.Selector.Fault
import PageFeed.Selector.Matching
import PageFeed.Selector.Part
import PageFeed.Selector.Reading
import PageFeed.Selector.Token
import PageFeed.Selector.Token.Lexer
import PageFeed.Text.Blank
import PageFeed.Text.Case
import PageFeed.Text.Case.Table
import PageFeed.Text.Digits
import PageFeed.Text.Outline
import PageFeed.Text.Quoted
import PageFeed.Text.Quoted.Table
import PageFeed.Text.Spans
import PageFeed.Xml.Markup
import PageFeed.Xml.Name
import PageFeed.Yaml.Cursor
import PageFeed.Yaml.Reading
import PageFeed.Yaml.Scalar
import PageFeed.Yaml.Token
import PageFeed.Yaml.Token.Lexer
import PageFeed.Yaml.Token.Tag
import PageFeed.Yaml.Token.Text
import PageFeed.Yaml.Tree.Basic
import PageFeed.Yaml.Tree.Reading
import PageFeed.Proofs.Fields
import PageFeed.Proofs.Extraction.Alignment
import PageFeed.Proofs.Extraction.Containers
import PageFeed.Proofs.Extraction.Independence
import PageFeed.Proofs.Extraction.Agreement
import PageFeed.Proofs.Xml.Reader
import PageFeed.Proofs.Atom.Layout
import PageFeed.Proofs.Html.Linked
import PageFeed.Proofs.Html.Preorder
import PageFeed.Proofs.Html.Tokens
import PageFeed.Proofs.Html.Construction.Sound
import PageFeed.Proofs.Html.Construction.Run
import PageFeed.Proofs.Selector.PageOrder
import PageFeed.Proofs.Fields.Traversal
import PageFeed.Proofs.Rule.Compilation
import PageFeed.Proofs.Text.Digits
import PageFeed.Proofs.Moment.Layout
import PageFeed.Proofs.Moment.Standard
import PageFeed.Proofs.Json.Quoted
import PageFeed.Proofs.Rule.Spec.RoundTrip
import PageFeed.Proofs.Xml.Extent
import PageFeed.Proofs.Atom.Structure
import PageFeed.Proofs.Atom.Injectivity
import PageFeed.Proofs.Extraction.Relevance
import PageFeed.Proofs.Json.Value
import PageFeed.Proofs.Text.Utf8
import PageFeed.Proofs.Exchange.Delivery
import PageFeed.Proofs.Exchange.Decoding
import PageFeed.Proofs.Html.Markup
import PageFeed.Proofs.Xml.Separation
import PageFeed.Proofs.Atom.Indentation
import PageFeed.Proofs.Xml.Grammar
import PageFeed.Proofs.Atom.Writing
import PageFeed.Proofs.Atom.Characters
import PageFeed.Proofs.Json.Agreement
import PageFeed.Proofs.Rule.Faults
import PageFeed.Proofs.Rule.Normalization
import PageFeed.Proofs.Rule.Spec.Strictness
import PageFeed.Proofs.Text.Shape
import PageFeed.Proofs.Moment.Names
import PageFeed.Proofs.Moment.Shape
import PageFeed.Proofs.Moment.Writing
import PageFeed.Proofs.Moment.Shadowing
import PageFeed.Proofs.Atom.Values
import PageFeed.Proofs.Moment.Timestamp
import PageFeed.Proofs.Text.Words
import PageFeed.Proofs.Moment.Grammar
