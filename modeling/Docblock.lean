import Docblock.Collection
import Docblock.CommandLine.Arguments
import Docblock.CommandLine.Option
import Docblock.CommandLine.Run
import Docblock.CommandLine.Usage
import Docblock.Comment
import Docblock.Declaration
import Docblock.Exclusion
import Docblock.FileTree.Basic
import Docblock.FileTree.Path
import Docblock.FileTree.Workplace
import Docblock.Html.Entity
import Docblock.Html.Escape
import Docblock.Html.RawTag
import Docblock.Json.Basic
import Docblock.Json.Reader
import Docblock.Json.Writer
import Docblock.Layout
import Docblock.Log.Delivery
import Docblock.Log.Record
import Docblock.Log.Source
import Docblock.Log.Session
import Docblock.Main
import Docblock.Markdown.Block
import Docblock.Markdown.BlockReader
import Docblock.Markdown.Delimiter
import Docblock.Markdown.Inline
import Docblock.Markdown.Line
import Docblock.Markdown.LineReader
import Docblock.Markdown.LinkTarget
import Docblock.Markdown.Opening
import Docblock.Markdown.Page
import Docblock.Markdown.TableReader
import Docblock.Number.Binary64
import Docblock.Number.Numeral
import Docblock.Number.Real
import Docblock.Number.Shortest
import Docblock.OwnerBlock
import Docblock.Proofs.Collection.Gather
import Docblock.Proofs.CommandLine.Course
import Docblock.Proofs.CommandLine.Output
import Docblock.Proofs.CommandLine.Payload
import Docblock.Proofs.Comment.Gutter
import Docblock.Proofs.Comment.Sections
import Docblock.Proofs.Declaration.Shape
import Docblock.Proofs.FileTree.Follow
import Docblock.Proofs.FileTree.Regular
import Docblock.Proofs.Json.Record
import Docblock.Proofs.Json.RoundTrip
import Docblock.Proofs.Layout.Grammar
import Docblock.Proofs.Layout.Seam
import Docblock.Proofs.Layout.Standing
import Docblock.Proofs.OwnerBlock.Enclosure
import Docblock.Proofs.OwnerBlock.Mark
import Docblock.Proofs.OwnerBlock.Marker
import Docblock.Proofs.OwnerBlock.Move
import Docblock.Proofs.Reference.Anchor
import Docblock.Proofs.Scan.Comments
import Docblock.Proofs.Scan.Continuation
import Docblock.Proofs.Scan.Owner
import Docblock.Proofs.Scan.Replacement
import Docblock.Proofs.Scan.Surroundings
import Docblock.Proofs.Scan.Written
import Docblock.Proofs.Service.Agreement
import Docblock.Proofs.Settings.Load
import Docblock.Proofs.Text.Cutting
import Docblock.Proofs.Text.LineEnd
import Docblock.Proofs.Text.Lines
import Docblock.Proofs.Text.Trimming
import Docblock.Proofs.Yaml.Flat
import Docblock.Record
import Docblock.Reference.Anchor
import Docblock.Reference.Document
import Docblock.Reference.Entry
import Docblock.Scan
import Docblock.Service
import Docblock.Settings.Basic
import Docblock.Settings.Coercion
import Docblock.Settings.Load
import Docblock.Tag
import Docblock.Text.Basic
import Docblock.Text.Blank
import Docblock.Text.Case
import Docblock.Text.Caseless
import Docblock.Text.CodeSet
import Docblock.Text.Punctuation
import Docblock.Text.Quoted
import Docblock.Text.Utf8
import Docblock.Text.Word
import Docblock.Url.Address
import Docblock.Url.Punycode
import Docblock.Yaml.Cursor
import Docblock.Yaml.Fault
import Docblock.Yaml.Kind
import Docblock.Yaml.Moment
import Docblock.Yaml.Node
import Docblock.Yaml.NodeReader
import Docblock.Yaml.Number
import Docblock.Yaml.Property
import Docblock.Yaml.Scalar
import Docblock.Yaml.Sextet
import Docblock.Yaml.Token
import Docblock.Yaml.TokenReader
import Docblock.Yaml.Value
import Docblock.Proofs.Collection.Listing
import Docblock.Proofs.Json.Alike
import Docblock.Proofs.Scan.Member
import Docblock.Proofs.Tag.Fields
import Docblock.Proofs.Scan.Lossless
import Docblock.Proofs.Reference.Signature
import Docblock.Proofs.Html.Escape
import Docblock.Proofs.Reference.ReadBack
import Docblock.Proofs.Settings.Report
import Docblock.Proofs.CommandLine.Breakdown
import Docblock.Proofs.Declaration.Piece
import Docblock.Proofs.Declaration.Family
import Docblock.Proofs.Declaration.Assignment
import Docblock.Proofs.Declaration.Keyword
import Docblock.Proofs.OwnerBlock.Lines
import Docblock.Proofs.Comment.Groups
import Docblock.Proofs.Declaration.FirstLine
import Docblock.Proofs.Declaration.Prototype
import Docblock.Proofs.Comment.Tags
import Docblock.Proofs.Reference.Numbering
import Docblock.Proofs.Scan.Example
import Docblock.Proofs.Tag.Typed
import Docblock.Proofs.Tag.Words
import Docblock.Proofs.Text.Spacing
import Docblock.Proofs.Text.Words
import Docblock.Proofs.Html.Lenient
import Docblock.Proofs.Scan.LineEnds
import Docblock.Proofs.Scan.Rendering
import Docblock.Proofs.Settings.Keys
import Docblock.Proofs.Settings.Meaning
import Docblock.Proofs.Tag.Normal
import Docblock.Proofs.OwnerBlock.Nesting
import Docblock.Proofs.FileTree.Writing
import Docblock.Proofs.Log.Session
import Docblock.Proofs.Log.Delivery
