import LicenseText.Main
import LicenseText.Proofs.Extraction
import LicenseText.Proofs.Delimited.RoundTrip
import LicenseText.Proofs.Html.RoundTrip
import LicenseText.Proofs.Xml.RoundTrip
import LicenseText.Proofs.Item.CommentsOnly
import LicenseText.Proofs.WithoutStrings
import LicenseText.Proofs.License.Relevance
import LicenseText.Proofs.License.JoinedHeader
import LicenseText.Proofs.Verdict
import LicenseText.Proofs.Survey.Consistency
import LicenseText.Proofs.Delimited.BlockEnd
import LicenseText.Proofs.Html.TextLines
import LicenseText.Proofs.Html.Truncation
import LicenseText.Proofs.Html.TextOrder
import LicenseText.Proofs.SourceOrder
import LicenseText.Proofs.Survey.ClassifierText
import LicenseText.Proofs.Xml.ByteOrderMark
import LicenseText.Proofs.FileTree.Plain
import LicenseText.Proofs.Text.ByteOrder
import LicenseText.Proofs.FileTree.Walk
import LicenseText.Proofs.CommandLine.ExitCode
import LicenseText.Proofs.Config.Precedence
import LicenseText.Proofs.Delimited.LineAccount
import LicenseText.Proofs.Delimited.Concatenation
import LicenseText.Proofs.Delimited.DiscoveryOrder
import LicenseText.Proofs.ItemLines
import LicenseText.Proofs.Delimited.Layout
import LicenseText.Proofs.Delimited.QuotedSpans
import LicenseText.Proofs.Item.Rejoining
import LicenseText.Proofs.Item.Runs
import LicenseText.Proofs.License.HeaderChoice
import LicenseText.Proofs.Survey.TaggedComment
import LicenseText.Proofs.Html.Chunks
import LicenseText.Proofs.Html.CommentText
import LicenseText.Proofs.Text.Lookup
import LicenseText.Proofs.Text.Words
import LicenseText.Proofs.FileType.Detection
import LicenseText.Proofs.Config.Overrides
import LicenseText.Proofs.FileType.InterpreterLine
import LicenseText.Proofs.Report.Plain
import LicenseText.Proofs.Report.TypeSummary
import LicenseText.Proofs.License.Division
import LicenseText.Proofs.Delimited.OpenBlock
import LicenseText.Proofs.Report.Terminal
import LicenseText.Proofs.Text.LineCursor
import LicenseText.Proofs.Xml.Positions
import LicenseText.Proofs.Xml.Positions
