import SimilarityClient.Binary64.Basic
import SimilarityClient.Binary64.Decimal
import SimilarityClient.Binary64.Text
import SimilarityClient.Charset
import SimilarityClient.Client
import SimilarityClient.Collection
import SimilarityClient.CommandLine.Flag
import SimilarityClient.CommandLine.Help
import SimilarityClient.CommandLine.Invocation
import SimilarityClient.CommandLine.Scan
import SimilarityClient.Config
import SimilarityClient.EnvFile
import SimilarityClient.Extension
import SimilarityClient.FileTree
import SimilarityClient.Form.Controller
import SimilarityClient.Form.Endpoint
import SimilarityClient.Form.Slot
import SimilarityClient.Form.Ticket
import SimilarityClient.Form.View
import SimilarityClient.Html.Markup
import SimilarityClient.Html.Page
import SimilarityClient.Json.Fault
import SimilarityClient.Json.Number
import SimilarityClient.Json.Record
import SimilarityClient.Json.Skip
import SimilarityClient.Json.Text
import SimilarityClient.Main
import SimilarityClient.Multipart
import SimilarityClient.Path
import SimilarityClient.Proofs.Binary64.Drift
import SimilarityClient.Proofs.Binary64.Hundredths
import SimilarityClient.Proofs.Binary64.Nearest
import SimilarityClient.Proofs.Binary64.Shortest
import SimilarityClient.Proofs.Client.Body
import SimilarityClient.Proofs.Client.Parts
import SimilarityClient.Proofs.Collection.Arrangement
import SimilarityClient.Proofs.Collection.Candidates
import SimilarityClient.Proofs.Collection.Distinct
import SimilarityClient.Proofs.Collection.Selection
import SimilarityClient.Proofs.Config.Address
import SimilarityClient.Proofs.Config.Canonical
import SimilarityClient.Proofs.Config.Precedence
import SimilarityClient.Proofs.Csv.Reader
import SimilarityClient.Proofs.Fallible
import SimilarityClient.Proofs.FileTree.Place
import SimilarityClient.Proofs.FileTree.Readback
import SimilarityClient.Proofs.FileTree.Walk
import SimilarityClient.Proofs.FileTree.Write
import SimilarityClient.Proofs.Form.RequestOrder
import SimilarityClient.Proofs.Form.Run
import SimilarityClient.Proofs.Form.Slots
import SimilarityClient.Proofs.Html.Elements
import SimilarityClient.Proofs.Html.Form
import SimilarityClient.Proofs.Html.Panel
import SimilarityClient.Proofs.Json.Number
import SimilarityClient.Proofs.Json.Record
import SimilarityClient.Proofs.Json.Reread
import SimilarityClient.Proofs.Json.Scale
import SimilarityClient.Proofs.Json.Text
import SimilarityClient.Proofs.Multipart.Divide
import SimilarityClient.Proofs.Multipart.Reader
import SimilarityClient.Proofs.Path.Name
import SimilarityClient.Proofs.Report.Decoded
import SimilarityClient.Proofs.Report.Json
import SimilarityClient.Proofs.Report.Percentage
import SimilarityClient.Proofs.Report.Shown
import SimilarityClient.Proofs.Session.Course
import SimilarityClient.Proofs.Session.DryRun
import SimilarityClient.Proofs.Session.Output
import SimilarityClient.Proofs.Session.Stages
import SimilarityClient.Proofs.SourceFile.First
import SimilarityClient.Proofs.SourceFile.Order
import SimilarityClient.Proofs.Text.Blank
import SimilarityClient.Proofs.Text.Numeral
import SimilarityClient.Proofs.Text.Utf8
import SimilarityClient.Report.Basic
import SimilarityClient.Report.Csv
import SimilarityClient.Report.Decode
import SimilarityClient.Report.Render
import SimilarityClient.Session
import SimilarityClient.SourceFile
import SimilarityClient.Text.Blank
import SimilarityClient.Text.Case
import SimilarityClient.Text.CaseTable
import SimilarityClient.Text.ClassTable
import SimilarityClient.Text.Numeral
import SimilarityClient.Text.Quoted
import SimilarityClient.Text.Utf8
import SimilarityClient.Url
import SimilarityClient.Wire
import SimilarityClient.Proofs.Report.Highest
import SimilarityClient.Proofs.Session.Summary
import SimilarityClient.Proofs.Json.Grammar
import SimilarityClient.Proofs.Json.Skip
import SimilarityClient.Proofs.Json.Scalars
import SimilarityClient.Proofs.Json.Lists
import SimilarityClient.Proofs.Json.Filling
import SimilarityClient.Proofs.Json.Layout
import SimilarityClient.Proofs.Report.Layout
import SimilarityClient.Proofs.Collection.Naming
import SimilarityClient.Proofs.Binary64.Plain
import SimilarityClient.Proofs.Report.Order
import SimilarityClient.Proofs.Json.Finite
import SimilarityClient.Proofs.Report.Written
import SimilarityClient.Proofs.Html.Bars
import SimilarityClient.Proofs.Report.Numbers
import SimilarityClient.Proofs.Url.Authority
import SimilarityClient.Proofs.Config.Pair
import SimilarityClient.Proofs.Text.Lower
import SimilarityClient.Proofs.Report.Maximum
import SimilarityClient.Proofs.Extension.Spelling
import SimilarityClient.Proofs.Collection.Respelling
import SimilarityClient.Proofs.Path.Alike
import SimilarityClient.Proofs.SourceFile.Classes
import SimilarityClient.Libraries
import SimilarityClient.Proofs.Binary64.PlainNearest
