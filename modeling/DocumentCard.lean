import DocumentCard.Bytes
import DocumentCard.Text.Blank
import DocumentCard.Text.Replace
import DocumentCard.Text.Lowercase
import DocumentCard.Text.Quoted
import DocumentCard.Text.Utf8
import DocumentCard.Text.Utf16
import DocumentCard.Decimal.Binary
import DocumentCard.Decimal.Fixed
import DocumentCard.Decimal.Shortest
import DocumentCard.Single
import DocumentCard.Page.Font
import DocumentCard.Page.WinAnsi
import DocumentCard.Page.Wrap
import DocumentCard.Pdf.Literal
import DocumentCard.Page.Draw
import DocumentCard.Card.Phrase
import DocumentCard.Json.Value
import DocumentCard.Json.Fault
import DocumentCard.Json.Number
import DocumentCard.Json.Reader
import DocumentCard.Base64
import DocumentCard.Json.Decode
import DocumentCard.Pdf.Fault
import DocumentCard.Card.Fault
import DocumentCard.Card.Descriptor
import DocumentCard.Card.DescriptorJson
import DocumentCard.Antivirus.Endpoint
import DocumentCard.Config
import DocumentCard.Session.Fault
import DocumentCard.Rpc.Refusal
import DocumentCard.Pdf.Object
import DocumentCard.Pdf.Syntax
import DocumentCard.Pdf.Document
import DocumentCard.Pdf.Filter.Inflate
import DocumentCard.Pdf.Filter.Lzw
import DocumentCard.Pdf.Filter.Predictor
import DocumentCard.Pdf.Filter
import DocumentCard.Pdf.Xref
import DocumentCard.Pdf.Load
import DocumentCard.Pdf.TextString
import DocumentCard.Card.Attachments
import DocumentCard.Page.Flow
import DocumentCard.Card.Validation
import DocumentCard.Card.Sections
import DocumentCard.Pdf.Write
import DocumentCard.Pdf.Reachable
import DocumentCard.Pdf.PageTree
import DocumentCard.Pdf.Expanded
import DocumentCard.Card.Draft
import DocumentCard.Card.Press
import DocumentCard.Antivirus.Verdict
import DocumentCard.Antivirus.Framing
import DocumentCard.Antivirus.Client
import DocumentCard.Session.PartReader
import DocumentCard.Session.Work
import DocumentCard.Session.Builder
import DocumentCard.Session.Extractor
import DocumentCard.Session.Basic
import DocumentCard.Session.IdSupply
import DocumentCard.Session.Clock
import DocumentCard.Session.Registry
import DocumentCard.Session.LockTable
import DocumentCard.Rpc.Envelope
import DocumentCard.Rpc.Reply
import DocumentCard.Rpc.Call
import DocumentCard.Rpc.Service
import DocumentCard.Rpc.Http
import DocumentCard.Card.CreationTime
import DocumentCard.Main
import DocumentCard.Proofs.Steps
import DocumentCard.Proofs.Session.Registry
import DocumentCard.Proofs.Session.Locking
import DocumentCard.Proofs.Session.Lifetime
import DocumentCard.Proofs.Rpc.Concurrent
import DocumentCard.Proofs.Rpc.Serial
import DocumentCard.Proofs.Rpc.Talk
import DocumentCard.Proofs.Rpc.Traffic
import DocumentCard.Proofs.Rpc.Course
import DocumentCard.Proofs.Rpc.History
import DocumentCard.Proofs.Rpc.Failure
import DocumentCard.Proofs.Rpc.Isolation
import DocumentCard.Proofs.Card.Refusal
import DocumentCard.Proofs.Rpc.RoundTrip
import DocumentCard.Proofs.Rpc.Building
import DocumentCard.Proofs.Rpc.Serving
import DocumentCard.Proofs.Page.Content
import DocumentCard.Proofs.Page.Breaks
import DocumentCard.Proofs.Pdf.Reach
import DocumentCard.Proofs.Pdf.Restore
import DocumentCard.Proofs.Card.Keys
import DocumentCard.Proofs.Card.RoundTrip
import DocumentCard.Proofs.Card.Contents
import DocumentCard.Proofs.Card.Pages
import DocumentCard.Proofs.Rpc.Clearance
import DocumentCard.Proofs.Rpc.Sweeping
import DocumentCard.Proofs.Antivirus.Scan
import DocumentCard.Proofs.Rpc.Gate
import DocumentCard.Proofs.Json.Passing
import DocumentCard.Proofs.Rpc.Envelope
import DocumentCard.Proofs.Rpc.Reply
import DocumentCard.Proofs.Card.KeyOrder
import DocumentCard.Proofs.Rpc.Breakdown
import DocumentCard.Proofs.Card.Filling
import DocumentCard.Proofs.Card.Texts
import DocumentCard.Proofs.Page.Layout
import DocumentCard.Proofs.Page.Glyphs
import DocumentCard.Proofs.Card.NameTree
import DocumentCard.Proofs.Card.Depth
import DocumentCard.Proofs.Card.Sharing
import DocumentCard.Proofs.Card.SignaturePages
import DocumentCard.Proofs.Pdf.Renumber
import DocumentCard.Proofs.Card.Acceptance
import DocumentCard.Proofs.Session.Parts
import DocumentCard.Proofs.Page.Spelling
import DocumentCard.Proofs.Json.Base64
import DocumentCard.Proofs.Json.Records
import DocumentCard.Proofs.Card.Descriptor
import DocumentCard.Proofs.Pdf.TextString
import DocumentCard.Proofs.Pdf.Inheritance
