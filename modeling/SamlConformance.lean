import SamlConformance.Asn1.Certificate
import SamlConformance.Asn1.Der
import SamlConformance.Asn1.Header
import SamlConformance.Asn1.KeyInfo
import SamlConformance.Asn1.Period
import SamlConformance.Capture
import SamlConformance.Check
import SamlConformance.Coding.Base64
import SamlConformance.Coding.Percent
import SamlConformance.CommandLine.Listing
import SamlConformance.CommandLine.Option
import SamlConformance.CommandLine.Program
import SamlConformance.CommandLine.Reader
import SamlConformance.CommandLine.Table
import SamlConformance.CommandLine.Usage
import SamlConformance.Config.Basic
import SamlConformance.Config.Printer
import SamlConformance.Config.Reader
import SamlConformance.Config.Request
import SamlConformance.Crypto.BigEndian
import SamlConformance.Crypto.Curve
import SamlConformance.Crypto.Modular
import SamlConformance.Crypto.Rsa
import SamlConformance.Crypto.Sha1
import SamlConformance.Crypto.Sha2
import SamlConformance.Deflate.Bits
import SamlConformance.Deflate.Huffman
import SamlConformance.Deflate.Inflate
import SamlConformance.Domain.Bidi
import SamlConformance.Domain.Composition
import SamlConformance.Domain.Joining
import SamlConformance.Domain.Name
import SamlConformance.Domain.Punycode
import SamlConformance.Domain.Repertoire
import SamlConformance.EnvironmentError
import SamlConformance.Files.Basic
import SamlConformance.Files.Path
import SamlConformance.Files.Tree
import SamlConformance.Idp.Form
import SamlConformance.Idp.Metadata
import SamlConformance.Idp.Registry
import SamlConformance.Idp.Responder
import SamlConformance.Json.Double
import SamlConformance.Json.Fault
import SamlConformance.Json.Printer
import SamlConformance.Json.Reader
import SamlConformance.Json.Value
import SamlConformance.Json.Wanted
import SamlConformance.Judge
import SamlConformance.Main
import SamlConformance.Message.Basic
import SamlConformance.Message.DecodeError
import SamlConformance.Message.Fields
import SamlConformance.Message.Post
import SamlConformance.Message.QuerySignature
import SamlConformance.Message.Received
import SamlConformance.Message.Redirect
import SamlConformance.Proofs.Message.Decoding
import SamlConformance.Proofs.Report.Recording
import SamlConformance.Report.Basic
import SamlConformance.Report.Render
import SamlConformance.Report.Workspace
import SamlConformance.Request
import SamlConformance.RequestId
import SamlConformance.Rule.Assertion
import SamlConformance.Rule.AttributeName
import SamlConformance.Rule.Basic
import SamlConformance.Rule.DataTypes
import SamlConformance.Rule.Groups
import SamlConformance.Rule.Identifier
import SamlConformance.Rule.Issuer
import SamlConformance.Rule.Logout
import SamlConformance.Rule.Repetition
import SamlConformance.Rule.SignOn
import SamlConformance.Rule.SignatureReference
import SamlConformance.Rule.StatusResponse
import SamlConformance.Rule.Transport
import SamlConformance.Rule.Values
import SamlConformance.Rule.Versions
import SamlConformance.Saml.Parts
import SamlConformance.Saml.Vocabulary
import SamlConformance.Signature.Certified
import SamlConformance.Signature.Contract
import SamlConformance.Spec.Clause
import SamlConformance.Spec.Section
import SamlConformance.Spec.Violation
import SamlConformance.Text.Blank
import SamlConformance.Text.Cut
import SamlConformance.Text.Decimal
import SamlConformance.Text.Hex
import SamlConformance.Text.Lines
import SamlConformance.Text.Utf8
import SamlConformance.Time.Date
import SamlConformance.Time.Instant
import SamlConformance.Toml.Quoted
import SamlConformance.Toml.Reader
import SamlConformance.Toml.Scalar
import SamlConformance.Toml.Table
import SamlConformance.Unicode.CodePoints
import SamlConformance.Unicode.Letters
import SamlConformance.Unicode.Visible
import SamlConformance.Unicode.Width
import SamlConformance.Uri.Absolute
import SamlConformance.Uri.Address
import SamlConformance.Xml.Attributes
import SamlConformance.Xml.Document
import SamlConformance.Xml.Error
import SamlConformance.Xml.Markup
import SamlConformance.Xml.Printer
import SamlConformance.Xml.Reference
import SamlConformance.Xml.Scope
import SamlConformance.Xml.Tree
import SamlConformance.Proofs.Judge.Accounting
import SamlConformance.Proofs.Report.History
import SamlConformance.Proofs.Coding.Base64
import SamlConformance.Proofs.Coding.Percent
import SamlConformance.Proofs.Deflate.Store
import SamlConformance.Proofs.Message.Fields
import SamlConformance.Proofs.Message.RoundTrip
import SamlConformance.Proofs.Message.QuerySignature
import SamlConformance.Proofs.Message.SignedText
import SamlConformance.Proofs.Rule.SignedElement
import SamlConformance.Proofs.Judge.CleanVerdict
import SamlConformance.Proofs.Xml.Content
import SamlConformance.Proofs.Xml.Scanning
import SamlConformance.Proofs.Xml.Splitting
import SamlConformance.Proofs.Rule.Spelling.Bare
import SamlConformance.Proofs.Rule.Spelling.Core
import SamlConformance.Proofs.Rule.Spelling.Protocol
import SamlConformance.Proofs.Rule.Spelling.Verdict
import SamlConformance.Proofs.Rule.Breaches.Basic
import SamlConformance.Proofs.Rule.Breaches.Core
import SamlConformance.Proofs.Rule.Breaches.Protocol
import SamlConformance.Proofs.Message.Breaches
import SamlConformance.Proofs.Judge.Status
import SamlConformance.Proofs.Judge.Chapters
import SamlConformance.Proofs.Judge.Checked
import SamlConformance.Proofs.Judge.FirstValues
import SamlConformance.Proofs.Coding.FormData
import SamlConformance.Proofs.Judge.Encoding
import SamlConformance.Proofs.Xml.WellFormed
import SamlConformance.Proofs.Xml.WrittenTag
import SamlConformance.Proofs.Xml.WrittenTree
import SamlConformance.Proofs.Coding.Alphabet
import SamlConformance.Proofs.Message.Payloads
import SamlConformance.Proofs.Report.Order
import SamlConformance.Proofs.Report.Views
import SamlConformance.Proofs.Report.Printing
import SamlConformance.Proofs.Check.Apart
import SamlConformance.Proofs.Check.Series
import SamlConformance.Proofs.Judge.ResponseHead
import SamlConformance.Proofs.Rule.SignOn
import SamlConformance.Proofs.Coding.Prefix
import SamlConformance.Proofs.Deflate.Prefix
import SamlConformance.Proofs.Xml.Epilog
import SamlConformance.Proofs.Xml.Namespaces
import SamlConformance.Proofs.Message.Truncation
import SamlConformance.Proofs.Time.Timeline
import SamlConformance.Proofs.Rule.Offenders
import SamlConformance.Proofs.Judge.RelayState
import SamlConformance.Proofs.Judge.Times
import SamlConformance.Proofs.Rule.Absence
import SamlConformance.Proofs.Check.Details
import SamlConformance.Proofs.Idp.Certificate
import SamlConformance.Proofs.Idp.BracketsInValues
import SamlConformance.Proofs.Coding.Spellings
import SamlConformance.Proofs.Judge.UnreadableEncoding
import SamlConformance.Proofs.Message.Blanks
import SamlConformance.Proofs.Message.Trailing
import SamlConformance.Proofs.Idp.Location
import SamlConformance.Proofs.Rule.Identity
import SamlConformance.Proofs.Rule.StatedType
import SamlConformance.Proofs.Rule.Inspection.Basic
import SamlConformance.Proofs.Rule.Inspection.Core
import SamlConformance.Proofs.Rule.Inspection.Layers
import SamlConformance.Proofs.Rule.Inspection.Sequence
import SamlConformance.Proofs.Report.Nesting
import SamlConformance.Proofs.Spec.DottedName
import SamlConformance.Proofs.Rule.EmailAddress
import SamlConformance.Proofs.Text.Offsets
import SamlConformance.Proofs.Idp.TagCursor
import SamlConformance.Proofs.Idp.PageCursor
