import NodeDesk.Disk
import NodeDesk.Json.Embedded
import NodeDesk.Main
import NodeDesk.Proofs.Calendar.Style
import NodeDesk.Proofs.Catalogue.Admission
import NodeDesk.Proofs.Catalogue.Calls
import NodeDesk.Proofs.Cli.Render
import NodeDesk.Proofs.Config.Load
import NodeDesk.Proofs.Html.Entities
import NodeDesk.Proofs.Http.AccessLog
import NodeDesk.Proofs.Http.AuditLine
import NodeDesk.Proofs.Http.CookieJar
import NodeDesk.Proofs.Http.CrossOrigin
import NodeDesk.Proofs.Http.Export
import NodeDesk.Proofs.Http.Links
import NodeDesk.Proofs.Http.Order
import NodeDesk.Proofs.Http.Walk
import NodeDesk.Proofs.Page
import NodeDesk.Proofs.Submission.Normal
import NodeDesk.Proofs.Token.Extension
import NodeDesk.Proofs.Token.Jar
import NodeDesk.Proofs.Token.Signature
import NodeDesk.Proofs.Url.Dots
import NodeDesk.Proofs.Url.Spelling
import NodeDesk.Proofs.View.Carried
import NodeDesk.Proofs.View.Shape
