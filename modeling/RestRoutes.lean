import RestRoutes.Dump
import RestRoutes.Registration
import RestRoutes.Request
import RestRoutes.Route.Document
import RestRoutes.Proofs.Index
import RestRoutes.Proofs.Reordered
import RestRoutes.Proofs.Path.Written
import RestRoutes.Proofs.Request.Failure
import RestRoutes.Proofs.Request.Order
import RestRoutes.Proofs.Request.Routes
import RestRoutes.Proofs.Isolation
import RestRoutes.Proofs.Request.Discipline
import RestRoutes.Proofs.Request.Invariants
import RestRoutes.Proofs.Request.QueryText
import RestRoutes.Proofs.Request.Fresh
import RestRoutes.Proofs.Request.Uri
import RestRoutes.Proofs.Request.Allowed
import RestRoutes.Proofs.Tree.Invariant
import RestRoutes.Proofs.Tree.Prefix
import RestRoutes.Proofs.Pattern.Anchored
import RestRoutes.Proofs.Owners
import RestRoutes.Proofs.Precedence
import RestRoutes.Proofs.Request.Promotion
import RestRoutes.Proofs.Request.Rivals
import RestRoutes.Proofs.Levels
import RestRoutes.Proofs.Tree.Stability
import RestRoutes.Proofs.Path.Gaps
import RestRoutes.Proofs.Path.NormalForm
import RestRoutes.Proofs.Documents
import RestRoutes.Proofs.Json.RoundTrip
import RestRoutes.Proofs.Dumped
import RestRoutes.Proofs.Warnings
import RestRoutes.Proofs.Text.CamelCase
