import HttpHandler.Plan.Build
import HttpHandler.Plan.Descriptor
import HttpHandler.UserDirectory.Routes
import HttpHandler.Proofs.Descriptor.Casing
import HttpHandler.Proofs.Descriptor.Narrowing
import HttpHandler.Proofs.Extraction.Finality
import HttpHandler.Proofs.Operation.Bracketing
import HttpHandler.Proofs.Operation.Surfacing
import HttpHandler.Proofs.Plan.Inertness
import HttpHandler.Proofs.UserDirectory.Runs
import HttpHandler.Proofs.Descriptor.Defaults
import HttpHandler.Proofs.Descriptor.Occurrences
import HttpHandler.Proofs.Descriptor.FirstValue
import HttpHandler.Proofs.Extraction.Tuples
import HttpHandler.Proofs.Response.Streaming
import HttpHandler.Proofs.Response.Fields
import HttpHandler.Proofs.Extraction.Concealment
import HttpHandler.Proofs.Request.NamedValues
import HttpHandler.Proofs.Text.Utf8
import HttpHandler.Proofs.Request.Queries
import HttpHandler.Proofs.Text.Trimming
import HttpHandler.Proofs.Request.Cookies
import HttpHandler.Proofs.Request.CookieIsolation
import HttpHandler.Proofs.Operation.Deadlines
import HttpHandler.Proofs.Operation.Changes
import HttpHandler.Proofs.Request.Bodies
import HttpHandler.Proofs.Number.Numerals
import HttpHandler.Proofs.Descriptor.Integers
import HttpHandler.Proofs.Response.Failures
import HttpHandler.Proofs.UserDirectory.Listing
