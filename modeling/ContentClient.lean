import ContentClient.Client.Upload
import ContentClient.Http.ScriptedServer
import ContentClient.Listing.PageIterator
import ContentClient.Multipart.Writer
import ContentClient.Proofs.Client.Bodies
import ContentClient.Proofs.Client.Heads
import ContentClient.Proofs.Client.Resending
import ContentClient.Proofs.Client.Retries
import ContentClient.Proofs.Http.Replaying
import ContentClient.Proofs.Json.Counts
import ContentClient.Proofs.Listing.MarkerPaging
import ContentClient.Proofs.Listing.OffsetPaging
import ContentClient.Proofs.Listing.Progress
import ContentClient.Proofs.Multipart.Body
import ContentClient.Proofs.Multipart.Decoding
import ContentClient.Proofs.Multipart.Parts
import ContentClient.Proofs.Multipart.Passes
import ContentClient.Proofs.Multipart.Received
import ContentClient.Proofs.Stream.Sharing
import ContentClient.Proofs.Text.Cutting
import ContentClient.Proofs.Text.Utf8
import ContentClient.Proofs.Url.Form
import ContentClient.Proofs.Http.BodyHeaders
import ContentClient.Proofs.Listing.PageQueries
import ContentClient.Proofs.Multipart.Breaking
import ContentClient.Proofs.Json.Tokens
import ContentClient.Proofs.Json.Values
import ContentClient.Proofs.Json.Records
import ContentClient.Proofs.Http.Classification
import ContentClient.Proofs.Client.Paths
import ContentClient.Proofs.Backoff.Families
import ContentClient.Proofs.Multipart.Pushing
import ContentClient.Proofs.Multipart.Refusals
import ContentClient.Proofs.Multipart.Reports
import ContentClient.Proofs.Backoff.Jitter
import ContentClient.Proofs.Client.Waits
import ContentClient.Proofs.Multipart.Logging
import ContentClient.Proofs.Client.Bases
import ContentClient.Proofs.Multipart.Fields
import ContentClient.Proofs.Stream.Carrying
