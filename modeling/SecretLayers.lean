import SecretLayers.LogFilter
import SecretLayers.Main
import SecretLayers.Loads
import SecretLayers.Session.Timeline
import SecretLayers.Proofs.Session.History
import SecretLayers.Proofs.Session.SingleFlight
import SecretLayers.Proofs.Url.Directory
import SecretLayers.Proofs.Url.Relative
import SecretLayers.Proofs.Store.Confinement
import SecretLayers.Proofs.Properties.Lookup
import SecretLayers.Proofs.Properties.Joining
import SecretLayers.Properties.Fetcher
import SecretLayers.Proofs.Properties.Composition
import SecretLayers.Proofs.Backend.Order
import SecretLayers.Proofs.Store.Dialogues
import SecretLayers.Proofs.Loading.Precedence
import SecretLayers.Proofs.Number.Rounding
import SecretLayers.Proofs.Lease.Threshold
import SecretLayers.Proofs.Config.Acceptance
import SecretLayers.Proofs.Lease.Expiry
import SecretLayers.Proofs.Properties.Promptness
import SecretLayers.Proofs.Properties.Refreshing
import SecretLayers.Proofs.Session.Status
import SecretLayers.Proofs.Session.Waiting
import SecretLayers.Proofs.Session.Renewal
import SecretLayers.Proofs.Session.Clock
import SecretLayers.Proofs.Store.Endings
import SecretLayers.Proofs.Session.Provenance
import SecretLayers.Proofs.Session.Validity
import SecretLayers.Proofs.Session.Revocation
import SecretLayers.Proofs.Session.Eligibility
import SecretLayers.Proofs.Loading.Shutdown
import SecretLayers.Proofs.Store.Sending
import SecretLayers.Proofs.Auth.Unwrapping
import SecretLayers.Proofs.Auth.Credentials
import SecretLayers.Proofs.Auth.Readiness
import SecretLayers.Proofs.Loading.Failures
import SecretLayers.Proofs.Properties.Freshness
import SecretLayers.Proofs.Properties.Clock
import SecretLayers.Proofs.Backend.Resolution
import SecretLayers.Proofs.Contexts.Listing
import SecretLayers.Proofs.Contexts.Specificity
import SecretLayers.Proofs.Json.Reading
import SecretLayers.Proofs.Cli.Masking
import SecretLayers.Proofs.Properties.Flattening
import SecretLayers.Proofs.Session.Leasing
import SecretLayers.Proofs.Session.Silence
import SecretLayers.Proofs.Properties.Silence
import SecretLayers.Proofs.Properties.Arrival
import SecretLayers.Proofs.Loading.Moves
import SecretLayers.Proofs.Loading.Alone
import SecretLayers.Proofs.Loading.Attempts
import SecretLayers.Proofs.Properties.Replacing
import SecretLayers.Proofs.Backend.Expansion
import SecretLayers.Proofs.Backend.Credentials
import SecretLayers.Proofs.Url.Plain
import SecretLayers.Proofs.Store.Layout
import SecretLayers.Proofs.Config.Variables
import SecretLayers.Proofs.Backend.Renaming
import SecretLayers.Proofs.Text.Lowercase
import SecretLayers.Proofs.Auth.Hardware
import SecretLayers.Proofs.Auth.Uniformity
import SecretLayers.Proofs.Loading.Polling
