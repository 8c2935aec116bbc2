import Turnstile.Main
import Turnstile.Limiter.Interleaving
import Turnstile.Store.Holdings
import Turnstile.Store.Removal
import Turnstile.Proofs.Eviction
import Turnstile.Proofs.Ceiling
import Turnstile.Proofs.Pacing
import Turnstile.Proofs.Oscillation
import Turnstile.Proofs.Isolation
import Turnstile.Proofs.Custody
import Turnstile.Proofs.Refusals
import Turnstile.Proofs.Waiting
import Turnstile.Proofs.Interleaving.Admission
import Turnstile.Proofs.Interleaving.Overtaking
import Turnstile.Proofs.Enforcement.Accounting
import Turnstile.Proofs.Enforcement.Forwarding
import Turnstile.Proofs.Retention
import Turnstile.Proofs.Enforcement.Trust
import Turnstile.Proofs.Gateway.Conservation
import Turnstile.Proofs.Gateway.Shutdown
import Turnstile.Checked
import Turnstile.Proofs.Exactness
import Turnstile.Proofs.Advice
import Turnstile.Proofs.Earnings
import Turnstile.Proofs.Lifetimes
import Turnstile.Proofs.Net.Intervals
import Turnstile.Proofs.Net.RangeText
import Turnstile.Proofs.Net.Hosts
import Turnstile.Proofs.Interleaving.Removal
import Turnstile.Proofs.ClientKey.Peers
import Turnstile.Proofs.ClientKey.Tokens
import Turnstile.Proofs.Enforcement.Responses
import Turnstile.Proofs.Gateway.Start
import Turnstile.Proofs.Settings.Reading
import Turnstile.Proofs.Gateway.Listening
import Turnstile.Proofs.Gateway.Publication
import Turnstile.Proofs.Observation
