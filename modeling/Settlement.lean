import Settlement.Journal
import Settlement.Proofs.Conservation
import Settlement.Proofs.Consent
import Settlement.Proofs.Refusal
import Settlement.Proofs.Audit
import Settlement.Proofs.Damage
import Settlement.Proofs.Replica
import Settlement.Proofs.Lifecycle
import Settlement.Proofs.Layout
import Settlement.Proofs.Canonical
import Settlement.Proofs.Payout
import Settlement.Proofs.Supply
import Settlement.Proofs.Deed
import Settlement.Proofs.Commutation
import Settlement.Proofs.Permanence
import Settlement.Proofs.RoundTrip
import Settlement.Proofs.Transport
import Settlement.Proofs.Verification
import Settlement.Proofs.Signing
import Settlement.Proofs.Isolation
import Settlement.Proofs.Wallet
import Settlement.Proofs.Spending
import Settlement.Proofs.Payment
import Settlement.Proofs.Expiry
import Settlement.Proofs.Births
import Settlement.Proofs.Bookkeeping
import Settlement.Proofs.Order
import Settlement.Proofs.Condition
import Settlement.Proofs.CoinText
import Settlement.Proofs.Iteration
import Settlement.Proofs.Keyspace
import Settlement.Proofs.DigestText
