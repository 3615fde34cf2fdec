import AdcFeed.Main
import AdcFeed.Proofs.CanonicalLine
import AdcFeed.Proofs.CommandLine.Sender
import AdcFeed.Proofs.Delay.Exact
import AdcFeed.Proofs.Delay.Order
import AdcFeed.Proofs.Delay.Seconds
import AdcFeed.Proofs.Exchange
import AdcFeed.Proofs.FaultMessage
import AdcFeed.Proofs.LineBuffer.Accounts
import AdcFeed.Proofs.LineBuffer.Cursor
import AdcFeed.Proofs.LineBuffer.Occupancy
import AdcFeed.Proofs.LineBuffer.Position
import AdcFeed.Proofs.LineGrammar
import AdcFeed.Proofs.MixedStream
import AdcFeed.Proofs.Number.Binary64
import AdcFeed.Proofs.Number.Written
import AdcFeed.Proofs.Receiver.Bounded
import AdcFeed.Proofs.Receiver.Failing
import AdcFeed.Proofs.Receiver.LastNewline
import AdcFeed.Proofs.Receiver.Log
import AdcFeed.Proofs.Receiver.Prefixes
import AdcFeed.Proofs.Receiver.Resync
import AdcFeed.Proofs.Sampler.Seeded
import AdcFeed.Proofs.Sender.FullSink
import AdcFeed.Proofs.Sender.Pacing
import AdcFeed.Proofs.Sender.Split
import AdcFeed.Proofs.Sender.Transcript
