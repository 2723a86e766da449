import SharedRing.Main
import SharedRing.Span
import SharedRing.Proofs.Backoff
import SharedRing.Proofs.Wait
import SharedRing.Proofs.Ring.Circle
import SharedRing.Proofs.Ring.Footprint
import SharedRing.Proofs.Ring.Queue
import SharedRing.Proofs.Ring.Admission
import SharedRing.Proofs.Channel.Attachment
import SharedRing.Proofs.Channel.Delivery
import SharedRing.Proofs.Departure
import SharedRing.Proofs.Interchange
import SharedRing.Proofs.Spelling
import SharedRing.Proofs.Video.Exchange
import SharedRing.Proofs.Video.Sizing
import SharedRing.Proofs.Video.Pace
import SharedRing.Proofs.Video.Room
