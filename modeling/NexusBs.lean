import NexusBs.Core.Ranges
import NexusBs.Brew.Commands
import NexusBs.Llc.Protection
import NexusBs.Umac.BsDefrag
import NexusBs.Umac.ReceiveLoop
import NexusBs.Umac.Fragmentation
import NexusBs.Pdus.RoundTrip
import NexusBs.Sched.AccessRights
import NexusBs.Sched.OnAir
import NexusBs.Sched.Eviction
import NexusBs.Llc.AlExclusive
import NexusBs.Llc.AlMatching
import NexusBs.Mle.Reports
import NexusBs.Umac.CallMedia
import NexusBs.Cc.SetupEvents
import NexusBs.Cc.Accounts
import NexusBs.Cc.Identities
import NexusBs.Cmce.ShortMessages
import NexusBs.Sndcp.Bearer
import NexusBs.Lmac.SpeechCoding
