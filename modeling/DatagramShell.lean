import DatagramShell.Main
import DatagramShell.Service.Schedule
import DatagramShell.Service.Turns
import DatagramShell.Proofs.Report.RoundTrip
import DatagramShell.Proofs.Stream.Encoding
import DatagramShell.Proofs.Stream.Partition
import DatagramShell.Proofs.Stream.Loss
import DatagramShell.Proofs.Stream.History
import DatagramShell.Proofs.Client.Delivery
import DatagramShell.Proofs.Service.Reply
import DatagramShell.Proofs.Service.Row
import DatagramShell.Proofs.Service.Fifo
import DatagramShell.Proofs.Service.Accounting
import DatagramShell.Proofs.Service.Blocks
import DatagramShell.Proofs.Process.Output
import DatagramShell.Proofs.Service.Options
import DatagramShell.Proofs.Service.Limits
import DatagramShell.Proofs.Service.Interleaving
import DatagramShell.Proofs.Request
import DatagramShell.Proofs.Service.Segments
import DatagramShell.Proofs.Text.Encoded
import DatagramShell.Proofs.Client.Options
import DatagramShell.Proofs.Client.Agreement
import DatagramShell.Proofs.Service.Independence
import DatagramShell.Proofs.Service.Shutdown
import DatagramShell.Proofs.Client.Success
import DatagramShell.Proofs.Report.Grammar
import DatagramShell.Proofs.Stream.Failures
import DatagramShell.Proofs.Stream.Order
import DatagramShell.Proofs.Client.Deciding
import DatagramShell.Proofs.Service.Abandoned
import DatagramShell.Proofs.Process.Fragments
import DatagramShell.Proofs.Service.Burst
import DatagramShell.Proofs.Options.Settings
import DatagramShell.Proofs.Service.Precedence
import DatagramShell.Proofs.Client.Words
import DatagramShell.Proofs.Service.Lifetime
