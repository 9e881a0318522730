import KernelStats.Chain.Sample
import KernelStats.Proofs.Cache.FirstInsert
import KernelStats.Proofs.Mirror.Run
import KernelStats.Proofs.Record.Layout
import KernelStats.Proofs.Record.RoundTrip
import KernelStats.Proofs.Settings.FirstLoad
import KernelStats.Proofs.Settings.LoadOnce
import KernelStats.Proofs.Settings.LogSettings
import KernelStats.Proofs.Settings.QuotedFile
import KernelStats.Proofs.Token.CloseCount
import KernelStats.Proofs.Token.Display
import KernelStats.Proofs.Token.Document
import KernelStats.Proofs.Token.Enumeration
import KernelStats.Proofs.Token.Errno
import KernelStats.Proofs.Token.Failures
import KernelStats.Proofs.Token.HandedOut
import KernelStats.Proofs.Token.Logging
import KernelStats.Proofs.Token.NeededReads
import KernelStats.Proofs.Token.OneObject
import KernelStats.Proofs.Token.OneRead
import KernelStats.Proofs.Token.RunningMaximum
import KernelStats.Proofs.Token.Selection
import KernelStats.Proofs.Token.Separation
import KernelStats.Proofs.Token.Statistics
import KernelStats.Proofs.Token.Timestamps
import KernelStats.Settings.Program
