import Syslog.Calendar.DayNumber
import Syslog.Main
import Syslog.Proofs.Collector.Balance
import Syslog.Proofs.DateText.MonthNames
import Syslog.Proofs.Message.StructuredDelivery
import Syslog.Proofs.Message.TaggedDelivery
import Syslog.Proofs.Pool.Shutdown
import Syslog.Proofs.Record.Edges
import Syslog.Proofs.Grammar.Spelling
import Syslog.Proofs.Grammar.Fitting
import Syslog.Proofs.Record.Names
import Syslog.Proofs.Message.TaggedLine
import Syslog.Proofs.Message.LineReading
import Syslog.Proofs.Message.Numbering
import Syslog.Proofs.Grammar.ReadBack
import Syslog.Proofs.Catalog.Concatenation
import Syslog.Proofs.Collector.Coverage
import Syslog.Proofs.Collector.SelfContained
import Syslog.Proofs.Message.IsoDelivery
import Syslog.Proofs.Collector.Relayed
import Syslog.Proofs.Catalog.Loading
import Syslog.Proofs.Message.ReportedTime
import Syslog.Proofs.Record.YearTurn
import Syslog.Proofs.Report.Lines
import Syslog.Proofs.Program.Inputs
import Syslog.Proofs.SourceMarker.Rejoining
import Syslog.Proofs.Record.Instants
import Syslog.Proofs.Record.Undated
import Syslog.Proofs.DateText.ClockParts
import Syslog.Proofs.DateText.Timestamps
import Syslog.Proofs.Grammar.Preference
import Syslog.Proofs.Grammar.ElementScan
import Syslog.Proofs.Grammar.Faults
import Syslog.Proofs.HostName.Labels
import Syslog.Proofs.Collector.LineEnds
import Syslog.Proofs.Record.Clamping
import Syslog.Proofs.Settings.Offset
import Syslog.Proofs.Toml.Lines
import Syslog.Proofs.Settings.Layers
import Syslog.Proofs.Fields.History
import Syslog.Proofs.SourceMarker.Decomposition
import Syslog.Proofs.DateText.Canonical
import Syslog.Proofs.Message.Firewall
import Syslog.Proofs.Catalog.WrittenBack
import Syslog.Proofs.DateText.AnyOrder
