import TeamspeakPrometheus.Library.Splitting
import TeamspeakPrometheus.Library.Substitution
import TeamspeakPrometheus.Library.Mapping
import TeamspeakPrometheus.Library.Search
import TeamspeakPrometheus.Library.Programs
import TeamspeakPrometheus.Wire.Records
import TeamspeakPrometheus.Redaction.Filter
import TeamspeakPrometheus.Exporter.Labels
import TeamspeakPrometheus.Client.Bounds
import TeamspeakPrometheus.Client.Framing
import TeamspeakPrometheus.Healthcheck.Wrappers
import TeamspeakPrometheus.Exporter.Accounting
import TeamspeakPrometheus.Redaction.Printable
import TeamspeakPrometheus.Redaction.Order
import TeamspeakPrometheus.Redaction.Returns
import TeamspeakPrometheus.Client.LineLimit
import TeamspeakPrometheus.Client.Retries
import TeamspeakPrometheus.Exporter.Loop
import TeamspeakPrometheus.Library.Fragments
import TeamspeakPrometheus.Python.Argparse
import TeamspeakPrometheus.Startup.CommandLine
import TeamspeakPrometheus.Startup.Masking
import TeamspeakPrometheus.Healthcheck.Output
import TeamspeakPrometheus.Startup.ConfigurationError
import TeamspeakPrometheus.Healthcheck.ReadBack
import TeamspeakPrometheus.Library.Reports
import TeamspeakPrometheus.Startup.Precedence
import TeamspeakPrometheus.Exporter.Warnings
import TeamspeakPrometheus.Exporter.Conditions
import TeamspeakPrometheus.Library.Lines
import TeamspeakPrometheus.Python.Lines
import TeamspeakPrometheus.Release.ChangelogSection
import TeamspeakPrometheus.Release.Slices
import TeamspeakPrometheus.Library.Lookups
import TeamspeakPrometheus.Release.LinkBlock
import TeamspeakPrometheus.Library.Components
import TeamspeakPrometheus.System.Exporting
import TeamspeakPrometheus.Client.Conversation
import TeamspeakPrometheus.Client.Dialogue
import TeamspeakPrometheus.System.Attached
import TeamspeakPrometheus.System.EndToEnd
import TeamspeakPrometheus.Startup.ParserOutput
import TeamspeakPrometheus.System.Process
import TeamspeakPrometheus.System.Bounded
