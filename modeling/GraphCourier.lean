import GraphCourier.Client
import GraphCourier.ClientError
import GraphCourier.CommandLine
import GraphCourier.CompleteGraph
import GraphCourier.Decimal
import GraphCourier.Exchange
import GraphCourier.FailurePolicy
import GraphCourier.Http
import GraphCourier.LogFilter
import GraphCourier.LogLine
import GraphCourier.Main
import GraphCourier.Operation
import GraphCourier.Outcome
import GraphCourier.Payload
import GraphCourier.Program
import GraphCourier.Report
import GraphCourier.Response
import GraphCourier.Run
import GraphCourier.Schedule
import GraphCourier.Service
import GraphCourier.Summary
import GraphCourier.Proofs.Sink
import GraphCourier.Proofs.Trace
import GraphCourier.Proofs.Cutoff
import GraphCourier.Proofs.Abort
import GraphCourier.Proofs.Delivery
import GraphCourier.Proofs.CompleteGraphRun
import GraphCourier.Proofs.Tally
import GraphCourier.Proofs.Chaining
import GraphCourier.Proofs.Decoding
import GraphCourier.Proofs.Endpoints
import GraphCourier.Proofs.OverHttp
import GraphCourier.Proofs.Positions
import GraphCourier.Proofs.JsonText
import GraphCourier.Proofs.Numerals
import GraphCourier.Proofs.Grammar
import GraphCourier.Proofs.OperationText
import GraphCourier.Proofs.Requests
import GraphCourier.Proofs.Joining
import GraphCourier.Proofs.WholeRun
import GraphCourier.Proofs.AnswerLines
import GraphCourier.Proofs.SingleCalls
import GraphCourier.Proofs.Length
import GraphCourier.Proofs.Planned
import GraphCourier.Proofs.Precedence
import GraphCourier.Proofs.UnderBase
import GraphCourier.Proofs.FilterText
import GraphCourier.Proofs.Logging
import GraphCourier.Proofs.Reading
import GraphCourier.Proofs.Skipping
import GraphCourier.Proofs.Members
import GraphCourier.Proofs.Records
import GraphCourier.Proofs.ValueTexts
import GraphCourier.Proofs.Answers
import GraphCourier.Proofs.Encodings
import GraphCourier.Proofs.TomlLines
import GraphCourier.Proofs.TomlStrings
import GraphCourier.Proofs.TomlStatements
import GraphCourier.Proofs.TomlTables
import GraphCourier.Proofs.TomlWords
import GraphCourier.Proofs.TomlOutline
import GraphCourier.Proofs.Assembly
import GraphCourier.Proofs.TomlCoherence
import GraphCourier.Proofs.TomlText
import GraphCourier.Proofs.SettingsText
import GraphCourier.Proofs.PolicySpelling
import GraphCourier.Proofs.Prefixes
import GraphCourier.Proofs.SummaryText
