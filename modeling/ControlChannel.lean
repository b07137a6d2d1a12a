import ControlChannel.Address
import ControlChannel.Client.Forward
import ControlChannel.Client.Probe
import ControlChannel.Clock
import ControlChannel.Command
import ControlChannel.Command.Arguments
import ControlChannel.Command.Execute
import ControlChannel.Command.Grammar
import ControlChannel.Command.Usage
import ControlChannel.CommandLine
import ControlChannel.CommandLine.Screen
import ControlChannel.CommandLine.Sending
import ControlChannel.CommandLine.Waiting
import ControlChannel.Config
import ControlChannel.Console
import ControlChannel.Console.Color
import ControlChannel.Console.Emoji
import ControlChannel.Console.Emoji.Table
import ControlChannel.Console.Highlight
import ControlChannel.Console.Library
import ControlChannel.Console.Markup
import ControlChannel.Console.Style
import ControlChannel.Console.Styled
import ControlChannel.Console.Theme
import ControlChannel.Console.Wrap
import ControlChannel.Contest
import ControlChannel.Decimal.Binary64
import ControlChannel.Decimal.Reader
import ControlChannel.Decimal.Shortest
import ControlChannel.Delivery
import ControlChannel.Digest.Sha256
import ControlChannel.EnvFile
import ControlChannel.EnvFile.Grammar
import ControlChannel.Environment
import ControlChannel.Error
import ControlChannel.Failure
import ControlChannel.FileTree
import ControlChannel.FileTree.Creation
import ControlChannel.Frame
import ControlChannel.Frame.Reader
import ControlChannel.Handler
import ControlChannel.Json.Parser
import ControlChannel.Json.Printer
import ControlChannel.Json.Value
import ControlChannel.Listener
import ControlChannel.Listener.Binding
import ControlChannel.Listener.Connection
import ControlChannel.Listener.Loop
import ControlChannel.Listener.Tenure
import ControlChannel.Listener.Weather
import ControlChannel.Logging
import ControlChannel.Machine
import ControlChannel.Main
import ControlChannel.Message
import ControlChannel.Notice
import ControlChannel.Output.Course
import ControlChannel.Output.Handle
import ControlChannel.Output.Releases
import ControlChannel.Output.Transport
import ControlChannel.Path
import ControlChannel.Proofs.AddressLength
import ControlChannel.Proofs.AnyPeer
import ControlChannel.Proofs.BoundSocket
import ControlChannel.Proofs.BuiltInCommands
import ControlChannel.Proofs.BuiltMessages
import ControlChannel.Proofs.CleanPaths
import ControlChannel.Proofs.ClosedVariants
import ControlChannel.Proofs.ConnectionAnswer
import ControlChannel.Proofs.DecodedStream
import ControlChannel.Proofs.DerivedAddress
import ControlChannel.Proofs.EchoedWords
import ControlChannel.Proofs.EscapedMarkup
import ControlChannel.Proofs.FailedStart
import ControlChannel.Proofs.FairWeather
import ControlChannel.Proofs.FileTreeGrowth
import ControlChannel.Proofs.FlowingEnds
import ControlChannel.Proofs.ForwardedCalls
import ControlChannel.Proofs.ForwardedCommand
import ControlChannel.Proofs.FrameReading
import ControlChannel.Proofs.FrameRoundTrip
import ControlChannel.Proofs.HandlerCalls
import ControlChannel.Proofs.HostedRuns
import ControlChannel.Proofs.Isolation
import ControlChannel.Proofs.JsonRoundTrip
import ControlChannel.Proofs.JsonSpelling
import ControlChannel.Proofs.LivePeer
import ControlChannel.Proofs.LoopRuns
import ControlChannel.Proofs.MalformedInput
import ControlChannel.Proofs.MessageRoundTrip
import ControlChannel.Proofs.NamedStyles
import ControlChannel.Proofs.NothingLeft
import ControlChannel.Proofs.PathWalks
import ControlChannel.Proofs.PlainWords
import ControlChannel.Proofs.PositiveTimeouts
import ControlChannel.Proofs.ReadCommands
import ControlChannel.Proofs.ReadSchedule
import ControlChannel.Proofs.Rejections
import ControlChannel.Proofs.ReleaseTask
import ControlChannel.Proofs.ReleasedOnce
import ControlChannel.Proofs.ReportedFailures
import ControlChannel.Proofs.SendAccounts
import ControlChannel.Proofs.ServiceOrder
import ControlChannel.Proofs.ServiceRuns
import ControlChannel.Proofs.SharedAddress
import ControlChannel.Proofs.ShownTexts
import ControlChannel.Proofs.SoleOwner
import ControlChannel.Proofs.SplitTexts
import ControlChannel.Proofs.SteadyCourse
import ControlChannel.Proofs.TenureRuns
import ControlChannel.Proofs.TerminalMessage
import ControlChannel.Proofs.ToldFailures
import ControlChannel.Proofs.Undisturbed
import ControlChannel.Proofs.Utf8RoundTrip
import ControlChannel.Proofs.WritingEnds
import ControlChannel.Service
import ControlChannel.Service.Hosted
import ControlChannel.Service.Run
import ControlChannel.Shutdown
import ControlChannel.Site
import ControlChannel.Text.Basic
import ControlChannel.Text.Blank
import ControlChannel.Text.Charset
import ControlChannel.Text.Digit
import ControlChannel.Text.Grapheme
import ControlChannel.Text.LowerCase
import ControlChannel.Text.Numeral
import ControlChannel.Text.Pattern
import ControlChannel.Text.Printable
import ControlChannel.Text.Quoted
import ControlChannel.Text.Ranges
import ControlChannel.Text.UpperCase
import ControlChannel.Text.Utf8
import ControlChannel.Text.Width
import ControlChannel.Text.Word
