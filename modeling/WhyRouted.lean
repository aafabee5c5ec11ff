import WhyRouted.ActionEffects
import WhyRouted.Actions
import WhyRouted.Adapter
import WhyRouted.Aggregates
import WhyRouted.Answers
import WhyRouted.Attraction
import WhyRouted.Auth
import WhyRouted.Availability
import WhyRouted.ChangingFleet
import WhyRouted.Citations
import WhyRouted.Cites
import WhyRouted.ClientAggregates
import WhyRouted.CodeUnits
import WhyRouted.Completion
import WhyRouted.Config
import WhyRouted.ControlPlane
import WhyRouted.DecisionRecord
import WhyRouted.DecisionTruth
import WhyRouted.Deployable
import WhyRouted.Detection
import WhyRouted.DrainSafety
import WhyRouted.Engine
import WhyRouted.ExactHysteresis
import WhyRouted.Execution
import WhyRouted.Explain
import WhyRouted.ExplanationTruth
import WhyRouted.FailoverHistory
import WhyRouted.FailoverLog
import WhyRouted.FailoverTruth
import WhyRouted.Fairness
import WhyRouted.FaultInjector
import WhyRouted.FaultNotes
import WhyRouted.Fleet
import WhyRouted.FleetCalls
import WhyRouted.FleetSteps
import WhyRouted.FoundPhrases
import WhyRouted.GreedyPatterns
import WhyRouted.Grounding
import WhyRouted.HandleRoute
import WhyRouted.HandlerSteps
import WhyRouted.Histories
import WhyRouted.HttpAdapter
import WhyRouted.Hysteresis
import WhyRouted.IsoTime
import WhyRouted.JsText
import WhyRouted.KeyedList
import WhyRouted.McpApp
import WhyRouted.NextBest
import WhyRouted.Numbers
import WhyRouted.OrderStatistics
import WhyRouted.ParallelLists
import WhyRouted.PatternLanguage
import WhyRouted.Percentiles
import WhyRouted.PhantomEjections
import WhyRouted.PhraseSearch
import WhyRouted.Phrases
import WhyRouted.Probing
import WhyRouted.Progress
import WhyRouted.Provenance
import WhyRouted.Ranking
import WhyRouted.ReadTools
import WhyRouted.Reasons
import WhyRouted.RecordOnce
import WhyRouted.Registry
import WhyRouted.RegistryMirror
import WhyRouted.RelativePhrases
import WhyRouted.RelativeRanges
import WhyRouted.ReplicaServer
import WhyRouted.RequestCalls
import WhyRouted.RequestEndings
import WhyRouted.RequestTruth
import WhyRouted.RetryLoop
import WhyRouted.Rotation
import WhyRouted.RoundAccount
import WhyRouted.RunningMinimum
import WhyRouted.Runs
import WhyRouted.Sampling
import WhyRouted.Scheduler
import WhyRouted.Sending
import WhyRouted.StaleEjections
import WhyRouted.Strategies
import WhyRouted.Sweeps
import WhyRouted.System
import WhyRouted.SystemSteps
import WhyRouted.TextPattern
import WhyRouted.TimeLog
import WhyRouted.TimePairs
import WhyRouted.TimeRange
import WhyRouted.Tools
import WhyRouted.Transport
import WhyRouted.Types
import WhyRouted.WholeTimes
import WhyRouted.WindDown
import WhyRouted.WindowInstants
import WhyRouted.WindowQuestion
import WhyRouted.Wire
import WhyRouted.Wording
