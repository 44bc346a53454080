import KnowledgeGap.Relational.Table
import KnowledgeGap.Relational.Dict
import KnowledgeGap.Relational.Focus
import KnowledgeGap.Relational.StableSort
import KnowledgeGap.Relational.Upsert
import KnowledgeGap.Protocol.Runs
import KnowledgeGap.Protocol.Fencing
import KnowledgeGap.Data.Time
import KnowledgeGap.Data.Number
import KnowledgeGap.Data.Config
import KnowledgeGap.Data.Schema
import KnowledgeGap.Jobs.Queue
import KnowledgeGap.Jobs.Fencing
import KnowledgeGap.Kb.Graph
import KnowledgeGap.Pipeline.Mastery
import KnowledgeGap.Pipeline.Weakness
import KnowledgeGap.Pipeline.Attribution
import KnowledgeGap.Verdicts.Materialize
import KnowledgeGap.Verdicts.Lifecycle
import KnowledgeGap.Verdicts.Refinement
import KnowledgeGap.Intervention.Actions
import KnowledgeGap.Intervention.Generate
import KnowledgeGap.Intervention.Invariant
import KnowledgeGap.Intervention.Effect
import KnowledgeGap.Intervention.Agreement
import KnowledgeGap.Intervention.Regenerate
import KnowledgeGap.Reports.Prefetch
import KnowledgeGap.Pipeline.Evidence
import KnowledgeGap.Intervention.Retest
import KnowledgeGap.Intervention.View
import KnowledgeGap.Intervention.Reach
import KnowledgeGap.Jobs.Reports
import KnowledgeGap.Jobs.Desk
import KnowledgeGap.Kb.Versions
import KnowledgeGap.Kb.Exchange
import KnowledgeGap.Kb.Requests
import KnowledgeGap.Kb.Fork
import KnowledgeGap.Kb.Import
import KnowledgeGap.Kb.RoundTrip
import KnowledgeGap.Kb.Activation
import KnowledgeGap.Kb.Governance
import KnowledgeGap.Pipeline.Rekeyed
import KnowledgeGap.Pipeline.Trajectory
import KnowledgeGap.Pipeline.Quartile
import KnowledgeGap.Kb.Switching
import KnowledgeGap.Ingestion.Photo
import KnowledgeGap.Ingestion.Batch
import KnowledgeGap.Ingestion.LateWorkers
import KnowledgeGap.Data.Rounding
import KnowledgeGap.Ingestion.Commit
import KnowledgeGap.Ingestion.CommitOrder
import KnowledgeGap.Ingestion.OrderFree
import KnowledgeGap.Reports.Diagnosis
import KnowledgeGap.Verdicts.History
import KnowledgeGap.Intervention.LateExam
import KnowledgeGap.Intervention.Operate
import KnowledgeGap.Intervention.Groups
import KnowledgeGap.Ingestion.Service
import KnowledgeGap.Ingestion.Queued
import KnowledgeGap.Ingestion.Matching
import KnowledgeGap.Ingestion.Names
import KnowledgeGap.Data.Float
import KnowledgeGap.Data.Arithmetic
import KnowledgeGap.Ingestion.Preflight
import KnowledgeGap.Ingestion.PhotoScores
import KnowledgeGap.Ingestion.Review
import KnowledgeGap.Ingestion.Excel
import KnowledgeGap.Ingestion.ExcelRows
import KnowledgeGap.Ingestion.ExcelStops
import KnowledgeGap.Ingestion.ReadyCommit
import KnowledgeGap.Ingestion.PhotoRefinement
import KnowledgeGap.Protocol.Window
import KnowledgeGap.Router.Scheduler
import KnowledgeGap.Router.Counting
import KnowledgeGap.Router.Limits
import KnowledgeGap.Router.Proxy
import KnowledgeGap.Router.Slots
import KnowledgeGap.Router.Answers
import KnowledgeGap.Gateway.Budget
import KnowledgeGap.Gateway.Accounts
import KnowledgeGap.Gateway.Charging
import KnowledgeGap.Gateway.Bridges
import KnowledgeGap.Gateway.Subscribers
import KnowledgeGap.Gateway.Spawning
import KnowledgeGap.Gateway.Children
import KnowledgeGap.Gateway.EarlySubscribers
import KnowledgeGap.Gateway.Scope
import KnowledgeGap.Gateway.Scoping
import KnowledgeGap.Gateway.Trigger
import KnowledgeGap.Gateway.Receipts
import KnowledgeGap.Gateway.Triggering
import KnowledgeGap.Gateway.Recovery
import KnowledgeGap.Auth.Tokens
import KnowledgeGap.Auth.TokenSoundness
import KnowledgeGap.Auth.Access
import KnowledgeGap.Auth.Agreement
import KnowledgeGap.Auth.Refusals
import KnowledgeGap.Protocol.Session
import KnowledgeGap.Reports.Office
import KnowledgeGap.Reports.Generation
import KnowledgeGap.Reports.Regeneration
import KnowledgeGap.Reports.Archiving
import KnowledgeGap.Reports.Signing
import KnowledgeGap.Reports.Desk
import KnowledgeGap.Reports.Narrowing
import KnowledgeGap.Llm.Circuit
import KnowledgeGap.Intervention.Study
import KnowledgeGap.Intervention.Rounds
import KnowledgeGap.Intervention.SelfReport
import KnowledgeGap.Pipeline.Gates
import KnowledgeGap.Search.Walk
import KnowledgeGap.Kb.Ancestry
import KnowledgeGap.Kb.Relations
import KnowledgeGap.Pipeline.Roots
import KnowledgeGap.Numeric.WeightedMean
import KnowledgeGap.Pipeline.Averaging
import KnowledgeGap.Pipeline.Anomaly
import KnowledgeGap.Intervention.Sharing
import KnowledgeGap.Intervention.Recovery
import KnowledgeGap.Reports.Quality
import KnowledgeGap.Intervention.Summary
import KnowledgeGap.Intervention.Adoption
import KnowledgeGap.Intervention.Levers
import KnowledgeGap.Reports.Sheet
import KnowledgeGap.Verdicts.Notes
import KnowledgeGap.Verdicts.Closure
import KnowledgeGap.Auth.Throttle
import KnowledgeGap.Auth.RedisThrottle
import KnowledgeGap.Kb.Editing
import KnowledgeGap.Kb.Deletion
import KnowledgeGap.Kb.Archiving
import KnowledgeGap.Kb.Floors
import KnowledgeGap.Ingestion.Template
import KnowledgeGap.Ingestion.TemplateReading
import KnowledgeGap.Ingestion.TemplateNumbers
import KnowledgeGap.Ingestion.TemplateStoring
import KnowledgeGap.Ingestion.TemplateSurvival
import KnowledgeGap.Diagnosis.Blueprint
import KnowledgeGap.Diagnosis.Confirmation
import KnowledgeGap.Diagnosis.Measuring
import KnowledgeGap.Protocol.FixedWindow
import KnowledgeGap.Protocol.Announce
import KnowledgeGap.Relational.Totals
import KnowledgeGap.Ledger.Usage
import KnowledgeGap.Gateway.MonthlyUsage
import KnowledgeGap.Ingestion.Totals
import KnowledgeGap.Llm.JsonText
import KnowledgeGap.Llm.JsonRoundTrip
import KnowledgeGap.Llm.JsonQuotes
import KnowledgeGap.Llm.Extraction
import KnowledgeGap.MindMap.Tree
import KnowledgeGap.MindMap.Shape
import KnowledgeGap.MindMap.Canvas
import KnowledgeGap.Layout.Bands
import KnowledgeGap.MindMap.Layout
import KnowledgeGap.MindMap.Flatten
import KnowledgeGap.MindMap.Filing
import KnowledgeGap.Text.Bytes
import KnowledgeGap.Auth.Passwords
import KnowledgeGap.Auth.Accounts
import KnowledgeGap.Auth.Logins
