import ErpFinance.Service.AuditEvidence
import ErpFinance.Service.NumberUniqueness
import ErpFinance.Service.OpeningBalanceControl
import ErpFinance.Service.ReconciliationControl
import ErpFinance.Service.Reversals
import ErpFinance.Service.StatusControl
import ErpFinance.Service.TrialBalance
import ErpFinance.Module.Resolution
import ErpFinance.Pipeline.DependencyOrder
import ErpFinance.Naming.Grammar
import ErpFinance.Api.RouteAgreement
import ErpFinance.Condition.Histories
import ErpFinance.Condition.DecodedTrees
import ErpFinance.Api.TenantAgreement
import ErpFinance.Iam.Revocation
import ErpFinance.Driver.TenantScopes
import ErpFinance.Api.SensitiveFields
import ErpFinance.Api.RowPolicies
import ErpFinance.Api.LostUpdates
import ErpFinance.Api.CustomEntities
import ErpFinance.Audit.Suppression
import ErpFinance.Api.Workflows
import ErpFinance.Api.RateLimits
import ErpFinance.Runtime.NamingSeries
import ErpFinance.Lock.Redis
import ErpFinance.Scheduler.Jobs
import ErpFinance.Generator.RowSecurity
import ErpFinance.Iam.Lockouts
import ErpFinance.Events.Relay
import ErpFinance.Organization.Tree
import ErpFinance.Sdui.Dashboard
import ErpFinance.Iam.Eligibility
import ErpFinance.Iam.ApiKeys
import ErpFinance.Entities.Scopes
import ErpFinance.Iam.PasswordHistory
import ErpFinance.Iam.SessionRepository
import ErpFinance.Iam.PolicyAdapter
import ErpFinance.Iam.SecondFactor
import ErpFinance.Domain.CostCenter
import ErpFinance.Service.ExchangeRates
import ErpFinance.Service.TransactionCreation
import ErpFinance.Service.CorrectionEntries
import ErpFinance.Service.PostingPreview
import ErpFinance.Service.InlinePosting
import ErpFinance.Domain.AccountPath
import ErpFinance.Service.TaxCodes
import ErpFinance.Service.DeterministicReport
import ErpFinance.Migration.Assembly
import ErpFinance.Audit.Redaction
import ErpFinance.Compiler.DepGraph
import ErpFinance.Driver.ShiftParams
import ErpFinance.Service.RecurringTransactions
import ErpFinance.Service.EntryReconciliation
import ErpFinance.Condition.Ordering
import ErpFinance.Naming.Generator
import ErpFinance.Api.QueryStrings
import ErpFinance.Driver.BulkAtomicity
import ErpFinance.Compiler.FingerprintInjectivity
import ErpFinance.Sdui.Adapt
import ErpFinance.Iam.BatchEnforcement
import ErpFinance.Migration.Planner
import ErpFinance.Ioport.Export
import ErpFinance.Ioport.ImportRuns
import ErpFinance.Sdui.Expression
import ErpFinance.Sdui.Layout
import ErpFinance.Crypto.Envelope
import ErpFinance.Configuration.Manager
import ErpFinance.Entities.Sequences
import ErpFinance.Docgen.Slug
