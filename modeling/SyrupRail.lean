import SyrupRail.Lib.Calendar
import SyrupRail.Lib.RustText
import SyrupRail.Lib.Duplicates
import SyrupRail.Lib.Fields
import SyrupRail.Lib.Keyset
import SyrupRail.Lib.Run
import SyrupRail.Lib.Table
import SyrupRail.Lib.Tx
import SyrupRail.Nmi.DecisionSpec
import SyrupRail.Nmi.WireOrder
import SyrupRail.Nmi.HttpError
import SyrupRail.Nmi.Guarded
import SyrupRail.Nmi.Reference
import SyrupRail.Nmi.ReportOrder
import SyrupRail.Nmi.ReportPage
import SyrupRail.Nmi.RequestBudget
import SyrupRail.Gateway.CardScan
import SyrupRail.Attempt.Fingerprint
import SyrupRail.Attempt.StateMachine
import SyrupRail.Charge.Ledger
import SyrupRail.Dunning.Schedule
import SyrupRail.Store.Parking
import SyrupRail.Store.Reconcile
import SyrupRail.Store.Exclusivity
import SyrupRail.Store.Reversal
import SyrupRail.Store.Access
import SyrupRail.Store.DueScan
import SyrupRail.Store.Classification
import SyrupRail.Lifecycle.Convergence
import SyrupRail.Lifecycle.NoLoss
import SyrupRail.Gateway.Truncate
import SyrupRail.Discount.Charge
import SyrupRail.Discount.Code
import SyrupRail.Discount.Enrollment
import SyrupRail.Attempt.LegacyMatch
import SyrupRail.Lib.CivilDays
import SyrupRail.PeriodChain
import SyrupRail.Lifecycle.Quarantine
import SyrupRail.Gateway.Redact
import SyrupRail.Gateway.FieldRedaction
import SyrupRail.Store.ManualFailure
import SyrupRail.Store.TerminalAccess
import SyrupRail.Store.Timeline
import SyrupRail.Store.DiscountLine
import SyrupRail.Lib.Call
import SyrupRail.Store.Audit
import SyrupRail.Store.Remembered
import SyrupRail.Store.HostReports
import SyrupRail.Store.HostTargets
import SyrupRail.Lib.Capability
import SyrupRail.Store.Submission
