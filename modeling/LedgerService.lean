import LedgerService.Audit
import LedgerService.Authorization
import LedgerService.Balances
import LedgerService.Benchmarks.Counters
import LedgerService.Benchmarks.Distribution
import LedgerService.Benchmarks.HotAccount
import LedgerService.Benchmarks.Lifetimes
import LedgerService.Benchmarks.Pools
import LedgerService.Completion
import LedgerService.Concealment
import LedgerService.Conditions
import LedgerService.Details
import LedgerService.Failures
import LedgerService.Inactivity
import LedgerService.Inverses
import LedgerService.Observations
import LedgerService.Overdrafts
import LedgerService.Ownership
import LedgerService.Pagination
import LedgerService.Records
import LedgerService.Sanity
import LedgerService.Selections
import LedgerService.Serializability
import LedgerService.Startup
import LedgerService.Workloads
