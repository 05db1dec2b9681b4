import VacancyRadar.Application.Ats
import VacancyRadar.Attachments.Quota
import VacancyRadar.Audit.Paging
import VacancyRadar.Audit.Recovery
import VacancyRadar.BlindApply.Follow
import VacancyRadar.BlindApply.OneTime
import VacancyRadar.Candidate.Saving
import VacancyRadar.Codex.Fallback
import VacancyRadar.Codex.Rpc
import VacancyRadar.Crawler.Addresses
import VacancyRadar.Crawler.Redirects
import VacancyRadar.Crawler.SchedulerProgress
import VacancyRadar.Cv.Anchors
import VacancyRadar.Cv.Claims
import VacancyRadar.Cv.Composition
import VacancyRadar.Cv.Preview
import VacancyRadar.Cv.Quotes
import VacancyRadar.Cv.Reconcile
import VacancyRadar.Daemon.Capacity
import VacancyRadar.Daemon.Grants
import VacancyRadar.Daemon.QueueFaults
import VacancyRadar.Daemon.QueueOrder
import VacancyRadar.Daemon.QueueReplay
import VacancyRadar.Desktop.Completed
import VacancyRadar.Desktop.Duplicates
import VacancyRadar.Desktop.Fence
import VacancyRadar.Desktop.Recovery
import VacancyRadar.Desktop.Window
import VacancyRadar.Executor.Readiness
import VacancyRadar.Form.Record
import VacancyRadar.GlobalRemote.FocusedScan
import VacancyRadar.GlobalRemote.Keys
import VacancyRadar.GlobalRemote.Salary
import VacancyRadar.Mcp.Bounds
import VacancyRadar.Provider.LineReader
import VacancyRadar.Provider.Output
import VacancyRadar.Provider.Supervisor
import VacancyRadar.SearchPlan.Budget
import VacancyRadar.Sessions.Eviction
import VacancyRadar.Sessions.Paging
import VacancyRadar.Sessions.Preflight
import VacancyRadar.Sessions.Quota
import VacancyRadar.Sessions.Truncation
import VacancyRadar.Shared.ContentDigest
import VacancyRadar.Shared.JsonBounds
import VacancyRadar.Sse.Chunking
import VacancyRadar.Sse.LastEventId
import VacancyRadar.Sse.Subscription
import VacancyRadar.Submission.Payload
import VacancyRadar.Workspace.TrackerRuns
