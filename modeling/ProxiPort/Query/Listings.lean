import ProxiPort.Query.Convert

/-!
# Restricted listings

The three listings to which the server adds a filter of its own: the audit log
of a user who is not an administrator (`server/auditlog/auditlog.go`), the
multi-client jobs of such a user and the jobs of a client
(`server/api_handler_commands.go`, `server/api/jobs`).
-/

namespace ProxiPort.Query

/-- What the listings depend on besides the stored rows.  `utcTimestamp` reads
a timestamp in one of the accepted forms and renders it in UTC. -/
structure Server where
  unicode : Go.Unicode
  engine : Engine
  enableAuditLog : Bool
  utcTimestamp : String → Option String

structure Payload where
  data : List Row
  count : Nat
  deriving DecidableEq, Repr

inductive Refusal where
  | notEnabled (message : String)
  | notAllowed (message : String)
  | failed (errors : List APIError)
  deriving DecidableEq, Repr

def imposedFilter (column value : String) : FilterOption :=
  { column := [column]
    values := [value] }

def ListOptions.impose (options : ListOptions) (column value : String) :
    ListOptions :=
  { options with filters := options.filters ++ [imposedFilter column value] }

namespace Server

def payload (server : Server) (options : ListOptions) (rows : List Row) :
    Payload :=
  { data := answer server.engine server.unicode options rows
    count := countAnswer server.engine server.unicode options rows }

end Server

def auditLogFilters : List String :=
  ["timestamp[gt]", "timestamp[lt]", "timestamp[since]", "timestamp[until]",
    "username", "remote_ip", "application", "action", "affected_id", "client_id", "client_hostname"]

def auditLogSorts : List String :=
  ["timestamp", "username", "remote_ip", "application", "action",
    "affected_id", "client_id", "client_hostname"]

def timestampDbLayout : String := "2006-01-02 15:04:05"

def isTimestampFilter (filter : FilterOption) : Bool :=
  filter.column ≠ [] && filter.column.all fun column => column = "timestamp"

def illegalTimestamp (unicode : Go.Unicode) (raw : String) : APIError :=
  badRequest ("illegal timestamp filter value " ++ Go.quote unicode raw ++
    ": expected an RFC 3339 timestamp, " ++
    Go.quote unicode timestampDbLayout ++ ", a date, or Unix seconds")

/-- One round of `normalizeTimestampFilters`. -/
def normalizeTimestampFilter (server : Server) (filter : FilterOption) :
    Except APIError FilterOption :=
  if isTimestampFilter filter then do
    let values ← filter.values.mapM fun raw =>
      match server.utcTimestamp raw with
      | some parsed => .ok parsed
      | none => .error (illegalTimestamp server.unicode raw)
    pure { filter with values := values, compareFunc := "DATETIME" }
  else pure filter

def filtersUsername (filters : List FilterOption) : Bool :=
  filters.any fun filter => filter.column.contains "username"

def listOptionsFor (server : Server) (query : Values) (user : User) : Except Refusal ListOptions :=
  let options := getListOptions query
  if user.isAdmin = false ∧ filtersUsername options.filters then
    .error (.notAllowed "only members of group Administrators can filter by usernames")
  else
    let options :=
      if user.isAdmin then options
      else options.impose "username" user.username
    match validateListOptions server.unicode options auditLogSorts
        auditLogFilters none (some ⟨100, 10⟩) with
    | .error errs => .error (.failed errs)
    | .ok options =>
      match options.filters.mapM (normalizeTimestampFilter server) with
      | .error err => .error (.failed [err])
      | .ok filters => .ok { options with filters := filters }

def auditLogList (server : Server) (rows : List Row) (query : Values)
    (user : User) : Except Refusal Payload :=
  if server.enableAuditLog = false then
    .error (.notEnabled "audit log disabled. re-enable it to view audit entries.")
  else
    match listOptionsFor server query user with
    | .error refusal => .error refusal
    | .ok options => .ok (server.payload options rows)

def multiJobSupportedFilters : List String :=
  ["jid", "started_at[gt]", "started_at[lt]", "started_at[since]",
    "started_at[until]", "created_by", "schedule_id"]

def multiJobSupportedSorts : List String := ["jid", "started_at", "created_by", "schedule_id"]

def ListOptions.sortedBy (options : ListOptions) (sorts : List SortOption) : ListOptions :=
  if options.sorts = [] then { options with sorts := sorts } else options

def handleGetMultiClientCommands (server : Server) (rows : List Row)
    (query : Values) (user : User) : Except Refusal Payload :=
  match validateListOptions server.unicode (getListOptions query)
      multiJobSupportedSorts multiJobSupportedFilters none (some ⟨1000, 100⟩) with
  | .error errs => .error (.failed errs)
  | .ok options =>
    let options :=
      if user.isAdmin then options
      else options.impose "created_by" user.username
    .ok (server.payload (options.sortedBy [⟨"DATETIME(started_at)", false⟩, ⟨"jid", true⟩]) rows)

def jobSupportedFilters : List String :=
  ["jid", "started_at[gt]", "started_at[lt]", "started_at[since]",
    "started_at[until]", "finished_at[gt]", "finished_at[lt]",
    "finished_at[since]", "finished_at[until]", "status", "created_by",
    "multi_job_id", "schedule_id", "client_id"]

def jobSupportedSorts : List String :=
  ["jid", "started_at", "finished_at", "status", "multi_job_id", "schedule_id", "created_by"]

def jobFields : List String :=
  ["jid", "status", "finished_at", "client_id", "client_name", "command",
    "cwd", "interpreter", "pid", "started_at", "created_by", "timeout_sec",
    "multi_job_id", "schedule_id", "error", "is_sudo", "is_script"]

def jobSupportedFields : Values :=
  [("jobs", jobFields), ("commands", jobFields), ("scripts", jobFields),
    ("result", ["stdout", "stderr", "summary"])]

def jobListDefaultFields : Values :=
  [("fields[jobs]", ["jid", "status", "finished_at"]),
    ("fields[result]", ["summary"])]

def handleGetCommands (server : Server) (rows : List Row) (query : Values)
    (clientID : String) : Except Refusal Payload :=
  if clientID = "" then
    .error (.failed [badRequest ("Missing " ++ Go.quote server.unicode "client_id" ++
        " route param.")])
  else
    match validateListOptions server.unicode
        (newOptions query [] [] jobListDefaultFields) jobSupportedSorts
        jobSupportedFilters (some jobSupportedFields) (some ⟨1000, 100⟩) with
    | .error errs => .error (.failed errs)
    | .ok options =>
      let options := options.impose "client_id" clientID
      .ok (server.payload (options.sortedBy [⟨"DATETIME(finished_at)", false⟩, ⟨"jid", true⟩]) rows)

end ProxiPort.Query
