import AnalyticsTesting.Lib.Journal
import AnalyticsTesting.Lib.PyTime
import AnalyticsTesting.Lib.Rounding
import AnalyticsTesting.Lib.Transition
import AnalyticsTesting.Config.Value

set_option autoImplicit false

/-! # The pipeline exporter

`monitoring/exporters/pipeline_exporter.py`: one poll scrapes the collector, the compactor and its
major tier over SSH or HTTP, the catalog, the watermark table and the bucket, sets gauges on the
way and writes one sample. A scrape sets gauges and may raise in between (`Scrape`); it never reads
one.

What comes back over the network, the clock readings, and what the catalog, the watermark query and
the bucket listing return are the input of a poll (`Poll`). The gauges that `scrape_catalog` and
`scrape_s3` set are left out. -/

namespace AnalyticsTesting.Monitoring

open Config (Key Value Entries Items Py PyExc raise orRaise)

variable (fl : FloatFormat)

/-! ## Gauges -/

/-- `role` of an agent. -/
inductive Role
  | collector
  | compactor
  deriving DecidableEq

/-- The tiers of the compactor, each a service of its own. -/
inductive Tier
  | minor
  | major
  deriving DecidableEq

def Role.name : Role → String
  | collector => "collector"
  | compactor => "compactor"

def Tier.name : Tier → String
  | minor => "minor"
  | major => "major"

/-- The names `poll_once` gives to its sources. -/
inductive Source
  | collector
  | compactor
  | compactorMajor
  | catalog
  | watermark
  | s3
  deriving DecidableEq

/-- A time series of `Prom`, with its labels. -/
inductive Gauge
  | scrapeOk (source : Source)
  | scrapeSeconds (source : Source)
  | collectorUp
  | collectorUptime
  | collectorBatches
  | collectorQueues
  | compactorUp
  | compactorUptime
  | minor (database : Key)
  | major (database : Key)
  | filesCompacted (database : Key)
  | filesSmall (database : Key)
  | filesMedium (database : Key)
  | filesTotal (database : Key)
  | tierUp (tier : Tier)
  | tierUptime (tier : Tier)
  | tierCycles (database : Key) (tier : Tier)
  | tierFailed (database : Key) (tier : Tier)
  | tierFilesCompacted (database : Key) (tier : Tier)
  | tierBandFiles (database : Key) (tier : Tier)
  | tierLastSuccessAge (database : Key) (tier : Tier)
  | lagSeconds
  | watermarkRows
  | agentAge (role : Role)
  | healthLatency (role : Role)
  | unitRestarts (role : Role)
  | unitActive (role : Role)
  | oomKills (role : Role)
  | processRss (role : Role)
  | processCpu (role : Role)
  | dependencyUp (role : Role) (dependency : String)
  | dependencyLatency (role : Role) (dependency : String)
  | host (role : Role) (metric : String)
  deriving DecidableEq

/-- What a scrape raises. The text of an exception of Python's own is not kept. -/
inductive ScrapeError
  | text (message : String)
  | python (exc : PyExc)
  deriving DecidableEq

/-- A scrape sets gauges and may raise. -/
abbrev Scrape := Journal Gauge Double ScrapeError

/-- A Python computation inside a scrape. -/
def py {α : Type} (x : Py α) : Scrape α := Journal.ofExcept (x.mapError .python)

/-- `gauge.set(x)`. -/
def Gauge.set (gauge : Gauge) (x : Double) : Scrape Unit := Journal.write gauge x

/-- `gauge.set(value)`, which takes `float(value)`. -/
def Gauge.setValue (gauge : Gauge) (v : Value) : Scrape Unit := do
  gauge.set (← py (v.toFloat fl))

/-- `1 if b else 0`. -/
def flag (b : Bool) : Double := .fin (if b then 1 else 0)

/-- `max(0.0, x)`. -/
def max0 (x : Double) : Double := if Double.lt (.fin 0) x then x else .fin 0

/-! ## Reading answers -/

def isDict : Value → Bool
  | .dict _ => true
  | _ => false

/-- `value == text`. -/
def isText (text : String) : Value → Bool
  | .str s => s = text
  | _ => false

/-- `value.get(key)`. -/
def field (v : Value) (key : String) : Py Value := v.get key .none

/-- `value.get(key) or {}`. -/
def dictField (v : Value) (key : String) : Py Value := do
  return (← field v key).orElse (.dict [])

/-- `float(value.get(key) or 0)`. -/
def numberField (v : Value) (key : String) : Py Double := do
  ((← field v key).orElse (.int 0)).toFloat fl

/-- The loop of `parse_iso_duration`, with its `total` and `num`. -/
def durationLoop (total : Double) (num : List Char) : List Char → Py Double
  | [] => .ok total
  | ch :: rest =>
      if PyNumber.isDigit ch || ch == '.' then durationLoop total (num ++ [ch]) rest
      else if ['H', 'M', 'S'].contains ch && !num.isEmpty then do
        let x ← orRaise .valueError (PyNumber.floatOfStr fl (String.ofList num))
        let unit : ℚ := if ch = 'H' then 3600 else if ch = 'M' then 60 else 1
        durationLoop (fl.add total (fl.mul x (.fin unit))) [] rest
      else durationLoop total num rest

/-- `parse_iso_duration`. -/
def parseIsoDuration (text : Value) : Py Double :=
  if !text.truthy then .ok (.fin 0)
  else
    match text with
    | .str s =>
        match s.toList with
        | 'P' :: 'T' :: rest => durationLoop fl (.fin 0) [] rest
        | _ => .ok (.fin 0)
    | _ => raise .attributeError

/-- The body of the `try` in `parse_iso_instant`; `none` where it raises one of the two exceptions
that are caught. -/
def isoInstant? (text : List Char) : Option Double := do
  let text := (text.reverse.dropWhile (· == 'Z')).reverse
  let base := text.takeWhile (· ≠ '.')
  let frac := (text.dropWhile (· ≠ '.')).drop 1
  let secs ← fl.ofInt (PyTime.timegm (← PyTime.strptime base))
  if frac.isEmpty then some (fl.add secs (.fin 0))
  else return fl.add secs (← PyNumber.floatOfStr fl (String.ofList ('0' :: '.' :: frac)))

/-- `parse_iso_instant`. -/
def parseIsoInstant (text : Value) : Py Double :=
  if !text.truthy then .ok (.fin 0)
  else
    match text with
    | .str s => .ok ((isoInstant? fl s.toList).getD (.fin 0))
    | _ => raise .attributeError

/-- What `compactor_db_stats` returns. -/
structure DbStats where
  minor : Value
  major : Value
  filesCompacted : Value
  small : Value
  medium : Value
  total : Value

/-- `compactor_db_stats`. -/
def compactorDbStats (s : Value) : Py DbStats := do
  let tiers ← field s "tiers"
  if !isDict tiers then
    return {
      minor := ← s.get "totalMinorCompactions" (.int 0)
      major := ← s.get "totalMajorCompactions" (.int 0)
      filesCompacted := ← s.get "totalFilesCompacted" (.int 0)
      small := ← s.get "currentSmallFiles" (.int 0)
      medium := ← s.get "currentMediumFiles" (.int 0)
      total := ← s.get "currentTotalFiles" (.int 0) }
  let minor ← dictField tiers "minor"
  let major ← dictField tiers "major"
  return {
    minor := ← minor.get "totalCompactions" (.int 0)
    major := ← major.get "totalCompactions" (.int 0)
    filesCompacted := ← s.get "totalFilesCompacted" (.int 0)
    small := ← minor.get "currentFiles" (.int 0)
    medium := ← major.get "currentFiles" (.int 0)
    total := ← s.get "currentTotalFiles" (.int 0) }

/-! ## The services -/

/-- `--health-mode`. -/
inductive HealthMode
  | ssh
  | http
  deriving DecidableEq

/-- The arguments that the polls read. -/
structure Args where
  healthMode : HealthMode
  agentStatePath : String
  maxStateAge : Double
  compactorMajorHealthPort : Int
  watermarkInterval : Double
  s3Interval : Double

/-- What a service or its agent answers: the transport raises with a message, or the text is empty,
no JSON (with the message of the decoder), or JSON. -/
inductive Answer
  | failed (message : String)
  | empty
  | notJson (message : String)
  | json (v : Value)

/-- `http_json`. -/
def httpJson : Answer → Except ScrapeError Value
  | .failed message | .notJson message => .error (.text message)
  | .empty => .error (.text "Expecting value: line 1 column 1 (char 0)")
  | .json v => .ok v

/-- The body and the status in an answer over HTTP. -/
def httpAnswer (answer : Answer) : Except ScrapeError (Value × Value) := do
  let data ← httpJson answer
  return (data, ← (field data "status").mapError .python)

/-- `_agent_state`. -/
def agentState (args : Args) : Answer → Except ScrapeError Value
  | .failed message | .notJson message => .error (.text message)
  | .empty => .error (.text (args.agentStatePath ++ " is empty — is bench-agent running?"))
  | .json v => .ok v

/-- `(data.get("databases") or {}).items()`. -/
def databases (data : Value) : Py Items := do (← dictField data "databases").items

/-- The body of the loop in `_set_tier_metrics`; `clock` is `time.time()`. -/
def setTierDatabase (tier : Tier) (clock : Key → Double) (db : Key) (s : Value) : Scrape Unit := do
  let own ← py do dictField (← dictField s "tiers") tier.name
  (Gauge.tierCycles db tier).setValue fl (← py (own.get "totalCompactions" (.int 0)))
  (Gauge.tierBandFiles db tier).setValue fl (← py (own.get "currentFiles" (.int 0)))
  (Gauge.tierFailed db tier).setValue fl (← py (s.get "totalFailedCycles" (.int 0)))
  (Gauge.tierFilesCompacted db tier).setValue fl (← py (s.get "totalFilesCompacted" (.int 0)))
  let last ← py do parseIsoInstant fl (← s.get "lastSuccessTime" (.str ""))
  if Double.lt (.fin 0) last then
    (Gauge.tierLastSuccessAge db tier).set (max0 (fl.sub (clock db) last))

/-- `_set_tier_metrics`. -/
def setTierMetrics (tier : Tier) (data : Value) (clock : Key → Double) : Scrape Unit := do
  (Gauge.tierUp tier).set (flag (isText "UP" (← py (field data "status"))))
  (Gauge.tierUptime tier).set (← py do parseIsoDuration fl (← data.get "uptime" (.str "")))
  (← py (databases data)).forM fun (db, s) => setTierDatabase fl tier clock db s

/-- The body of the loop over the databases of a compactor. Under the two-service split the minor
service does not own the gauges of the major tier. -/
def setDatabase (args : Args) (db : Key) (s : Value) : Scrape Unit := do
  let split := 0 < args.compactorMajorHealthPort
  let st ← py (compactorDbStats s)
  (Gauge.minor db).setValue fl st.minor
  (Gauge.filesCompacted db).setValue fl st.filesCompacted
  (Gauge.filesSmall db).setValue fl st.small
  (Gauge.filesTotal db).setValue fl st.total
  let tiers ← py (field s "tiers")
  if !(split && isDict tiers) then
    (Gauge.major db).setValue fl st.major
    (Gauge.filesMedium db).setValue fl st.medium

/-- `any(isinstance(s.get("tiers"), dict) for s in values)`. -/
def anyTiers : Items → Py Bool
  | [] => .ok false
  | (_, s) :: rest => do
      if isDict (← field s "tiers") then return true
      anyTiers rest

/-- What the compactor's body is turned into, the same for both health modes. -/
def publishCompactor (args : Args) (body : Value) (clock : Key → Double) : Scrape Unit := do
  Gauge.compactorUptime.set (← py do parseIsoDuration fl (← body.get "uptime" (.str "")))
  let dbs ← py (databases body)
  dbs.forM fun (db, s) => setDatabase fl args db s
  if ← py (anyTiers dbs) then setTierMetrics fl .minor body clock

/-- What the collector's body is turned into, the same for both health modes. -/
def publishCollector (body : Value) : Scrape Unit := do
  Gauge.collectorUptime.set (← py (numberField fl body "uptimeSeconds"))
  Gauge.collectorBatches.set (← py (numberField fl body "batchesProcessed"))
  Gauge.collectorQueues.set (← py (numberField fl body "knownQueues"))

/-- The `up_gauge` of an agent. -/
def upGauge : Role → Gauge
  | .collector => .collectorUp
  | .compactor => .compactorUp

/-! ## The agents' snapshots -/

/-- The locals of `_scrape_agent`, up to the first gauge. -/
structure Snapshot where
  state : Value
  health : Value
  unit : Value
  svc : Value
  sysm : Value
  deps : Value
  body : Value
  ok : Bool

def Snapshot.read (state : Value) : Py Snapshot := do
  let svc ← dictField state "service"
  let health ← dictField svc "health"
  let unit ← dictField svc "unit"
  let sysm ← dictField state "system"
  let deps ← dictField state "dependencies"
  let body ← field health "body"
  let ok ← field health "ok"
  return {
    state, health, unit, svc, sysm, deps
    body := if isDict body then body else .dict []
    ok := ok.truthy }

/-- `_scrape_agent` up to the first gauge. -/
def readSnapshot (args : Args) (answer : Answer) : Except ScrapeError Snapshot := do
  let state ← agentState args answer
  (Snapshot.read state).mapError .python

/-- The age of a snapshot, at `now`. -/
def Snapshot.age (snap : Snapshot) (now : Double) : Py Double := do
  return max0 (fl.sub now (← numberField fl snap.state "ts"))

def staleMessage (args : Args) (role : Role) (age : Double) : String :=
  role.name ++ " agent snapshot is " ++ PyNumber.formatPlain age 0 ++ "s old (limit " ++
    PyNumber.formatPlain args.maxStateAge 0 ++
      "s) — the agent is not running or the clock is skewed"

/-- A gauge for a value that may be missing. -/
def setIfPresent (gauge : Gauge) (v : Value) : Scrape Unit :=
  match v with
  | .none => pure ()
  | v => gauge.setValue fl v

/-- The reachability of one dependency, measured from the host. -/
def publishDependency (role : Role) (deps : Value) (dep : String) : Scrape Unit := do
  let d ← py (dictField deps dep)
  if (← py (field d "configured")).truthy then
    (Gauge.dependencyUp role dep).set (flag (← py (field d "ok")).truthy)
    setIfPresent fl (.dependencyLatency role dep) (← py (field d "latency_ms"))

/-- The metrics of a host. -/
def hostMetrics : List String :=
  ["cpu_percent", "mem_used_bytes", "mem_available_bytes", "root_free_bytes",
   "disk_write_bytes_per_s", "disk_read_bytes_per_s", "net_rx_bytes_per_s", "net_tx_bytes_per_s"]

/-- What an agent says of the service's unit and of its host. -/
def publishHost (role : Role) (snap : Snapshot) : Scrape Unit := do
  (Gauge.healthLatency role).set (← py (numberField fl snap.health "latency_ms"))
  (Gauge.unitRestarts role).set (← py (numberField fl snap.unit "restarts"))
  (Gauge.unitActive role).set (flag (← py (field snap.unit "ok")).truthy)
  (Gauge.oomKills role).set (← py (numberField fl snap.svc "oom_kills"))
  setIfPresent fl (.processRss role) (← py (field snap.svc "rss_bytes"))
  setIfPresent fl (.processCpu role) (← py (field snap.svc "cpu_percent"))
  ["s3", "rds"].forM fun dep => publishDependency fl role snap.deps dep
  hostMetrics.forM fun key => do
    setIfPresent fl (.host role key) (← py (field snap.sysm key))

/-- `round(x, 2)`. -/
def round2 : Double → Double
  | .fin q => fl.round (roundDigits q 2)
  | x => x

/-- `state["_snapshot_age_seconds"] = round(age, 2)`. -/
def withAge (state : Value) (age : Double) : Value :=
  match state with
  | .dict items => .dict (Entries.set items (.str "_snapshot_age_seconds") (.float (round2 fl age)))
  | v => v

/-- What an agent says of the service itself. -/
def publishBody (args : Args) (role : Role) (snap : Snapshot) (clock : Key → Double) :
    Scrape Unit :=
  match role with
  | .collector => publishCollector fl snap.body
  | .compactor => publishCompactor fl args snap.body clock

/-- `_scrape_agent` from the staleness check on. A snapshot that is too old is a failure; by now
its health is already published. -/
def publishSnapshot (args : Args) (role : Role) (snap : Snapshot) (now : Double)
    (clock : Key → Double) : Scrape Value := do
  let age ← py (snap.age fl now)
  (Gauge.agentAge role).set age
  if Double.lt args.maxStateAge age then
    Journal.ofExcept (.error (.text (staleMessage args role age)))
  else do
    publishBody fl args role snap clock
    publishHost fl role snap
    return withAge fl snap.state age

/-- `_scrape_agent`. -/
def scrapeAgent (args : Args) (role : Role) (answer : Answer) (now : Double)
    (clock : Key → Double) : Scrape Value := do
  let snap ← Journal.ofExcept (readSnapshot args answer)
  (upGauge role).set (flag snap.ok)
  publishSnapshot fl args role snap now clock

/-! ## The sources -/

/-- The row of the watermark query. `lag` is missing where the table is empty, which the query
gives as -1. -/
structure WatermarkRow where
  lag : Option Double
  committed : Int

/-- What `scrape_watermark` returns; both are missing before the first scrape. -/
structure Watermark where
  lagSeconds : Option Double
  committedRows : Option Int
  deriving DecidableEq

/-- What one poll reads of its environment. -/
structure Poll where
  /-- `time.time()` at the start of the poll. -/
  now : Double
  collector : Answer
  compactor : Answer
  compactorMajor : Answer
  /-- `time.time()` when an agent's snapshot is checked. -/
  readAt : Role → Double
  /-- `time.time()` when the last success of a tier is aged. -/
  tierAt : Tier → Key → Double
  /-- What `scrape_catalog`, the watermark query and `scrape_s3` come to. -/
  catalog : Except String Value
  watermark : Except String WatermarkRow
  s3 : Except String Value
  /-- The duration of a scrape. -/
  seconds : Source → Double

/-- `scrape_collector`. -/
def scrapeCollector (args : Args) (p : Poll) : Scrape Value :=
  match args.healthMode with
  | .ssh => scrapeAgent fl args .collector p.collector (p.readAt .collector) (p.tierAt .minor)
  | .http => do
      let (data, status) ← Journal.ofExcept (httpAnswer p.collector)
      Gauge.collectorUp.set (flag (isText "HEALTHY" status))
      publishCollector fl data
      return .dict [
        (.str "status", status),
        (.str "uptime_seconds", ← py (field data "uptimeSeconds")),
        (.str "batches_processed", ← py (field data "batchesProcessed")),
        (.str "known_queues", ← py (field data "knownQueues")),
        (.str "pending_batches", .none),
        (.str "pending_buckets", .none)]

/-- `scrape_compactor`. Over SSH a failed scrape reads as a minor tier that is down. -/
def scrapeCompactor (args : Args) (p : Poll) : Scrape Value :=
  match args.healthMode with
  | .ssh =>
      (scrapeAgent fl args .compactor p.compactor (p.readAt .compactor) (p.tierAt .minor)).onError
        ((Gauge.tierUp .minor).set (flag false))
  | .http => do
      let (data, status) ← Journal.ofExcept (httpAnswer p.compactor)
      Gauge.compactorUp.set (flag (isText "UP" status))
      publishCompactor fl args data (p.tierAt .minor)
      return data

/-- The `try` of `scrape_compactor_major`. -/
def majorHealth (args : Args) (answer : Answer) : Except ScrapeError Value :=
  match args.healthMode, answer with
  | .ssh, .empty => .error (.text ("empty /health from :" ++
      toString args.compactorMajorHealthPort ++ " — is bench-compactor-major up?"))
  | _, answer => httpJson answer

/-- `scrape_compactor_major`. -/
def scrapeCompactorMajor (args : Args) (p : Poll) : Scrape Value := do
  let data ← (Journal.ofExcept (majorHealth args p.compactorMajor)).onError
    ((Gauge.tierUp .major).set (flag false))
  setTierMetrics fl .major data (p.tierAt .major)
  (← py (databases data)).forM fun (db, s) => do
    let st ← py (compactorDbStats s)
    (Gauge.major db).setValue fl st.major
    (Gauge.filesMedium db).setValue fl st.medium
  return data

/-- `scrape_watermark`. -/
def scrapeWatermark (p : Poll) : Scrape Watermark := do
  let row ← Journal.ofExcept (p.watermark.mapError .text)
  let lag := row.lag.getD (.fin (-1))
  Gauge.lagSeconds.set lag
  Gauge.watermarkRows.setValue fl (.int row.committed)
  return {
    lagSeconds := if Double.lt lag (.fin 0) then none else some lag
    committedRows := some row.committed }

/-! ## Polls -/

/-- The entries of a source in a sample: `name` and `name_ok`, also `name_error` of a failed
scrape, or `name` and `name_cached`. -/
inductive Entry (α : Type)
  | scraped (value : α)
  | failed (error : ScrapeError)
  | cached (value : α)
  deriving DecidableEq

/-- `sample.get(name)`. -/
def Entry.value {α : Type} : Entry α → Option α
  | .scraped v | .cached v => some v
  | .failed _ => none

/-- What `poll_once` returns, one line of the JSONL file. -/
structure Sample where
  ts : Double
  collector : Entry Value
  compactor : Entry Value
  /-- Only where the major tier has a port. -/
  compactorMajor : Option (Entry Value)
  catalog : Entry Value
  watermark : Entry Watermark
  s3 : Entry Value

/-- The exporter, with the file it writes. -/
structure Exporter where
  gauges : Gauge → Double
  scrapeErrors : Source → Nat
  lastS3 : Double
  lastLag : Double
  s3Cache : Value
  lagCache : Watermark
  jsonl : List Sample

/-- `str(exc).split("\n")[0][:200]`. -/
def ScrapeError.cut : ScrapeError → ScrapeError
  | text message => text (String.ofList ((message.toList.takeWhile (· ≠ '\n')).take 200))
  | python exc => python exc

/-- `_run_source`. -/
def runSource {α : Type} (name : Source) (seconds : Source → Double) (fn : Scrape α)
    (e : Exporter) : Exporter × Entry α :=
  let gauges (ok : Bool) :=
    Function.update (Function.update (fn.after e.gauges) (.scrapeOk name) (flag ok))
      (.scrapeSeconds name) (seconds name)
  match fn.result with
  | .ok v => ({ e with gauges := gauges true }, .scraped v)
  | .error error =>
      ({ e with
          gauges := gauges false
          scrapeErrors := Function.update e.scrapeErrors name (e.scrapeErrors name + 1) },
        .failed error.cut)

/-- The gate of an expensive source. -/
def isDue (now last interval : Double) : Bool := Double.le interval (fl.sub now last)

/-- The watermark's part of `poll_once`. -/
def pollWatermark (args : Args) (p : Poll) (e : Exporter) : Exporter × Entry Watermark :=
  if isDue fl p.now e.lastLag args.watermarkInterval then
    let (e, entry) := runSource .watermark p.seconds (scrapeWatermark fl p) e
    ({ e with lagCache := entry.value.getD e.lagCache, lastLag := p.now }, entry)
  else (e, .cached e.lagCache)

/-- The bucket's part of `poll_once`. -/
def pollS3 (args : Args) (p : Poll) (e : Exporter) : Exporter × Entry Value :=
  if isDue fl p.now e.lastS3 args.s3Interval then
    let (e, entry) := runSource .s3 p.seconds (Journal.ofExcept (p.s3.mapError .text)) e
    ({ e with s3Cache := (entry.value.getD .none).orElse e.s3Cache, lastS3 := p.now }, entry)
  else (e, .cached e.s3Cache)

/-- The major tier's part of `poll_once`. -/
def pollMajor (args : Args) (p : Poll) (e : Exporter) : Exporter × Option (Entry Value) :=
  if 0 < args.compactorMajorHealthPort then
    let (e, entry) := runSource .compactorMajor p.seconds (scrapeCompactorMajor fl args p) e
    (e, some entry)
  else (e, none)

/-- `poll_once`. -/
def pollOnce (args : Args) (e : Exporter) (p : Poll) : Exporter × Sample :=
  let (e, collector) := runSource .collector p.seconds (scrapeCollector fl args p) e
  let (e, compactor) := runSource .compactor p.seconds (scrapeCompactor fl args p) e
  let (e, compactorMajor) := pollMajor fl args p e
  let (e, catalog) := runSource .catalog p.seconds (Journal.ofExcept (p.catalog.mapError .text)) e
  let (e, watermark) := pollWatermark fl args p e
  let (e, s3) := pollS3 fl args p e
  (e, { ts := p.now, collector, compactor, compactorMajor, catalog, watermark, s3 })

/-- A new exporter. -/
def Exporter.new : Exporter where
  gauges _ := .fin 0
  scrapeErrors _ := 0
  lastS3 := .fin 0
  lastLag := .fin 0
  s3Cache := .dict [(.str "objects", .none), (.str "bytes", .none)]
  lagCache := { lagSeconds := none, committedRows := none }
  jsonl := []

/-- One turn of the loop of `run`. -/
def turn (args : Args) (e : Exporter) (p : Poll) : Exporter :=
  let (e, sample) := pollOnce fl args e p
  { e with jsonl := e.jsonl ++ [sample] }

/-- The exporter as a transition system, a poll a step. -/
def exporter (args : Args) : Transition.System Exporter Poll where
  init := Exporter.new
  step e p := some (turn fl args e p)

end AnalyticsTesting.Monitoring
