import AnalyticsTesting.Lib.PyJson

set_option autoImplicit false

/-! # The captured environment

`scripts/collect-env.sh`: `PROBE` runs on each of the three servers and prints a document about it;
the documents go into one about the whole environment, whose hash is added to it. A capture is what
the commands of the script return at one moment. Any of them may fail, and another text stands for
what it would have printed. -/

namespace AnalyticsTesting.Scripts

open PyJson

/-! ## A server -/

/-- The commands by which `PROBE` reads a fact about the server, named by the field that gets it. -/
inductive ShellCommand
  | os
  | physicalCores
  | cpuGovernor
  | instanceType
  | instanceId
  | az
  /-- The instance type, asked for a second time. -/
  | burstable
  | device
  | rotational
  | tmpIsTmpfs
  | javaVersion
  | duckdbCli
  deriving DecidableEq

/-- What belongs to the server and its installation. -/
structure Machine where
  hostname : String
  kernel : String
  cpuModel : String
  logicalCores : Option Nat
  ramBytes : Nat
  swapBytes : Nat
  rootTotalBytes : Nat
  javaHome : String
  pythonVersion : String
  /-- What a command prints if it succeeds. -/
  prints : ShellCommand → String

/-- What `PROBE` reads that belongs to the moment. -/
structure Readings where
  rootFreeBytes : Nat
  ntpSource : String
  lastOffset : String
  stratum : String
  deriving DecidableEq

/-- All that `PROBE` reads. -/
structure Probe where
  machine : Machine
  readings : Readings
  /-- The instance metadata service gave no token. -/
  noToken : Bool := false
  /-- The command failed, or took too long. -/
  failed : ShellCommand → Bool := fun _ => false

/-- `imds` asks the instance metadata service, if there is a token. -/
def ShellCommand.isImds : ShellCommand → Bool
  | instanceType | instanceId | az | burstable => true
  | _ => false

/-- The command has no answer. -/
def Probe.fails (p : Probe) (cmd : ShellCommand) : Bool := p.failed cmd || cmd.isImds && p.noToken

/-- `sh`, which prints nothing of a command that fails. -/
def Probe.sh (p : Probe) (cmd : ShellCommand) : String :=
  if p.fails cmd then "" else p.machine.prints cmd

/-- What the document has for a text that a command printed. The count of cores is that of `wc`. -/
def ShellCommand.read (text : String) : ShellCommand → PyJson
  | physicalCores => int (text.toNat?.getD 0)
  | burstable =>
      bool (["t2.", "t3.", "t4g."].any fun family => family.toList.isPrefixOf text.toList)
  | rotational => bool (text = "1")
  | tmpIsTmpfs => bool (text = "tmpfs")
  | _ => str text

def Probe.value (p : Probe) (cmd : ShellCommand) : PyJson := cmd.read (p.sh cmd)

/-- `host`. -/
def Probe.host (p : Probe) : List (String × PyJson) :=
  [("hostname", str p.machine.hostname),
   ("os", p.value .os),
   ("kernel", str p.machine.kernel),
   ("cpu_model", str p.machine.cpuModel),
   ("logical_cores", (p.machine.logicalCores.map fun n => int n).getD null),
   ("physical_cores", p.value .physicalCores),
   ("ram_bytes", int p.machine.ramBytes),
   ("swap_bytes", int p.machine.swapBytes),
   ("cpu_governor", p.value .cpuGovernor)]

/-- `instance`. -/
def Probe.instance (p : Probe) : List (String × PyJson) :=
  [("type", p.value .instanceType),
   ("id", p.value .instanceId),
   ("az", p.value .az),
   ("burstable", p.value .burstable)]

/-- `disk`. -/
def Probe.disk (p : Probe) : List (String × PyJson) :=
  [("root_total_bytes", int p.machine.rootTotalBytes),
   ("root_free_bytes", int p.readings.rootFreeBytes),
   ("device", p.value .device),
   ("rotational", p.value .rotational),
   ("tmp_is_tmpfs", p.value .tmpIsTmpfs)]

/-- `java`. -/
def Probe.java (p : Probe) : List (String × PyJson) :=
  [("version", p.value .javaVersion),
   ("home", str p.machine.javaHome)]

/-- `clock`. -/
def Probe.clock (p : Probe) : List (String × PyJson) :=
  [("ntp_source", str p.readings.ntpSource),
   ("last_offset_s", str p.readings.lastOffset),
   ("stratum", str p.readings.stratum)]

/-- `out`, the document that `PROBE` prints. -/
def Probe.out (role : String) (p : Probe) : List (String × PyJson) :=
  [("role", str role),
   ("host", obj p.host),
   ("instance", obj p.instance),
   ("disk", obj p.disk),
   ("java", obj p.java),
   ("python", obj [("version", str p.machine.pythonVersion)]),
   ("duckdb_cli", p.value .duckdbCli),
   ("clock", obj p.clock),
   ("container", obj
     [("runtime", str "none"),
      ("note", str "processes run directly under systemd, not containerised")])]

/-- `j(name)`: the document of a server, which is empty if it did not answer. -/
def serverDoc (role : String) (answer : Option Probe) : PyJson :=
  obj ((answer.map (Probe.out role)).getD [])

/-! ## The environment -/

/-- The variables of `.env` that the document cites. -/
structure Environ where
  generatorHost : Option String
  collectorHost : Option String
  compactorHost : Option String
  s3Bucket : Option String
  s3Prefix : Option String
  awsRegion : Option String
  pgHost : Option String
  pgDatabase : Option String
  pgUser : Option String
  ducklakeCatalog : Option String
  ducklakeSchema : Option String
  ducklakeLogsTable : Option String

/-- What a command on another host gives: it may fail after it has printed something. -/
structure Reply where
  printed : String
  failed : Bool := false

/-- `$(command || echo fallback)`, without the line ends at its end. -/
def Reply.text (fallback : String) (r : Reply) : String :=
  let output := r.printed ++ if r.failed then fallback ++ "\n" else ""
  String.ofList (output.toList.reverse.dropWhile (· = '\n')).reverse

/-- What the script reads at one moment; `none` is a host whose `PROBE` does not end well. -/
structure Capture where
  capturedAt : String
  environ : Environ
  generator : Option Probe
  collector : Option Probe
  compactor : Option Probe
  collectorConf : Reply
  compactorConf : Reply
  gitCommit : Reply

/-- `os.environ.get(name)`. -/
def envVar (value : Option String) : PyJson := (value.map str).getD null

/-- `COL_CONF` and `COM_CONF`. -/
def confText (r : Reply) : String := r.text ""

/-- `GIT_COMMIT`. -/
def commitText (r : Reply) : String := r.text "unknown"

/-- `servers`. -/
def Capture.servers (c : Capture) : List (String × PyJson) :=
  [("generator", serverDoc "generator" c.generator),
   ("collector", serverDoc "collector" c.collector),
   ("compactor", serverDoc "compactor" c.compactor)]

/-- `effective_config`. -/
def Capture.effectiveConfig (c : Capture) : List (String × PyJson) :=
  [("collector_application_conf", str (confText c.collectorConf)),
   ("compactor_application_conf", str (confText c.compactorConf))]

/-- `doc`, before the hash is added. -/
def Capture.doc (c : Capture) : List (String × PyJson) :=
  [("captured_at", str c.capturedAt),
   ("topology", obj
     [("generator", envVar c.environ.generatorHost),
      ("collector", envVar c.environ.collectorHost),
      ("compactor", envVar c.environ.compactorHost)]),
   ("servers", obj c.servers),
   ("storage", obj
     [("kind", str "s3"),
      ("bucket", envVar c.environ.s3Bucket),
      ("prefix", envVar c.environ.s3Prefix),
      ("region", envVar c.environ.awsRegion)]),
   ("catalog", obj
     [("kind", str "postgres"),
      ("host", envVar c.environ.pgHost),
      ("database", envVar c.environ.pgDatabase),
      ("user", envVar c.environ.pgUser)]),
   ("ducklake", obj
     [("catalog", envVar c.environ.ducklakeCatalog),
      ("schema", envVar c.environ.ducklakeSchema),
      ("table", envVar c.environ.ducklakeLogsTable),
      ("data_inlining_row_limit", int 0)]),
   ("dazzleduck", obj [("git_commit", str (commitText c.gitCommit))]),
   ("effective_config", obj c.effectiveConfig)]

/-- `payload`. -/
def Capture.payload (c : Capture) : String := dumps (obj c.doc)

/-- `env_hash`, where `digest` is the front of the hexadecimal SHA-256 of a text. -/
def envHash (digest : String → String) (c : Capture) : String := digest c.payload

/-- The document that the script prints. -/
def collectEnv (digest : String → String) (c : Capture) : PyJson :=
  obj (c.doc ++ [("env_hash", str (envHash digest c))])

end AnalyticsTesting.Scripts
