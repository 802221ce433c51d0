import AnalyticsTesting.Scripts.CollectEnv

set_option autoImplicit false

/-! # What the environment hash identifies

The hash is taken over the whole document, and the document holds the time of the capture and, for
every server, what `PROBE` reads of the moment, with nothing for a command that failed. So on a
system that has not changed two captures have the same hash exactly if they could not be told from
each other (`envHash_eq_iff`). -/

namespace AnalyticsTesting.Scripts

open PyJson

variable {c d : Capture}

/-! ## Systems and moments -/

/-- Two captures of one system: what answers in both gives the same facts. -/
structure Unchanged (c d : Capture) : Prop where
  environ : c.environ = d.environ
  generator : ∀ p ∈ c.generator, ∀ q ∈ d.generator, p.machine = q.machine
  collector : ∀ p ∈ c.collector, ∀ q ∈ d.collector, p.machine = q.machine
  compactor : ∀ p ∈ c.compactor, ∀ q ∈ d.compactor, p.machine = q.machine
  collectorConf : c.collectorConf.failed = false → d.collectorConf.failed = false →
    c.collectorConf.printed = d.collectorConf.printed
  compactorConf : c.compactorConf.failed = false → d.compactorConf.failed = false →
    c.compactorConf.printed = d.compactorConf.printed
  gitCommit : c.gitCommit.failed = false → d.gitCommit.failed = false →
    c.gitCommit.printed = d.gitCommit.printed

/-- What the command prints reads like nothing. -/
def Machine.Silent (m : Machine) (cmd : ShellCommand) : Prop :=
  cmd.read (m.prints cmd) = cmd.read ""

/-- Two answers of one server that belong to one moment: the same readings, and no command that
    fails in one only, unless nobody could tell. -/
structure Probe.SameMoment (p q : Probe) : Prop where
  readings : p.readings = q.readings
  fails : ∀ cmd, p.fails cmd = q.fails cmd ∨ p.machine.Silent cmd

/-- Two captures that belong to one moment: the same time, the same servers that answer in the same
    way, and the same texts of the remote files and the commit. -/
structure SameMoment (c d : Capture) : Prop where
  capturedAt : c.capturedAt = d.capturedAt
  generator : Option.Rel Probe.SameMoment c.generator d.generator
  collector : Option.Rel Probe.SameMoment c.collector d.collector
  compactor : Option.Rel Probe.SameMoment c.compactor d.compactor
  collectorConf : confText c.collectorConf = confText d.collectorConf
  compactorConf : confText c.compactorConf = confText d.compactorConf
  gitCommit : commitText c.gitCommit = commitText d.gitCommit

/-- The digest tells the payloads of two captures apart. -/
def CollisionFree (digest : String → String) (c d : Capture) : Prop :=
  digest c.payload = digest d.payload → c.payload = d.payload

/-! ## One document -/

/-- What a command adds to the document, on one machine. -/
theorem value_eq_iff {p q : Probe} (hmachine : p.machine = q.machine) (cmd : ShellCommand) :
    p.value cmd = q.value cmd ↔ p.fails cmd = q.fails cmd ∨ p.machine.Silent cmd := by
  unfold Probe.value Probe.sh Machine.Silent
  rw [← hmachine]
  cases p.fails cmd <;> cases q.fails cmd <;> simp [eq_comm]

/-- A document is what the machine, its readings and the commands give. -/
theorem out_eq (role : String) {p q : Probe} (hmachine : p.machine = q.machine)
    (hreadings : p.readings = q.readings) (hvalue : ∀ cmd, p.value cmd = q.value cmd) :
    p.out role = q.out role := by
  simp only [Probe.out, Probe.host, Probe.instance, Probe.disk, Probe.java, Probe.clock, hmachine,
    hreadings, hvalue]

/-- A server that has not changed prints the same document at one moment. -/
theorem serverDoc_eq (role : String) {a b : Option Probe}
    (hmachine : ∀ p ∈ a, ∀ q ∈ b, p.machine = q.machine)
    (h : Option.Rel Probe.SameMoment a b) : serverDoc role a = serverDoc role b := by
  cases h with
  | none => rfl
  | @some p q hmoment =>
      have hm := hmachine p rfl q rfl
      exact congrArg obj (out_eq role hm hmoment.readings fun cmd =>
        (value_eq_iff hm cmd).2 (hmoment.fails cmd))

theorem doc_eq (h : Unchanged c d) (hmoment : SameMoment c d) : c.doc = d.doc := by
  have hservers : c.servers = d.servers := by
    rw [Capture.servers, Capture.servers, serverDoc_eq _ h.generator hmoment.generator,
      serverDoc_eq _ h.collector hmoment.collector, serverDoc_eq _ h.compactor hmoment.compactor]
  have hconfig : c.effectiveConfig = d.effectiveConfig := by
    rw [Capture.effectiveConfig, Capture.effectiveConfig, hmoment.collectorConf,
      hmoment.compactorConf]
  rw [Capture.doc, Capture.doc, hmoment.capturedAt, h.environ, hservers, hconfig,
    hmoment.gitCommit]

/-! ## Documents that are the same -/

theorem str_eq {a b : String} (h : sortKeys (str a) = sortKeys (str b)) : a = b := by
  simpa [sortKeys] using h

theorem int_eq {a b : Int} (h : sortKeys (int a) = sortKeys (int b)) : a = b := by
  simpa [sortKeys] using h

/-- A command adds no object. -/
theorem sortKeys_read (text : String) (cmd : ShellCommand) :
    sortKeys (cmd.read text) = cmd.read text := by
  cases cmd <;> rfl

/-- The readings can be found in what `PROBE` prints. -/
theorem readings_eq {role : String} {p q : Probe}
    (h : sortKeys (obj (p.out role)) = sortKeys (obj (q.out role))) : p.readings = q.readings := by
  have hdisk : sortKeys (obj p.disk) = sortKeys (obj q.disk) :=
    entry_eq "disk" h (by simp [Probe.out]) (by simp [Probe.out])
  have hclock : sortKeys (obj p.clock) = sortKeys (obj q.clock) :=
    entry_eq "clock" h (by simp [Probe.out]) (by simp [Probe.out])
  have hfree : sortKeys (int p.readings.rootFreeBytes) = sortKeys (int q.readings.rootFreeBytes) :=
    entry_eq "root_free_bytes" hdisk (by simp [Probe.disk]) (by simp [Probe.disk])
  have hsource : sortKeys (str p.readings.ntpSource) = sortKeys (str q.readings.ntpSource) :=
    entry_eq "ntp_source" hclock (by simp [Probe.clock]) (by simp [Probe.clock])
  have hoffset : sortKeys (str p.readings.lastOffset) = sortKeys (str q.readings.lastOffset) :=
    entry_eq "last_offset_s" hclock (by simp [Probe.clock]) (by simp [Probe.clock])
  have hstratum : sortKeys (str p.readings.stratum) = sortKeys (str q.readings.stratum) :=
    entry_eq "stratum" hclock (by simp [Probe.clock]) (by simp [Probe.clock])
  obtain ⟨machine, ⟨free, source, offset, stratum⟩, noToken, failed⟩ := p
  obtain ⟨machine', ⟨free', source', offset', stratum'⟩, noToken', failed'⟩ := q
  simp only [Readings.mk.injEq]
  exact ⟨by exact_mod_cast int_eq hfree, str_eq hsource, str_eq hoffset, str_eq hstratum⟩

/-- So can what the commands add. -/
theorem value_eq {role : String} {p q : Probe}
    (h : sortKeys (obj (p.out role)) = sortKeys (obj (q.out role))) (cmd : ShellCommand) :
    p.value cmd = q.value cmd := by
  have hhost : sortKeys (obj p.host) = sortKeys (obj q.host) :=
    entry_eq "host" h (by simp [Probe.out]) (by simp [Probe.out])
  have hinstance : sortKeys (obj p.instance) = sortKeys (obj q.instance) :=
    entry_eq "instance" h (by simp [Probe.out]) (by simp [Probe.out])
  have hdisk : sortKeys (obj p.disk) = sortKeys (obj q.disk) :=
    entry_eq "disk" h (by simp [Probe.out]) (by simp [Probe.out])
  have hjava : sortKeys (obj p.java) = sortKeys (obj q.java) :=
    entry_eq "java" h (by simp [Probe.out]) (by simp [Probe.out])
  suffices hsort : sortKeys (p.value cmd) = sortKeys (q.value cmd) by
    unfold Probe.value at hsort ⊢
    rwa [sortKeys_read, sortKeys_read] at hsort
  cases cmd with
  | os => exact entry_eq "os" hhost (by simp [Probe.host]) (by simp [Probe.host])
  | physicalCores =>
      exact entry_eq "physical_cores" hhost (by simp [Probe.host]) (by simp [Probe.host])
  | cpuGovernor =>
      exact entry_eq "cpu_governor" hhost (by simp [Probe.host]) (by simp [Probe.host])
  | instanceType =>
      exact entry_eq "type" hinstance (by simp [Probe.instance]) (by simp [Probe.instance])
  | instanceId =>
      exact entry_eq "id" hinstance (by simp [Probe.instance]) (by simp [Probe.instance])
  | az => exact entry_eq "az" hinstance (by simp [Probe.instance]) (by simp [Probe.instance])
  | burstable =>
      exact entry_eq "burstable" hinstance (by simp [Probe.instance]) (by simp [Probe.instance])
  | device => exact entry_eq "device" hdisk (by simp [Probe.disk]) (by simp [Probe.disk])
  | rotational => exact entry_eq "rotational" hdisk (by simp [Probe.disk]) (by simp [Probe.disk])
  | tmpIsTmpfs => exact entry_eq "tmp_is_tmpfs" hdisk (by simp [Probe.disk]) (by simp [Probe.disk])
  | javaVersion => exact entry_eq "version" hjava (by simp [Probe.java]) (by simp [Probe.java])
  | duckdbCli => exact entry_eq "duckdb_cli" h (by simp [Probe.out]) (by simp [Probe.out])

/-- A server that prints nothing has no role. -/
theorem serverDoc_ne (role : String) (p : Probe) :
    sortKeys (obj (p.out role)) ≠ sortKeys (obj []) := by
  intro h
  have hrole : sortKeys (str role) = sortKeys null :=
    entry_eq "role" h (by simp [Probe.out]) (by simp)
  simp [sortKeys] at hrole

theorem sameMoment_of_serverDoc (role : String) {a b : Option Probe}
    (hmachine : ∀ p ∈ a, ∀ q ∈ b, p.machine = q.machine)
    (h : sortKeys (serverDoc role a) = sortKeys (serverDoc role b)) :
    Option.Rel Probe.SameMoment a b := by
  cases a with
  | none =>
      cases b with
      | none => exact .none
      | some q => exact absurd h.symm (serverDoc_ne role q)
  | some p =>
      cases b with
      | none => exact absurd h (serverDoc_ne role p)
      | some q =>
          refine .some ⟨readings_eq h, fun cmd => ?_⟩
          exact (value_eq_iff (hmachine p rfl q rfl) cmd).1 (value_eq h cmd)

/-- The moment can be found in the document. -/
theorem sameMoment_of_doc (hsame : Unchanged c d)
    (h : sortKeys (obj c.doc) = sortKeys (obj d.doc)) : SameMoment c d := by
  have hservers : sortKeys (obj c.servers) = sortKeys (obj d.servers) :=
    entry_eq "servers" h (by simp [Capture.doc]) (by simp [Capture.doc])
  have hconfig : sortKeys (obj c.effectiveConfig) = sortKeys (obj d.effectiveConfig) :=
    entry_eq "effective_config" h (by simp [Capture.doc]) (by simp [Capture.doc])
  have hcommit : sortKeys (obj [("git_commit", str (commitText c.gitCommit))])
      = sortKeys (obj [("git_commit", str (commitText d.gitCommit))]) :=
    entry_eq "dazzleduck" h (by simp [Capture.doc]) (by simp [Capture.doc])
  exact
    { capturedAt := str_eq
        (entry_eq "captured_at" h (by simp [Capture.doc]) (by simp [Capture.doc]))
      generator := sameMoment_of_serverDoc "generator" hsame.generator
        (entry_eq "generator" hservers (by simp [Capture.servers]) (by simp [Capture.servers]))
      collector := sameMoment_of_serverDoc "collector" hsame.collector
        (entry_eq "collector" hservers (by simp [Capture.servers]) (by simp [Capture.servers]))
      compactor := sameMoment_of_serverDoc "compactor" hsame.compactor
        (entry_eq "compactor" hservers (by simp [Capture.servers]) (by simp [Capture.servers]))
      collectorConf := str_eq (entry_eq "collector_application_conf" hconfig
        (by simp [Capture.effectiveConfig]) (by simp [Capture.effectiveConfig]))
      compactorConf := str_eq (entry_eq "compactor_application_conf" hconfig
        (by simp [Capture.effectiveConfig]) (by simp [Capture.effectiveConfig]))
      gitCommit := str_eq (entry_eq "git_commit" hcommit (by simp) (by simp)) }

/-! ## Examples -/

/-- A generator host. -/
def generatorMachine : Machine where
  hostname := "gen"
  kernel := "6.1.0"
  cpuModel := "Intel"
  logicalCores := some 2
  ramBytes := 8589934592
  swapBytes := 0
  rootTotalBytes := 32212254720
  javaHome := ""
  pythonVersion := "3.11.9"
  prints
    | .os => "Amazon Linux 2023"
    | .physicalCores => "1"
    | .cpuGovernor => ""
    | .instanceType | .burstable => "t3.large"
    | .instanceId => "i-0"
    | .az => "eu-west-1a"
    | .device => "/dev/nvme0n1p1"
    | .rotational => "0"
    | .tmpIsTmpfs => "tmpfs"
    | .javaVersion => "openjdk 21"
    | .duckdbCli => "v1.5.2"

/-- A capture in which only the generator host answers, but for the governor, which the instance
    does not expose; the compactor's file cannot be read. -/
def captureAt (capturedAt : String) : Capture where
  capturedAt
  environ :=
    ⟨some "gen", some "col", some "com", none, none, none, none, none, none, none, none, none⟩
  generator := some
    { machine := generatorMachine
      readings := ⟨20000000000, "10.0.0.1", "-0.000012", "4"⟩
      failed := fun cmd => cmd = .cpuGovernor }
  collector := none
  compactor := none
  collectorConf := { printed := "http.port = 8081\n" }
  compactorConf := { printed := "", failed := true }
  gitCommit := { printed := "abc1234\n" }

/-- A capture, and one a second later. -/
def capture : Capture := captureAt "2026-09-15T12:48:58Z"

def captureLater : Capture := captureAt "2026-09-15T12:48:59Z"

/-- The digests of the two payloads. -/
def tabledDigest (text : String) : String :=
  if text = capture.payload then "18639fc269ad8afb"
  else if text = captureLater.payload then "95df028b12b6ca0d"
  else text

theorem unchanged_capture : Unchanged capture captureLater := by
  constructor <;> simp [capture, captureLater, captureAt]

theorem payload_ne : captureLater.payload ≠ capture.payload := by
  intro heq
  have hcaptured : captureLater.capturedAt = capture.capturedAt := str_eq
    (entry_eq "captured_at" (sortKeys_eq_of_dumps_eq heq) (by simp [Capture.doc])
      (by simp [Capture.doc]))
  exact absurd hcaptured (by decide)

theorem tabledDigest_capture : tabledDigest capture.payload = "18639fc269ad8afb" := if_pos rfl

theorem tabledDigest_captureLater : tabledDigest captureLater.payload = "95df028b12b6ca0d" := by
  rw [tabledDigest, if_neg payload_ne, if_pos rfl]

theorem collisionFree_tabledDigest : CollisionFree tabledDigest capture captureLater := by
  intro heq
  rw [tabledDigest_capture, tabledDigest_captureLater] at heq
  exact absurd heq (by decide)

/-! ## The hash -/

/-- **When the hash is that of the system.** Two captures of a system that has not changed have the
same hash if and only if they belong to one moment. -/
theorem envHash_eq_iff {digest : String → String} (hfree : CollisionFree digest c d)
    (h : Unchanged c d) : envHash digest c = envHash digest d ↔ SameMoment c d := by
  constructor
  · intro heq
    exact sameMoment_of_doc h (sortKeys_eq_of_dumps_eq (hfree heq))
  · intro hmoment
    rw [envHash, envHash, Capture.payload, Capture.payload, doc_eq h hmoment]

/-- A second makes another hash. -/
theorem not_envHash_eq_oneSecondLater :
    ¬ ∀ (digest : String → String) (c d : Capture), CollisionFree digest c d → Unchanged c d →
      envHash digest c = envHash digest d := by
  intro hall
  have heq := hall tabledDigest capture captureLater collisionFree_tabledDigest unchanged_capture
  rw [envHash, envHash, tabledDigest_capture, tabledDigest_captureLater] at heq
  exact absurd heq (by decide)

theorem envHash_ne_oneSecondLater :
    envHash tabledDigest capture ≠ envHash tabledDigest captureLater := by
  intro heq
  have hmoment := (envHash_eq_iff collisionFree_tabledDigest unchanged_capture).1 heq
  exact absurd hmoment.capturedAt (by decide)

end AnalyticsTesting.Scripts
