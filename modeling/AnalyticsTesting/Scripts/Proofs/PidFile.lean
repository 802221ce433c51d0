import AnalyticsTesting.Scripts.PidFile
import Mathlib.Tactic.ByContra

set_option autoImplicit false

/-! # What the pid files keep

If nothing overlaps a call of `start.sh`, there is at most one daemon that has not been told to end,
and the file has its pid once the call has written it; where `stop.sh` waits and kills, there is at
most one daemon at all. That a check finds a daemon exactly if there is one takes in addition that
no other program was given the pid in the file (`pidFile_safe`). -/

namespace AnalyticsTesting.Scripts

open Transition

variable {remote : Bool} {s s' : PidHost} {a : PidAction} {call : Call} {left : Option Call}
  {pid : Nat}

theorem alive_eq_true_iff (s : PidHost) (pid : Nat) :
    s.alive pid = true ↔ ∃ proc, s.procs pid = some proc ∧ proc.mine = true := by
  cases hproc : s.procs pid <;> simp [PidHost.alive, hproc]

theorem running_eq_true_iff (s : PidHost) :
    s.running = true ↔ ∃ pid, s.pidFile = .pid pid ∧ s.alive pid = true := by
  cases hfile : s.pidFile <;> simp [PidHost.running, hfile]

theorem update_eq_some {procs : Nat → Option Proc} {pid q : Nat} {x : Option Proc} {proc : Proc}
    (h : Function.update procs pid x q = some proc) :
    (q = pid ∧ x = some proc) ∨ (q ≠ pid ∧ procs q = some proc) := by
  rw [Function.update_apply] at h
  split at h
  · exact Or.inl ⟨by assumption, h⟩
  · exact Or.inr ⟨by assumption, h⟩

/-! ## Signals -/

@[simp] theorem term_pidFile (s : PidHost) (pid : Nat) : (s.term pid).pidFile = s.pidFile := by
  unfold PidHost.term
  split <;> rfl

@[simp] theorem kill_pidFile (s : PidHost) (pid : Nat) : (s.kill pid).pidFile = s.pidFile := by
  unfold PidHost.kill
  split <;> rfl

/-- After `TERM` a process is as it was, or has been told to end. -/
theorem term_procs {q : Nat} {proc : Proc} (h : (s.term pid).procs q = some proc) :
    (s.procs q = some proc ∧ (q = pid → proc.mine = false)) ∨
      (q = pid ∧ ∃ old, s.procs q = some old ∧ proc = { old with ending := true }) := by
  unfold PidHost.term at h
  split at h
  case isTrue =>
    rcases update_eq_some h with ⟨rfl, hnew⟩ | ⟨hne, hold⟩
    · obtain ⟨old, hold, rfl⟩ := Option.map_eq_some_iff.1 hnew
      exact Or.inr ⟨rfl, old, hold, rfl⟩
    · exact Or.inl ⟨hold, fun hq => absurd hq hne⟩
  case isFalse hdead =>
    refine Or.inl ⟨h, ?_⟩
    rintro rfl
    by_contra hmine
    exact hdead ((alive_eq_true_iff s q).2 ⟨proc, h, by simpa using hmine⟩)

/-- After `KILL` a process is as it was, and not the one that was killed. -/
theorem kill_procs {q : Nat} {proc : Proc} (h : (s.kill pid).procs q = some proc) :
    s.procs q = some proc ∧ (q = pid → proc.mine = false) := by
  unfold PidHost.kill at h
  split at h
  case isTrue =>
    rcases update_eq_some h with ⟨-, hgone⟩ | ⟨hne, hold⟩
    · cases hgone
    · exact ⟨hold, fun hq => absurd hq hne⟩
  case isFalse hdead =>
    refine ⟨h, ?_⟩
    rintro rfl
    by_contra hmine
    exact hdead ((alive_eq_true_iff s q).2 ⟨proc, h, by simpa using hmine⟩)

/-! ## Commands -/

/-- The commands of a call, one after another. -/
inductive Command (remote : Bool) (s : PidHost) (pid : Nat) :
    Call → PidHost → Option Call → Prop
  | found (old : Nat) : s.alive old = true → Command remote s pid (.checking old) s none
  | idle (old : Nat) : s.alive old = false →
      Command remote s pid (.checking old) s (some .starting)
  | fork : s.procs pid = none → Command remote s pid .starting
      { s with procs := Function.update s.procs pid (some { daemon := true }) }
      (some (.forked pid))
  | truncate (new : Nat) :
      Command remote s pid (.forked new) { s with pidFile := .empty } (some (.truncated new))
  | write (new : Nat) : Command remote s pid (.truncated new) { s with pidFile := .pid new } none
  | found' (old : Nat) : s.alive old = true →
      Command remote s pid (.read old) s (some (.signalling old))
  | idle' (old : Nat) : s.alive old = false → Command remote s pid (.read old) s (some .removing)
  | termFile (old pid' : Nat) : remote = true → s.pidFile = .pid pid' →
      Command remote s pid (.signalling old) (s.term pid') (some .removing)
  | termNone (old : Nat) : remote = true → (∀ pid', s.pidFile ≠ .pid pid') →
      Command remote s pid (.signalling old) s (some .removing)
  | term (old : Nat) : remote = false →
      Command remote s pid (.signalling old) (s.term old) (some (.waiting old))
  | kill (old : Nat) : Command remote s pid (.waiting old) (s.kill old) (some .removing)
  | remove : Command remote s pid .removing { s with pidFile := .absent } none

theorem next_cases (h : call.next remote s pid = some (s', left)) :
    Command remote s pid call s' left := by
  cases call with
  | checking old =>
      obtain ⟨rfl, rfl⟩ := Prod.mk.inj (Option.some.inj h)
      cases halive : s.alive old with
      | true => exact .found old halive
      | false => exact .idle old halive
  | starting =>
      rw [Call.next] at h
      split at h
      · rename_i hfree
        obtain ⟨rfl, rfl⟩ := Prod.mk.inj (Option.some.inj h)
        exact .fork hfree
      · cases h
  | forked new =>
      obtain ⟨rfl, rfl⟩ := Prod.mk.inj (Option.some.inj h)
      exact .truncate new
  | truncated new =>
      obtain ⟨rfl, rfl⟩ := Prod.mk.inj (Option.some.inj h)
      exact .write new
  | read old =>
      obtain ⟨rfl, rfl⟩ := Prod.mk.inj (Option.some.inj h)
      cases halive : s.alive old with
      | true => exact .found' old halive
      | false => exact .idle' old halive
  | signalling old =>
      rw [Call.next] at h
      split at h
      · rename_i hremote
        split at h
        · rename_i pid' hfile
          obtain ⟨rfl, rfl⟩ := Prod.mk.inj (Option.some.inj h)
          exact .termFile old pid' hremote hfile
        · rename_i hfile
          obtain ⟨rfl, rfl⟩ := Prod.mk.inj (Option.some.inj h)
          exact .termNone old hremote hfile
      · rename_i hlocal
        obtain ⟨rfl, rfl⟩ := Prod.mk.inj (Option.some.inj h)
        exact .term old (by simpa using hlocal)
  | waiting old =>
      obtain ⟨rfl, rfl⟩ := Prod.mk.inj (Option.some.inj h)
      exact .kill old
  | removing =>
      obtain ⟨rfl, rfl⟩ := Prod.mk.inj (Option.some.inj h)
      exact .remove

/-- A process after a command was there before, or is new, or has been told to end. -/
theorem Command.proc (h : Command remote s pid call s' left) {q : Nat} {proc : Proc}
    (hproc : s'.procs q = some proc) :
    s.procs q = some proc ∨
      (call = .starting ∧ q = pid ∧ proc = { daemon := true }) ∨
      ((∃ old, call = .signalling old) ∧
        ∃ old, s.procs q = some old ∧ proc = { old with ending := true }) := by
  cases h with
  | fork =>
      rcases update_eq_some hproc with ⟨rfl, hnew⟩ | ⟨-, hold⟩
      · exact Or.inr (Or.inl ⟨rfl, rfl, (Option.some.inj hnew).symm⟩)
      · exact Or.inl hold
  | termFile old | term old =>
      rcases term_procs hproc with ⟨hold, -⟩ | ⟨-, hnew⟩
      · exact Or.inl hold
      · exact Or.inr (Or.inr ⟨⟨old, rfl⟩, hnew⟩)
  | kill => exact Or.inl (kill_procs hproc).1
  | _ => exact Or.inl hproc

/-! ## Calls -/

/-- It is a call of `start.sh`. -/
def Call.isStart : Call → Bool
  | .checking _ | .starting | .forked _ | .truncated _ => true
  | .read _ | .signalling _ | .waiting _ | .removing => false

/-- The daemon that the call has started, while its pid is not in the file. -/
def Call.started : Call → Option Nat
  | .forked pid | .truncated pid => some pid
  | _ => none

/-- The one daemon there may be while the call has come this far. -/
def Call.target : Call → Option Nat
  | .checking pid | .forked pid | .truncated pid | .read pid | .signalling pid | .waiting pid =>
      some pid
  | .starting | .removing => none

theorem Command.isStart (h : Command remote s pid call s' left) {call' : Call}
    (hleft : left = some call') : call'.isStart = call.isStart := by
  cases h <;> cases hleft <;> rfl

theorem isStart_of_started {call : Call} (h : call.started = some pid) : call.isStart = true := by
  cases call <;> first | rfl | cases h

theorem target_of_started {call : Call} (h : call.started = some pid) :
    call.target = some pid := by
  cases call <;> first | exact h | cases h

/-- A call that is there afterwards is another one, or what is left of the one that went on. -/
theorem mem_goOn {calls : List Call} {i : Nat} {call' : Call} (h : call' ∈ goOn calls i left) :
    (∃ j, j ≠ i ∧ calls[j]? = some call') ∨ left = some call' := by
  cases left with
  | none => exact Or.inl (List.mem_eraseIdx_iff_getElem?.1 h)
  | some new =>
      obtain ⟨j, hj⟩ := List.getElem?_of_mem h
      by_cases hji : j = i
      · subst hji
        have hlt : j < calls.length := by
          simpa [goOn] using (List.getElem?_eq_some_iff.1 hj).1
        rw [goOn, List.getElem?_set_self hlt] at hj
        exact Or.inr hj
      · rw [goOn, List.getElem?_set_ne (Ne.symm hji)] at hj
        exact Or.inl ⟨j, hji, hj⟩

/-- A call that has not been the one to go on is still there. -/
theorem mem_goOn_of_ne {calls : List Call} {i : Nat} {call' : Call} (hi : calls[i]? = some call)
    (h : call' ∈ calls) (hne : call' ≠ call) : call' ∈ goOn calls i left := by
  obtain ⟨j, hj⟩ := List.getElem?_of_mem h
  have hji : j ≠ i := by
    rintro rfl
    exact hne (Option.some.inj (hj.symm.trans hi))
  cases left with
  | none => exact List.mem_eraseIdx_iff_getElem?.2 ⟨j, hji, hj⟩
  | some new =>
      refine List.mem_of_getElem? (i := j) ?_
      rw [← hj]
      exact List.getElem?_set_ne hji.symm

theorem mem_goOn_self {calls : List Call} {i : Nat} {call' : Call} (hi : calls[i]? = some call) :
    call' ∈ goOn calls i (some call') :=
  List.mem_set (List.getElem?_eq_some_iff.1 hi).1 call'

theorem length_goOn_le (calls : List Call) (i : Nat) (left : Option Call) :
    (goOn calls i left).length ≤ calls.length := by
  cases left with
  | none => exact List.length_eraseIdx_le calls i
  | some new => exact Nat.le_of_eq List.length_set

theorem eq_of_length_le_one {calls : List Call} (h : calls.length ≤ 1) {i j : Nat} {c d : Call}
    (hc : calls[i]? = some c) (hd : calls[j]? = some d) : i = j := by
  have hi := (List.getElem?_eq_some_iff.1 hc).1
  have hj := (List.getElem?_eq_some_iff.1 hd).1
  omega

/-! ## Steps -/

/-- The steps, one after another. -/
inductive PidStep (remote : Bool) (s : PidHost) : PidAction → PidHost → Prop
  | startCheck (pid : Nat) : s.pidFile = .pid pid →
      PidStep remote s .start { s with calls := .checking pid :: s.calls }
  | startIdle : (∀ pid, s.pidFile ≠ .pid pid) →
      PidStep remote s .start { s with calls := .starting :: s.calls }
  | stopRead (pid : Nat) : s.pidFile = .pid pid →
      PidStep remote s .stop { s with calls := .read pid :: s.calls }
  | stopRemove : (∀ pid, s.pidFile ≠ .pid pid) →
      PidStep remote s .stop { s with calls := .removing :: s.calls }
  | stopNone : PidStep remote s .stop s
  | next (i pid : Nat) {call : Call} {t : PidHost} {left : Option Call} :
      s.calls[i]? = some call → Command remote s pid call t left →
      PidStep remote s (.next i pid) { t with calls := goOn s.calls i left }
  | abort (i : Nat) : PidStep remote s (.abort i) { s with calls := s.calls.eraseIdx i }
  | exits (pid : Nat) : PidStep remote s (.exits pid)
      { s with procs := Function.update s.procs pid none }
  | spawn (pid : Nat) (mine : Bool) : s.procs pid = none → PidStep remote s (.spawn pid mine)
      { s with procs := Function.update s.procs pid (some { daemon := false, mine := mine }) }
  | reboot : PidStep remote s .reboot { s with procs := fun _ => none, calls := [] }

theorem pidStep_cases (h : pidStep remote s a = some s') : PidStep remote s a s' := by
  cases a with
  | start =>
      obtain rfl := Option.some.inj h
      cases hfile : s.pidFile with
      | pid pid => simpa [hfile] using @PidStep.startCheck remote _ pid hfile
      | _ => simpa [hfile] using @PidStep.startIdle remote s (by simp [hfile])
  | stop =>
      rw [pidStep] at h
      split at h
      · rename_i pid hfile
        obtain rfl := Option.some.inj h
        exact .stopRead pid hfile
      · rename_i hfile
        obtain rfl := Option.some.inj h
        exact .stopRemove (by simp [hfile])
      · rename_i hfile
        obtain rfl := Option.some.inj h
        split
        · exact .stopRemove (by simp [hfile])
        · exact .stopNone
  | next i pid =>
      obtain ⟨call, hcall, h⟩ := Option.bind_eq_some_iff.1 h
      obtain ⟨⟨t, left⟩, hnext, h⟩ := Option.bind_eq_some_iff.1 h
      obtain rfl := Option.some.inj h
      exact .next i pid hcall (next_cases hnext)
  | abort i =>
      obtain rfl := Option.some.inj h
      exact .abort i
  | exits pid =>
      rw [pidStep] at h
      split at h
      · cases h
      · obtain rfl := Option.some.inj h
        exact .exits pid
  | spawn pid mine =>
      rw [pidStep] at h
      split at h
      · rename_i hfree
        obtain rfl := Option.some.inj h
        exact .spawn pid mine hfree
      · cases h
  | reboot =>
      obtain rfl := Option.some.inj h
      exact .reboot

/-- A process after a step was there before, or is new, or has been told to end. -/
theorem PidStep.proc (h : PidStep remote s a s') {q : Nat} {proc : Proc}
    (hproc : s'.procs q = some proc) :
    s.procs q = some proc ∨
      (∃ i, a = .next i q ∧ s.calls[i]? = some .starting ∧ proc = { daemon := true }) ∨
      (∃ mine, a = .spawn q mine ∧ proc = { daemon := false, mine := mine }) ∨
      ((∃ i pid old, a = .next i pid ∧ s.calls[i]? = some (.signalling old)) ∧
        ∃ old, s.procs q = some old ∧ proc = { old with ending := true }) := by
  cases h with
  | next i pid hcall hcommand =>
      rcases hcommand.proc hproc with hold | ⟨rfl, rfl, hnew⟩ | ⟨⟨old, rfl⟩, hending⟩
      · exact Or.inl hold
      · exact Or.inr (Or.inl ⟨i, rfl, hcall, hnew⟩)
      · exact Or.inr (Or.inr (Or.inr ⟨⟨i, pid, old, rfl, hcall⟩, hending⟩))
  | exits =>
      rcases update_eq_some hproc with ⟨-, hgone⟩ | ⟨-, hold⟩
      · cases hgone
      · exact Or.inl hold
  | spawn _ mine =>
      rcases update_eq_some hproc with ⟨rfl, hnew⟩ | ⟨-, hold⟩
      · exact Or.inr (Or.inr (Or.inl ⟨mine, rfl, (Option.some.inj hnew).symm⟩))
      · exact Or.inl hold
  | reboot => cases hproc
  | _ => exact Or.inl hproc

/-! ## One daemon -/

/-- A daemon; where `stop.sh` does not wait for it to end, one that has not been told to. -/
def PidHost.Live (remote : Bool) (s : PidHost) (pid : Nat) : Prop :=
  ∃ proc, s.procs pid = some proc ∧ proc.daemon = true ∧ (remote = true → proc.ending = false)

/-- The pid is in the file, or the call that has started the process is about to write it. -/
def PidHost.Recorded (s : PidHost) (pid : Nat) : Prop :=
  s.pidFile = .pid pid ∨ ∃ call ∈ s.calls, call.started = some pid

instance (s : PidHost) (pid : Nat) : Decidable (s.Recorded pid) :=
  inferInstanceAs (Decidable (_ ∨ ∃ call ∈ s.calls, call.started = some pid))

/-- A call of `start.sh` begins when no other call is under way, and nothing begins before it is
    over; it is not cut off between the start of the daemon and the pid file, nor a call of
    `stop.sh` over `ssh` between the signal and the removal. -/
def Orderly (remote : Bool) (s : PidHost) : PidAction → Prop
  | .start => s.calls = []
  | .stop => ∀ call ∈ s.calls, call.isStart = false
  | .abort i => ∀ call ∈ s.calls[i]?,
      call.started = none ∧ (remote = true → call ≠ .removing)
  | _ => True

instance (s : PidHost) : (a : PidAction) → Decidable (Orderly remote s a)
  | .start => inferInstanceAs (Decidable (s.calls = []))
  | .stop => inferInstanceAs (Decidable (∀ call ∈ s.calls, call.isStart = false))
  | .abort i => inferInstanceAs (Decidable (∀ call ∈ s.calls[i]?,
      call.started = none ∧ (remote = true → call ≠ .removing)))
  | .next _ _ | .exits _ | .spawn _ _ | .reboot => isTrue trivial

/-- What is recorded stays so when a call goes on that leaves the file as it is. -/
theorem PidHost.Recorded.goOn {t : PidHost} {i : Nat} (hrecorded : s.Recorded pid)
    (hi : s.calls[i]? = some call) (hnone : call.started = none) (hfile : t.pidFile = s.pidFile) :
    PidHost.Recorded { t with calls := goOn s.calls i left } pid := by
  refine hrecorded.imp hfile.trans ?_
  rintro ⟨call', hmem, hstarted⟩
  refine ⟨call', mem_goOn_of_ne hi hmem ?_, hstarted⟩
  rintro rfl
  rw [hnone] at hstarted
  cases hstarted

/-- A daemon after a step is new, or it was one before. -/
theorem PidStep.live (h : PidStep remote s a s') {q : Nat} (hlive : s'.Live remote q) :
    s.Live remote q ∨ ∃ i, a = .next i q ∧ s.calls[i]? = some .starting := by
  obtain ⟨proc, hproc, hdaemon, hending⟩ := hlive
  rcases h.proc hproc with hold | ⟨i, ha, hcall, -⟩ | ⟨mine, -, rfl⟩ | ⟨-, old, hold, rfl⟩
  · exact Or.inl ⟨proc, hold, hdaemon, hending⟩
  · exact Or.inr ⟨i, ha, hcall⟩
  · cases hdaemon
  · exact Or.inl ⟨old, hold, hdaemon, fun hremote => by cases hending hremote⟩

/-- What is recorded after a step was recorded before, or has just been started. -/
theorem PidStep.recorded (h : PidStep remote s a s') {q : Nat} (hrecorded : s'.Recorded q) :
    s.Recorded q ∨ ∃ i, a = .next i q ∧ s.calls[i]? = some .starting ∧ s.procs q = none := by
  cases h with
  | startCheck | startIdle | stopRead | stopRemove =>
      refine Or.inl (hrecorded.imp_right ?_)
      rintro ⟨call, hmem, hstarted⟩
      rcases List.mem_cons.1 hmem with rfl | hmem
      · cases hstarted
      · exact ⟨call, hmem, hstarted⟩
  | stopNone | exits | spawn => exact Or.inl hrecorded
  | abort =>
      refine Or.inl (hrecorded.imp_right ?_)
      rintro ⟨call, hmem, hstarted⟩
      exact ⟨call, List.mem_of_mem_eraseIdx hmem, hstarted⟩
  | reboot =>
      rcases hrecorded with hfile | ⟨call, hmem, -⟩
      · exact Or.inl (Or.inl hfile)
      · cases hmem
  | next i pid hcall hcommand =>
      have hmem := List.mem_of_getElem? hcall
      -- a call that is still there recorded the pid before
      have hold : ∀ call' ∈ s.calls, call'.started = some q → s.Recorded q :=
        fun call' hmem hstarted => Or.inr ⟨call', hmem, hstarted⟩
      rcases hrecorded with hfile | ⟨call', hmem', hstarted⟩
      · refine Or.inl ?_
        cases hcommand with
        | truncate | remove => cases hfile
        | write new =>
            cases hfile
            exact hold _ hmem rfl
        | termFile | term => exact Or.inl ((term_pidFile _ _).symm.trans hfile)
        | kill => exact Or.inl ((kill_pidFile _ _).symm.trans hfile)
        | _ => exact Or.inl hfile
      · rcases mem_goOn hmem' with ⟨j, -, hj⟩ | hleft
        · exact Or.inl (hold call' (List.mem_of_getElem? hj) hstarted)
        · cases hcommand with
          | fork hfree =>
              cases hleft
              cases hstarted
              exact Or.inr ⟨i, rfl, hcall, hfree⟩
          | truncate new =>
              cases hleft
              exact Or.inl (hold _ hmem hstarted)
          | _ =>
              cases hleft
              try cases hstarted

structure Supervised (remote : Bool) (s : PidHost) : Prop where
  /-- Daemons run as the user of the scripts. -/
  mine : ∀ pid proc, s.procs pid = some proc → proc.daemon = true → proc.mine = true
  /-- A call knows which daemon there may be. -/
  target : ∀ call ∈ s.calls, ∀ pid, s.Live remote pid → call.target = some pid
  alone : ∀ call ∈ s.calls, call.isStart = true → s.calls.length ≤ 1
  recorded : ∀ pid, s.Live remote pid → s.Recorded pid

namespace Supervised

variable (hI : Supervised remote s)
include hI

theorem alive (hlive : s.Live remote pid) : s.alive pid = true := by
  obtain ⟨proc, hproc, hdaemon, -⟩ := hlive
  exact (alive_eq_true_iff s pid).2 ⟨proc, hproc, hI.mine pid proc hproc hdaemon⟩

theorem eq_of_isStart {call call' : Call} {i j : Nat} (hcall : s.calls[i]? = some call)
    (hstart : call.isStart = true) (hcall' : s.calls[j]? = some call') : i = j :=
  eq_of_length_le_one (hI.alone call (List.mem_of_getElem? hcall) hstart) hcall hcall'

/-- `start.sh` and `stop.sh` are not under way together. -/
theorem isStart_eq {call call' : Call} (hcall : call ∈ s.calls) (hcall' : call' ∈ s.calls)
    (hstart : call.isStart = true) : call'.isStart = true := by
  obtain ⟨i, hi⟩ := List.getElem?_of_mem hcall
  obtain ⟨j, hj⟩ := List.getElem?_of_mem hcall'
  cases hI.eq_of_isStart hi hstart hj
  cases hi.symm.trans hj
  exact hstart

/-- While no call of `start.sh` is under way, the file has the pid of the daemon. -/
theorem file_of_live (hstop : ∀ call ∈ s.calls, call.isStart = false) (hlive : s.Live remote pid) :
    s.pidFile = .pid pid := by
  rcases hI.recorded pid hlive with hfile | ⟨call, hcall, hstarted⟩
  · exact hfile
  · have hstart := isStart_of_started hstarted
    rw [hstop call hcall] at hstart
    cases hstart

theorem file_of_stop {call : Call} (hcall : call ∈ s.calls) (hstop : call.isStart = false)
    (hlive : s.Live remote pid) : s.pidFile = .pid pid := by
  refine hI.file_of_live (fun call' hcall' => ?_) hlive
  by_contra hstart
  have := hI.isStart_eq hcall' hcall (by simpa using hstart)
  rw [hstop] at this
  cases this

theorem mine_step (h : PidStep remote s a s') : ∀ pid proc, s'.procs pid = some proc →
    proc.daemon = true → proc.mine = true := by
  intro pid proc hproc hdaemon
  rcases h.proc hproc with hold | ⟨-, -, -, rfl⟩ | ⟨mine, -, rfl⟩ | ⟨-, old, hold, rfl⟩
  · exact hI.mine pid proc hold hdaemon
  · rfl
  · cases hdaemon
  · exact hI.mine pid old hold hdaemon

/-- What the next command of a call leaves of the call knows which daemon there may be. -/
theorem target_command {t : PidHost} (hmem : call ∈ s.calls)
    (h : Command remote s pid call t left) {call' : Call} (hleft : left = some call') {q : Nat}
    (hlive : t.Live remote q) (hold : s.Live remote q ∨ (call = .starting ∧ q = pid)) :
    call'.target = some q := by
  have htarget : s.Live remote q → call.target = some q := hI.target call hmem q
  have hmine : ∀ proc, s.procs q = some proc → proc.daemon = true → proc.mine = false → False :=
    fun proc hproc hdaemon hother => by
      rw [hI.mine q proc hproc hdaemon] at hother
      cases hother
  cases h with
  | found | write | remove => cases hleft
  | idle old hdead | idle' old hdead =>
      rcases hold with hold | ⟨hcall, -⟩
      · cases htarget hold
        rw [hI.alive hold] at hdead
        cases hdead
      · cases hcall
  | fork =>
      cases hleft
      rcases hold with hold | ⟨-, rfl⟩
      · cases htarget hold
      · rfl
  | truncate | found' | term =>
      cases hleft
      rcases hold with hold | ⟨hcall, -⟩
      · exact htarget hold
      · cases hcall
  | termFile old pid' hremote hfile =>
      rcases hold with hold | ⟨hcall, -⟩
      · -- the daemon is the process with the pid in the file, which has just been told to end
        cases hfile.symm.trans (hI.file_of_stop hmem rfl hold)
        obtain ⟨proc, hproc, hdaemon, hending⟩ := hlive
        rcases term_procs hproc with ⟨hproc, hother⟩ | ⟨-, _, -, rfl⟩
        · exact (hmine proc hproc hdaemon (hother rfl)).elim
        · cases hending hremote
      · cases hcall
  | termNone old hremote hfile =>
      rcases hold with hold | ⟨hcall, -⟩
      · exact absurd (hI.file_of_stop hmem rfl hold) (hfile q)
      · cases hcall
  | kill old =>
      rcases hold with hold | ⟨hcall, -⟩
      · cases htarget hold
        obtain ⟨proc, hproc, hdaemon, -⟩ := hlive
        obtain ⟨hproc, hother⟩ := kill_procs hproc
        exact (hmine proc hproc hdaemon (hother rfl)).elim
      · cases hcall

theorem target_step (hP : Orderly remote s a) (h : PidStep remote s a s') :
    ∀ call ∈ s'.calls, ∀ q, s'.Live remote q → call.target = some q := by
  intro call hmem q hlive
  have hold := h.live hlive
  cases h with
  | startCheck pid hfile =>
      have hfree : s.calls = [] := hP
      rcases List.mem_cons.1 hmem with rfl | hmem
      · rcases hold with hold | ⟨i, ha, -⟩
        · cases hfile.symm.trans (hI.file_of_live (by simp [hfree]) hold)
          rfl
        · cases ha
      · simp [hfree] at hmem
  | startIdle hfile =>
      have hfree : s.calls = [] := hP
      rcases hold with hold | ⟨i, ha, -⟩
      · exact absurd (hI.file_of_live (by simp [hfree]) hold) (hfile q)
      · cases ha
  | stopRead pid hfile =>
      rcases hold with hold | ⟨i, ha, -⟩
      · rcases List.mem_cons.1 hmem with rfl | hmem
        · cases hfile.symm.trans (hI.file_of_live hP hold)
          rfl
        · exact hI.target call hmem q hold
      · cases ha
  | stopRemove hfile =>
      rcases hold with hold | ⟨i, ha, -⟩
      · exact absurd (hI.file_of_live hP hold) (hfile q)
      · cases ha
  | stopNone | exits | spawn =>
      rcases hold with hold | ⟨i, ha, -⟩
      · exact hI.target call hmem q hold
      · cases ha
  | abort =>
      rcases hold with hold | ⟨i, ha, -⟩
      · exact hI.target call (List.mem_of_mem_eraseIdx hmem) q hold
      · cases ha
  | reboot => cases hmem
  | @next i pid going _ _ hcall hcommand =>
      have hold' : s.Live remote q ∨ (going = .starting ∧ q = pid) := by
        refine hold.imp_right ?_
        rintro ⟨i', ha, hstarting⟩
        cases ha
        exact ⟨Option.some.inj (hcall.symm.trans hstarting), rfl⟩
      rcases mem_goOn hmem with ⟨j, hji, hj⟩ | hleft
      · rcases hold' with hold | ⟨rfl, -⟩
        · exact hI.target call (List.mem_of_getElem? hj) q hold
        · exact absurd (hI.eq_of_isStart hcall rfl hj).symm hji
      · exact hI.target_command (List.mem_of_getElem? hcall) hcommand hleft hlive hold'

theorem alone_step (hP : Orderly remote s a) (h : PidStep remote s a s') :
    ∀ call ∈ s'.calls, call.isStart = true → s'.calls.length ≤ 1 := by
  intro call hmem hstart
  cases h with
  | startCheck | startIdle =>
      have hfree : s.calls = [] := hP
      simp [hfree]
  | stopRead | stopRemove =>
      rcases List.mem_cons.1 hmem with rfl | hmem
      · cases hstart
      · rw [hP call hmem] at hstart
        cases hstart
  | stopNone | exits | spawn => exact hI.alone call hmem hstart
  | abort i =>
      exact Nat.le_trans (List.length_eraseIdx_le _ _)
        (hI.alone call (List.mem_of_mem_eraseIdx hmem) hstart)
  | reboot => exact Nat.zero_le 1
  | next i pid hcall hcommand =>
      refine Nat.le_trans (length_goOn_le _ _ _) ?_
      rcases mem_goOn hmem with ⟨j, -, hj⟩ | hleft
      · exact hI.alone call (List.mem_of_getElem? hj) hstart
      · rw [hcommand.isStart hleft] at hstart
        exact hI.alone _ (List.mem_of_getElem? hcall) hstart

theorem recorded_step (hP : Orderly remote s a) (h : PidStep remote s a s') :
    ∀ q, s'.Live remote q → s'.Recorded q := by
  intro q hlive
  have hold := h.live hlive
  cases h with
  | startCheck | startIdle | stopRead | stopRemove =>
      rcases hold with hold | ⟨i, ha, -⟩
      · exact (hI.recorded q hold).imp_right
          fun ⟨call, hmem, hstarted⟩ => ⟨call, List.mem_cons_of_mem _ hmem, hstarted⟩
      · cases ha
  | stopNone | exits | spawn =>
      rcases hold with hold | ⟨i, ha, -⟩
      · exact hI.recorded q hold
      · cases ha
  | abort i =>
      rcases hold with hold | ⟨i, ha, -⟩
      · refine (hI.recorded q hold).imp_right ?_
        rintro ⟨call, hmem, hstarted⟩
        obtain ⟨j, hj⟩ := List.getElem?_of_mem hmem
        refine ⟨call, List.mem_eraseIdx_iff_getElem?.2 ⟨j, ?_, hj⟩, hstarted⟩
        rintro rfl
        rw [(hP call hj).1] at hstarted
        cases hstarted
      · cases ha
  | reboot =>
      obtain ⟨_, hproc, -⟩ := hlive
      cases hproc
  | next i pid hcall hcommand =>
      have hmem := List.mem_of_getElem? hcall
      rcases hold with hold | ⟨i', ha, hstarting⟩
      · have htarget := hI.target _ hmem q hold
        cases hcommand with
        | fork | remove => cases htarget
        | truncate new => exact Or.inr ⟨_, mem_goOn_self hcall, htarget⟩
        | write new =>
            cases htarget
            exact Or.inl rfl
        | termFile | term =>
            exact (hI.recorded q hold).goOn hcall rfl (term_pidFile _ _)
        | kill =>
            exact (hI.recorded q hold).goOn hcall rfl (kill_pidFile _ _)
        | _ => exact (hI.recorded q hold).goOn hcall rfl rfl
      · cases ha
        cases hcall.symm.trans hstarting
        cases hcommand
        exact Or.inr ⟨_, mem_goOn_self hcall, rfl⟩

theorem step (hP : Orderly remote s a) (h : PidStep remote s a s') : Supervised remote s' :=
  ⟨hI.mine_step h, hI.target_step hP h, hI.alone_step hP h, hI.recorded_step hP h⟩

/-- **One daemon.** -/
theorem eq_of_live {p q : Nat} (hp : s.Live remote p) (hq : s.Live remote q) : p = q := by
  rcases hI.recorded q hq with hfile | ⟨call, hmem, hstarted⟩
  · rcases hI.recorded p hp with hfile' | ⟨call, hmem, hstarted⟩
    · exact PidFile.pid.inj (hfile'.symm.trans hfile)
    · exact Option.some.inj ((target_of_started hstarted).symm.trans (hI.target call hmem q hq))
  · exact Option.some.inj ((hI.target call hmem p hp).symm.trans (target_of_started hstarted))

end Supervised

/-! ## Processes told to end, and pids that are used again -/

/-- A pid that is recorded is not that of a process that was told to end over `ssh`, but while the
    file is about to be removed. -/
def Fresh (s : PidHost) : Prop :=
  ∀ pid proc, s.procs pid = some proc → proc.ending = true → s.Recorded pid → .removing ∈ s.calls

theorem fresh_step (hI : Supervised true s) (hF : Fresh s) (hP : Orderly true s a)
    (h : PidStep true s a s') : Fresh s' := by
  intro q proc hproc hending hrecorded
  have hold := h.recorded hrecorded
  rcases h.proc hproc with hbefore | ⟨_, _, _, rfl⟩ | ⟨_, _, rfl⟩ | ⟨⟨i, pid, old, rfl, hcall⟩, -⟩
  · rcases hold with hold | ⟨i, -, -, hfree⟩
    · have hremoving := hF q proc hbefore hending hold
      obtain ⟨j, hj⟩ := List.getElem?_of_mem hremoving
      cases h with
      | startCheck | startIdle | stopRead | stopRemove => exact List.mem_cons_of_mem _ hremoving
      | stopNone | exits | spawn => exact hremoving
      | abort i =>
          refine List.mem_eraseIdx_iff_getElem?.2 ⟨j, ?_, hj⟩
          rintro rfl
          exact (hP _ hj).2 rfl rfl
      | reboot => cases hproc
      | @next i pid going _ _ hcall hcommand =>
          by_cases hgoing : going = .removing
          · -- the file is gone, and no call of `start.sh` is under way
            subst hgoing
            cases hcommand
            rcases hrecorded with hfile | ⟨call, hmem, hstarted⟩
            · cases hfile
            · have hmem : call ∈ goOn s.calls i none := hmem
              obtain ⟨k, -, hk⟩ | hleft := mem_goOn hmem
              · have := hI.isStart_eq (List.mem_of_getElem? hk) (List.mem_of_getElem? hcall)
                  (isStart_of_started hstarted)
                cases this
              · cases hleft
          · exact mem_goOn_of_ne hcall hremoving (Ne.symm hgoing)
    · rw [hfree] at hbefore
      cases hbefore
  · cases hending
  · cases hending
  · cases h with
    | next _ _ hcall' hcommand =>
        cases hcall'.symm.trans hcall
        cases hcommand with
        | termFile | termNone => exact mem_goOn_self hcall
        | term _ hlocal => cases hlocal

/-- No other program is given the pid in the file, or the one that is about to be written to it. -/
def NoReuse (s : PidHost) : PidAction → Prop
  | .spawn pid _ => ¬ s.Recorded pid
  | _ => True

instance (s : PidHost) : (a : PidAction) → Decidable (NoReuse s a)
  | .spawn pid _ => inferInstanceAs (Decidable (¬ s.Recorded pid))
  | .start | .stop | .next _ _ | .abort _ | .exits _ | .reboot => isTrue trivial

/-- A process whose pid is recorded is a daemon. -/
def Honest (s : PidHost) : Prop :=
  ∀ pid proc, s.procs pid = some proc → s.Recorded pid → proc.daemon = true

theorem honest_step (hI : Honest s) (hP : NoReuse s a) (h : PidStep remote s a s') :
    Honest s' := by
  intro q proc hproc hrecorded
  have hold := h.recorded hrecorded
  rcases h.proc hproc with hbefore | ⟨_, _, _, rfl⟩ | ⟨mine, rfl, -⟩ | ⟨⟨_, _, _, ha, hcall⟩, old,
    hbefore, rfl⟩
  · rcases hold with hold | ⟨_, -, -, hfree⟩
    · exact hI q proc hbefore hold
    · rw [hfree] at hbefore
      cases hbefore
  · rfl
  · rcases hold with hold | ⟨_, ha, -⟩
    · exact absurd hold hP
    · cases ha
  · rcases hold with hold | ⟨_, -, -, hfree⟩
    · exact hI q old hbefore hold
    · rw [hfree] at hbefore
      cases hbefore

/-! ## Runs -/

theorem supervised_init : Supervised remote (pidHost remote).init := by
  refine ⟨?_, ?_, ?_, ?_⟩
  · exact fun _ _ hproc => by cases hproc
  · exact fun _ hcall => by cases hcall
  · exact fun _ hcall => by cases hcall
  · exact fun _ ⟨_, hproc, _⟩ => by cases hproc

theorem supervised_of_run {as : List PidAction}
    (horderly : (pidHost remote).Meets (Orderly remote) (pidHost remote).init as)
    (hrun : (pidHost remote).run (pidHost remote).init as = some s) : Supervised remote s := by
  have hpres : (pidHost remote).Preserves (Orderly remote) (Supervised remote) :=
    fun s a s' hI hP hstep => hI.step hP (pidStep_cases hstep)
  exact hpres.run supervised_init horderly hrun

theorem fresh_of_run {as : List PidAction}
    (horderly : (pidHost true).Meets (Orderly true) (pidHost true).init as)
    (hrun : (pidHost true).run (pidHost true).init as = some s) : Fresh s := by
  have hpres : (pidHost true).Preserves (Orderly true) fun s => Supervised true s ∧ Fresh s :=
    fun s a s' hI hP hstep =>
      ⟨hI.1.step hP (pidStep_cases hstep), fresh_step hI.1 hI.2 hP (pidStep_cases hstep)⟩
  refine (hpres.run ⟨supervised_init, ?_⟩ horderly hrun).2
  exact fun _ _ hproc => by cases hproc

theorem honest_of_run {as : List PidAction}
    (hreuse : (pidHost remote).Meets NoReuse (pidHost remote).init as)
    (hrun : (pidHost remote).run (pidHost remote).init as = some s) : Honest s := by
  have hpres : (pidHost remote).Preserves NoReuse Honest :=
    fun s a s' hI hP hstep => honest_step hI hP (pidStep_cases hstep)
  exact hpres.run (fun _ _ hproc => by cases hproc) hreuse hrun

/-- **What the pid files keep**, whatever else happens on a host and between the commands of the
    scripts. -/
theorem pidFile_safe {as : List PidAction}
    (horderly : (pidHost remote).Meets (Orderly remote) (pidHost remote).init as)
    (hrun : (pidHost remote).run (pidHost remote).init as = some s) :
    (∀ p q, s.Live remote p → s.Live remote q → p = q) ∧
    (∀ p, s.Live remote p → s.Recorded p ∧ s.alive p = true) ∧
    ((pidHost remote).Meets NoReuse (pidHost remote).init as → s.calls = [] →
      (s.running = true ↔ ∃ p, s.Live remote p)) := by
  have hI := supervised_of_run horderly hrun
  refine ⟨fun p q => hI.eq_of_live, fun p hp => ⟨hI.recorded p hp, hI.alive hp⟩,
    fun hreuse hidle => ?_⟩
  rw [running_eq_true_iff]
  constructor
  · rintro ⟨pid, hfile, halive⟩
    obtain ⟨proc, hproc, -⟩ := (alive_eq_true_iff s pid).1 halive
    refine ⟨pid, proc, hproc, honest_of_run hreuse hrun pid proc hproc (Or.inl hfile), ?_⟩
    rintro rfl
    by_contra hending
    have := fresh_of_run horderly hrun pid proc hproc (by simpa using hending) (Or.inl hfile)
    simp [hidle] at this
  · rintro ⟨pid, hlive⟩
    exact ⟨pid, hI.file_of_live (by simp [hidle]) hlive, hI.alive hlive⟩

/-- An agent is stopped through `ssh`, with a second call of `stop.sh` overlapping the first, and
    started again before it has ended; its pid then goes to another program. -/
theorem pidFile_safe_restart :
    let as := [PidAction.start, .next 0 7, .next 0 0, .next 0 0, .stop, .stop, .next 1 0, .next 1 0,
      .next 0 0, .next 1 0, .next 0 0, .next 0 0, .start, .next 0 8, .next 0 0, .next 0 0, .exits 7,
      .spawn 7 true]
    ∃ s, (pidHost true).run (pidHost true).init as = some s ∧ s.Live true 8 ∧
      (s.running = true ↔ ∃ p, s.Live true p) := by
  intro as
  have horderly : (pidHost true).Meets (Orderly true) (pidHost true).init as := by decide
  have hreuse : (pidHost true).Meets NoReuse (pidHost true).init as := by decide
  exact ⟨_, rfl, ⟨{ daemon := true }, rfl, rfl, fun _ => rfl⟩,
    (pidFile_safe horderly rfl).2.2 hreuse rfl⟩

/-- A daemon that is started while `stop.sh` waits for the one before loses its pid file. -/
example :
    let as := [PidAction.start, .next 0 7, .next 0 0, .next 0 0, .stop, .next 0 0, .next 0 0,
      .exits 7, .start, .next 0 0, .next 0 8, .next 0 0, .next 0 0, .next 0 0, .next 0 0]
    ∃ s, (pidHost false).run (pidHost false).init as = some s ∧ s.Live false 8 ∧
      s.running = false :=
  ⟨_, rfl, ⟨{ daemon := true }, rfl, rfl, fun _ => rfl⟩, rfl⟩

end AnalyticsTesting.Scripts
