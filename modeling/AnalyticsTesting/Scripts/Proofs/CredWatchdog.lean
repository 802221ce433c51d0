import AnalyticsTesting.Scripts.CredWatchdog
import Mathlib.Data.List.Dedup
import Mathlib.Data.List.Pairwise
import Mathlib.Data.List.Perm.Subperm

set_option autoImplicit false

/-! # Every restart has a reason of its own

A restart is made for a line from after the start that was asked for, and the next call asks for a
start that is not before it. So the times of starts, lines and restarts follow each other, and a
line from before a restart is no reason for another one: there are no more restarts than seconds
with an `ExpiredToken`, but for those that are over in the second of their line (`watchdog_spec`).
The last twenty lines are enough: where the lines are in order, a call that finds no reason has
missed nothing. -/

namespace AnalyticsTesting.Scripts

open Transition

/-! ## One call -/

theorem mem_lastExpired {l : LogLine} {log : List LogLine} (h : l ∈ lastExpired log) :
    l ∈ log ∧ l.expired = true := List.mem_filter.1 (List.mem_of_mem_drop h)

theorem restartNeeded_eq_some {startEpoch stamp : Nat} {log : List LogLine}
    (h : restartNeeded startEpoch log = some stamp) :
    startEpoch ≤ stamp ∧ ∃ l ∈ log, l.expired = true ∧ l.stamp = some stamp := by
  obtain ⟨l, hl, hstamp⟩ := List.exists_of_findSome?_eq_some h
  obtain ⟨hsome, hle⟩ := Option.filter_eq_some_iff.1 hstamp
  obtain ⟨hmem, hexpired⟩ := mem_lastExpired hl
  exact ⟨by simpa using hle, l, hmem, hexpired, hsome⟩

/-- The lines that say `ExpiredToken` have times, and in order. -/
structure InTimeOrder (log : List LogLine) : Prop where
  stamped : ∀ l ∈ log, l.expired = true → l.stamp ≠ none
  ordered : (log.filter LogLine.expired).Pairwise fun l l' =>
    ∀ t ∈ l.stamp, ∀ t' ∈ l'.stamp, t ≤ t'

/-- **The last lines are enough.** -/
theorem lt_of_restartNeeded_eq_none {startEpoch : Nat} {log : List LogLine}
    (h : restartNeeded startEpoch log = none) (horder : InTimeOrder log) :
    ∀ l ∈ log, l.expired = true → ∀ t ∈ l.stamp, t < startEpoch := by
  intro l hl hexpired t ht
  have hfound : l ∈ log.filter LogLine.expired := List.mem_filter.2 ⟨hl, hexpired⟩
  have hlast : ∀ l' ∈ lastExpired log, ∀ t' ∈ l'.stamp, t' < startEpoch := by
    intro l' hl' t' ht'
    have hnone := List.findSome?_eq_none_iff.1 h l' hl'
    rw [Option.mem_def] at ht'
    rw [ht', Option.filter_some] at hnone
    by_contra hle
    rw [if_pos (by simpa using hle)] at hnone
    cases hnone
  rw [← List.take_append_drop ((log.filter LogLine.expired).length - 20)
    (log.filter LogLine.expired)] at hfound
  rcases List.mem_append.1 hfound with hbefore | hin
  · -- a line before the last twenty is not younger than any of them
    have hne : lastExpired log ≠ [] := by
      intro hnil
      have hlength := congrArg List.length hnil
      have htake := List.length_pos_of_mem hbefore
      simp only [lastExpired, List.length_drop, List.length_nil] at hlength
      rw [List.length_take] at htake
      omega
    obtain ⟨l', hl'⟩ := List.exists_mem_of_ne_nil _ hne
    obtain ⟨hmem', hexpired'⟩ := mem_lastExpired hl'
    obtain ⟨t', ht'⟩ := Option.ne_none_iff_exists'.1 (horder.stamped l' hmem' hexpired')
    have hpairs := horder.ordered
    rw [← List.take_append_drop ((log.filter LogLine.expired).length - 20)
      (log.filter LogLine.expired), List.pairwise_append] at hpairs
    have hle := hpairs.2.2 l hbefore l' hl' t ht t' ht'
    exact Nat.lt_of_le_of_lt hle (hlast l' hl' t' ht')
  · exact hlast l hin t ht

/-! ## All calls -/

/-- Lines of this time have been logged. -/
def ExpiredAt (logged : List LogLine) (stamp : Nat) : Prop :=
  ∃ l ∈ logged, l.expired = true ∧ l.stamp = some stamp

/-- What holds after every step. -/
structure Vigilant (s : Watchdog) : Prop where
  activeEnter : s.activeEnter ≤ s.clock
  stamps : ∀ l ∈ s.logged, ∀ t ∈ l.stamp, t ≤ s.clock
  log : ∀ l ∈ s.log, l ∈ s.logged
  restarts : ∀ r ∈ s.restarts, r.startEpoch ≤ r.stamp ∧ r.stamp ≤ r.doneAt ∧
    ExpiredAt s.logged r.stamp
  ordered : s.restarts.Pairwise fun r r' => r.doneAt ≤ r'.startEpoch
  done : ∀ r ∈ s.restarts, r.doneAt ≤ s.activeEnter
  started : ∀ t, s.pc = .started t → ∀ r ∈ s.restarts, r.doneAt ≤ t
  needed : ∀ t stamp, s.pc = .needed t stamp → t ≤ stamp ∧ stamp ≤ s.clock ∧
    ExpiredAt s.logged stamp ∧ ∀ r ∈ s.restarts, r.doneAt ≤ t
  quiet : ∀ q ∈ s.quiet, restartNeeded q.1 q.2 = none

theorem vigilant_init (now : Nat) : Vigilant { clock := now, activeEnter := now } where
  activeEnter := Nat.le_refl _
  stamps := by simp
  log := by simp
  restarts := by simp
  ordered := .nil
  done := by simp
  started := by simp
  needed := by simp
  quiet := by simp

theorem ExpiredAt.append {logged : List LogLine} {stamp : Nat} (h : ExpiredAt logged stamp)
    (more : List LogLine) : ExpiredAt (logged ++ more) stamp := by
  obtain ⟨l, hl, hrest⟩ := h
  exact ⟨l, List.mem_append_left _ hl, hrest⟩

section Steps

variable {s : Watchdog}

theorem Vigilant.tick (h : Vigilant s) : Vigilant { s with clock := s.clock + 1 } :=
  { h with
    activeEnter := Nat.le_succ_of_le h.activeEnter
    stamps := fun l hl t ht => Nat.le_succ_of_le (h.stamps l hl t ht)
    needed := fun t stamp hpc => by
      obtain ⟨hle, hclock, hrest⟩ := h.needed t stamp hpc
      exact ⟨hle, Nat.le_succ_of_le hclock, hrest⟩ }

theorem Vigilant.write (h : Vigilant s) {line : LogLine} (hline : ∀ t ∈ line.stamp, t ≤ s.clock) :
    Vigilant { s with log := s.log ++ [line], logged := s.logged ++ [line] } :=
  { h with
    stamps := fun l hl t ht => by
      rcases List.mem_append.1 hl with hl | hl
      · exact h.stamps l hl t ht
      · obtain rfl := List.mem_singleton.1 hl
        exact hline t ht
    log := fun l hl => by
      rcases List.mem_append.1 hl with hl | hl
      · exact List.mem_append_left _ (h.log l hl)
      · exact List.mem_append_right _ hl
    restarts := fun r hr => by
      obtain ⟨hstart, hdone, hexpired⟩ := h.restarts r hr
      exact ⟨hstart, hdone, hexpired.append _⟩
    needed := fun t stamp hpc => by
      obtain ⟨hle, hclock, hexpired, hrest⟩ := h.needed t stamp hpc
      exact ⟨hle, hclock, hexpired.append _, hrest⟩ }

/-- A call goes on or ends. -/
theorem Vigilant.goto (h : Vigilant s) {pc : WatchdogPc} {quiet : List (Nat × List LogLine)}
    (hstarted : ∀ t, pc = .started t → ∀ r ∈ s.restarts, r.doneAt ≤ t)
    (hneeded : ∀ t stamp, pc = .needed t stamp → t ≤ stamp ∧ stamp ≤ s.clock ∧
      ExpiredAt s.logged stamp ∧ ∀ r ∈ s.restarts, r.doneAt ≤ t)
    (hquiet : ∀ q ∈ quiet, restartNeeded q.1 q.2 = none) :
    Vigilant { s with pc := pc, quiet := quiet } :=
  { h with started := hstarted, needed := hneeded, quiet := hquiet }

theorem Vigilant.restart (h : Vigilant s) {t stamp : Nat} (hpc : s.pc = .needed t stamp) :
    Vigilant { s with
      pc := .idle,
      activeEnter := s.clock,
      restarts := s.restarts ++ [⟨t, stamp, s.clock⟩] } := by
  obtain ⟨hle, hclock, hexpired, hrest⟩ := h.needed t stamp hpc
  have hdone : ∀ r ∈ s.restarts ++ [⟨t, stamp, s.clock⟩], r.doneAt ≤ s.clock := by
    intro r hr
    rcases List.mem_append.1 hr with hr | hr
    · exact Nat.le_trans (h.done r hr) h.activeEnter
    · obtain rfl := List.mem_singleton.1 hr
      exact Nat.le_refl _
  refine { h with
    activeEnter := Nat.le_refl _
    restarts := fun r hr => ?_
    ordered := List.pairwise_append.2 ⟨h.ordered, List.pairwise_singleton _ _, ?_⟩
    done := hdone
    started := by simp
    needed := by simp }
  · rcases List.mem_append.1 hr with hr | hr
    · exact h.restarts r hr
    · obtain rfl := List.mem_singleton.1 hr
      exact ⟨hle, hclock, hexpired⟩
  · intro r hr r' hr'
    obtain rfl := List.mem_singleton.1 hr'
    exact hrest r hr

end Steps

/-- **One step.** -/
theorem vigilant_step {s s' : Watchdog} (a : WatchdogAction) (h : Vigilant s)
    (hs : watchdogStep s a = some s') : Vigilant s' := by
  cases a with
  | tick =>
      obtain rfl := Option.some.inj hs
      exact h.tick
  | write line =>
      simp only [watchdogStep] at hs
      split at hs
      case isTrue hline =>
        obtain rfl := Option.some.inj hs
        exact h.write hline
      case isFalse => cases hs
  | rotate =>
      obtain rfl := Option.some.inj hs
      exact { h with log := by simp }
  | restarted =>
      obtain rfl := Option.some.inj hs
      exact { h with
        activeEnter := Nat.le_refl _
        done := fun r hr => Nat.le_trans (h.done r hr) h.activeEnter }
  | readStart answered =>
      simp only [watchdogStep] at hs
      split at hs
      case h_1 hpc =>
        obtain rfl := Option.some.inj hs
        refine h.goto (fun t ht r hr => ?_) (fun t stamp ht => ?_) h.quiet
        · cases answered with
          | true =>
              obtain rfl := WatchdogPc.started.inj ht
              exact h.done r hr
          | false => cases ht
        · cases answered <;> cases ht
      case h_2 => cases hs
  | readLog answered =>
      simp only [watchdogStep] at hs
      split at hs
      case h_2 => cases hs
      case h_1 t hpc =>
        split at hs
        case isFalse =>
          obtain rfl := Option.some.inj hs
          exact h.goto (by simp) (by simp) h.quiet
        case isTrue =>
          split at hs
          case h_1 stamp hneeded =>
            obtain rfl := Option.some.inj hs
            obtain ⟨hle, l, hl, hexpired, hstamp⟩ := restartNeeded_eq_some hneeded
            refine h.goto (by simp) (fun t' stamp' hpc' => ?_) h.quiet
            obtain ⟨rfl, rfl⟩ := WatchdogPc.needed.inj hpc'
            exact ⟨hle, h.stamps l (h.log l hl) stamp hstamp,
              ⟨l, h.log l hl, hexpired, hstamp⟩, h.started t hpc⟩
          case h_2 hnone =>
            obtain rfl := Option.some.inj hs
            refine h.goto (by simp) (by simp) fun q hq => ?_
            rcases List.mem_append.1 hq with hq | hq
            · exact h.quiet q hq
            · obtain rfl := List.mem_singleton.1 hq
              exact hnone
  | restart answered =>
      simp only [watchdogStep] at hs
      split at hs
      case h_2 => cases hs
      case h_1 t stamp hpc =>
        split at hs
        case isTrue =>
          obtain rfl := Option.some.inj hs
          exact h.restart hpc
        case isFalse =>
          obtain rfl := Option.some.inj hs
          exact h.goto (by simp) (by simp) h.quiet

/-- The seconds in which lines with `ExpiredToken` have been logged. -/
def expiredSeconds (logged : List LogLine) : List Nat :=
  ((logged.filter LogLine.expired).filterMap LogLine.stamp).dedup

/-- The restarts that were not over in the second of their line. -/
def slowRestarts (restarts : List Restart) : List Restart :=
  restarts.filter fun r => r.stamp < r.doneAt

/-- What holds of the restarts and of the calls without one. -/
structure WatchdogSpec (s : Watchdog) : Prop where
  /-- A restart is made for a line from after the start that was asked for. -/
  justified : ∀ r ∈ s.restarts, r.startEpoch ≤ r.stamp ∧ r.stamp ≤ r.doneAt ∧
    ExpiredAt s.logged r.stamp
  /-- The next one asks for a start that is not before it. -/
  ordered : s.restarts.Pairwise fun r r' => r.doneAt ≤ r'.startEpoch
  /-- There are no more of them than seconds with a line. -/
  bounded : (slowRestarts s.restarts).length ≤ (expiredSeconds s.logged).length
  /-- A call that finds no reason has missed nothing. -/
  missed : ∀ q ∈ s.quiet, InTimeOrder q.2 →
    ∀ l ∈ q.2, l.expired = true → ∀ t ∈ l.stamp, t < q.1

theorem mem_expiredSeconds {logged : List LogLine} {stamp : Nat} (h : ExpiredAt logged stamp) :
    stamp ∈ expiredSeconds logged := by
  obtain ⟨l, hl, hexpired, hstamp⟩ := h
  exact List.mem_dedup.2 (List.mem_filterMap.2 ⟨l, List.mem_filter.2 ⟨hl, hexpired⟩, hstamp⟩)

theorem Vigilant.bounded {s : Watchdog} (h : Vigilant s) :
    (slowRestarts s.restarts).length ≤ (expiredSeconds s.logged).length := by
  have hincreasing : ((slowRestarts s.restarts).map Restart.stamp).Pairwise (· < ·) := by
    rw [List.pairwise_map]
    refine (h.ordered.filter _).imp_of_mem fun {r r'} hr hr' hle => ?_
    obtain ⟨-, hslow⟩ := List.mem_filter.1 hr
    have hlt : r.stamp < r.doneAt := by simpa using hslow
    have hstart := (h.restarts r' (List.mem_filter.1 hr').1).1
    omega
  have hsub : (slowRestarts s.restarts).map Restart.stamp ⊆ expiredSeconds s.logged := by
    intro stamp hstamp
    obtain ⟨r, hr, rfl⟩ := List.mem_map.1 hstamp
    exact mem_expiredSeconds (h.restarts r (List.mem_filter.1 hr).1).2.2
  have hnodup : ((slowRestarts s.restarts).map Restart.stamp).Nodup :=
    hincreasing.imp fun hlt => Nat.ne_of_lt hlt
  simpa using (List.subperm_of_subset hnodup hsub).length_le

/-- **The watchdog restarts for new errors only**, in every run of the service, the watchdog and
the others. -/
theorem watchdog_spec {now : Nat} {s : Watchdog} (h : (watchdog now).Reachable s) :
    WatchdogSpec s := by
  have hv : Vigilant s := System.reachable_of_preserves (I := Vigilant) (vigilant_init now)
    (fun _ a _ hv hs => vigilant_step a hv hs) h
  exact ⟨hv.restarts, hv.ordered, hv.bounded, fun q hq horder =>
    lt_of_restartNeeded_eq_none (hv.quiet q hq) horder⟩

/-- An error, a call whose restart does not get through, one whose restart does, and a call after
    that. -/
def oneExpiry : List WatchdogAction :=
  [.tick, .write ⟨some 101, true⟩, .write ⟨none, false⟩, .readStart true, .readLog true,
    .restart false, .tick, .readStart true, .readLog true, .tick, .restart true, .tick,
    .readStart true, .readLog true]

theorem watchdog_spec_oneExpiry : ∃ s, (watchdog 100).Reachable s ∧
    s.restarts = [⟨100, 101, 103⟩] ∧ s.quiet.length = 1 ∧ WatchdogSpec s := by
  have hrun : (((watchdog 100).run (watchdog 100).init oneExpiry).map fun s =>
      (s.restarts, s.quiet.length)) = some ([⟨100, 101, 103⟩], 1) := by
    decide
  obtain ⟨s, hs, hresult⟩ := Option.map_eq_some_iff.1 hrun
  obtain ⟨hrestarts, hquiet⟩ := Prod.mk.inj hresult
  have hreach : (watchdog 100).Reachable s := ⟨oneExpiry, hs⟩
  exact ⟨s, hreach, hrestarts, hquiet, watchdog_spec hreach⟩

end AnalyticsTesting.Scripts
