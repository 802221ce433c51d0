import AnalyticsTesting.Monitoring.StateFile

set_option autoImplicit false

/-! # No torn snapshot

The file that the path leads to is never written: `write_atomic` writes to the one that the
temporary name leads to, and the two names never lead to one file, not even after an agent died in
the middle and left its temporary file behind (`FileSound.apart`). So whoever has opened the path
reads one snapshot to its end (`FileSound.reading`), whatever is published or removed meanwhile. -/

namespace AnalyticsTesting.Monitoring

open Transition

/-- The read is of one snapshot that was published: the newest when the file was opened, and not
    one that had been removed by then. -/
structure Read.Of (r : Read) (published : List StateText) (text : List Char) : Prop where
  removedAt_lt : r.removedAt < r.published
  snapshot : ∃ snap, published[r.published - 1]? = some snap ∧ snap.text = text

theorem Read.Of.append {r : Read} {published : List StateText} {text : List Char}
    (h : r.Of published text) (new : List StateText) : r.Of (published ++ new) text := by
  obtain ⟨snap, hsnap, htext⟩ := h.snapshot
  have hlt := (List.getElem?_eq_some_iff.1 hsnap).1
  exact ⟨h.removedAt_lt, snap, by rw [List.getElem?_append_left hlt]; exact hsnap, htext⟩

/-- What holds after every step. -/
structure FileSound (path : String) (s : StateFile) : Prop where
  removedAt_le : s.removedAt ≤ s.published.length
  hidden : s.files.names path = none → s.removedAt = s.published.length
  shown : ∀ i, s.files.names path = some i → s.removedAt < s.published.length ∧
    ∃ snap, s.published.getLast? = some snap ∧ snap.text = s.files.data i
  apart : ∀ i, s.files.names (tmpPath path) = some i → s.files.names path ≠ some i
  writing : ∀ i rest text, s.agent = .writing i rest text →
    s.files.names (tmpPath path) = some i ∧ s.files.data i ++ rest = text
  reading : ∀ r ∈ s.readers, s.files.names (tmpPath path) ≠ some r.file ∧
    r.file < s.files.next ∧ r.Of s.published (s.files.data r.file) ∧
    r.text <+: s.files.data r.file
  finished : ∀ r ∈ s.finished, r.Of s.published r.text
  opens_sorted : (s.opens ++ [s.published.length]).Pairwise (· ≤ ·)
  tickets : ∀ r, r ∈ s.readers ∨ r ∈ s.finished → s.opens[r.ticket]? = some r.published

section Steps

variable {path : String} {s : StateFile}

theorem sound_init (path : String) : FileSound path {} where
  removedAt_le := Nat.le_refl _
  hidden _ := rfl
  shown := by simp [Files.empty]
  apart := by simp [Files.empty]
  writing := by simp
  reading := by simp
  finished := by simp
  opens_sorted := by simp
  tickets := by simp

/-- Opening the temporary file touches neither what the path leads to nor what anybody reads. -/
theorem FileSound.create (h : FileSound path s) (text : List Char) :
    FileSound path { s with
      files := s.files.create (tmpPath path),
      agent := .writing (s.files.target (tmpPath path)) text text } where
  removedAt_le := h.removedAt_le
  hidden hnone := h.hidden (by simpa [(tmpPath_ne path).symm] using hnone)
  shown i hi := by
    have hi : s.files.names path = some i := by simpa [(tmpPath_ne path).symm] using hi
    have hne : i ≠ s.files.target (tmpPath path) :=
      Files.ne_target (s.files.names_lt path i hi) fun htmp => h.apart i htmp hi
    obtain ⟨hlt, snap, hlast, htext⟩ := h.shown i hi
    exact ⟨hlt, snap, hlast, by rw [htext, Files.create_data_ne hne]⟩
  apart i hi hpath := by
    obtain rfl : s.files.target (tmpPath path) = i := by simpa using hi
    have hpath : s.files.names path = some (s.files.target (tmpPath path)) := by
      simpa [(tmpPath_ne path).symm] using hpath
    exact Files.ne_target (s.files.names_lt path _ hpath) (fun htmp => h.apart _ htmp hpath) rfl
  writing i rest text' hpc := by
    obtain ⟨rfl, rfl, rfl⟩ := AgentPc.writing.inj hpc
    exact ⟨by simp, by simp⟩
  reading r hr := by
    obtain ⟨htmp, hlt, hof, hread⟩ := h.reading r hr
    have hne : r.file ≠ s.files.target (tmpPath path) := Files.ne_target hlt htmp
    refine ⟨by simpa using hne.symm, Nat.lt_of_lt_of_le hlt Files.next_le_create, ?_, ?_⟩
    · rw [Files.create_data_ne hne]
      exact hof
    · rw [Files.create_data_ne hne]
      exact hread
  finished := h.finished
  opens_sorted := h.opens_sorted
  tickets := h.tickets

/-- What reaches the temporary file reaches no other. -/
theorem FileSound.flush (h : FileSound path s) {file : Nat} {rest text : List Char}
    (hpc : s.agent = .writing file rest text) (n : Nat) :
    FileSound path { s with
      files := s.files.append file (rest.take n),
      agent := .writing file (rest.drop n) text } := by
  obtain ⟨htmp, hdata⟩ := h.writing file rest text hpc
  refine { h with
    shown := fun i hi => ?_
    apart := h.apart
    hidden := h.hidden
    writing := fun i rest' text' heq => ?_
    reading := fun r hr => ?_ }
  · have hne : i ≠ file := by
      rintro rfl
      exact h.apart i htmp hi
    obtain ⟨hlt, snap, hlast, htext⟩ := h.shown i hi
    exact ⟨hlt, snap, hlast, by rw [htext, Files.append_data_ne hne]⟩
  · obtain ⟨rfl, rfl, rfl⟩ := AgentPc.writing.inj heq
    refine ⟨htmp, ?_⟩
    rw [Files.append_data_self, List.append_assoc, List.take_append_drop, hdata]
  · obtain ⟨hne, hlt, hof, hread⟩ := h.reading r hr
    have hfile : r.file ≠ file := by
      rintro rfl
      exact hne htmp
    refine ⟨hne, hlt, ?_, ?_⟩
    · rw [Files.append_data_ne hfile]
      exact hof
    · rw [Files.append_data_ne hfile]
      exact hread

/-- The rename publishes what was written, and takes the file out of the agent's hands. -/
theorem FileSound.replace (h : FileSound path s) {file : Nat} {text : List Char}
    (hpc : s.agent = .writing file [] text) :
    FileSound path { s with
      files := s.files.rename (tmpPath path) path,
      agent := .sampling,
      published := s.published ++ [⟨s.generation, text⟩] } := by
  obtain ⟨htmp, hdata⟩ := h.writing file [] text hpc
  rw [List.append_nil] at hdata
  have hle := h.removedAt_le
  exact
    { removedAt_le := by simp only [List.length_append, List.length_singleton]; omega
      hidden := by simp [(tmpPath_ne path).symm, htmp]
      shown := by
        intro i hi
        obtain rfl : file = i := by simpa [(tmpPath_ne path).symm, htmp] using hi
        refine ⟨by simp only [List.length_append, List.length_singleton]; omega,
          ⟨s.generation, text⟩, by simp, hdata.symm⟩
      apart := by simp
      writing := by simp
      reading := by
        intro r hr
        obtain ⟨-, hlt, hof, hread⟩ := h.reading r hr
        exact ⟨by simp, hlt, hof.append _, hread⟩
      finished := fun r hr => (h.finished r hr).append _
      opens_sorted := by
        have hsorted := h.opens_sorted
        rw [List.pairwise_append] at hsorted ⊢
        refine ⟨hsorted.1, List.pairwise_singleton _ _, fun n hn m hm => ?_⟩
        have hbefore := hsorted.2.2 n hn _ (List.mem_singleton_self _)
        obtain rfl := List.mem_singleton.1 hm
        simp only [List.length_append, List.length_singleton]
        omega
      tickets := h.tickets }

/-- The one in between may leave its temporary file behind. -/
theorem FileSound.die (h : FileSound path s) :
    FileSound path { s with agent := .sampling, generation := s.generation + 1 } :=
  { h with
    hidden := h.hidden
    shown := h.shown
    apart := h.apart
    reading := h.reading
    writing := by simp }

theorem FileSound.remove (h : FileSound path s) :
    FileSound path { s with files := s.files.unlink path, removedAt := s.published.length } :=
  { h with
    removedAt_le := Nat.le_refl _
    hidden := fun _ => rfl
    shown := by simp
    apart := by simp
    writing := by simpa [tmpPath_ne path] using h.writing
    reading := by simpa [tmpPath_ne path] using h.reading }

/-- A `cat` opens what was published last. -/
theorem FileSound.openRead (h : FileSound path s) {file : Nat}
    (hfile : s.files.names path = some file) :
    FileSound path { s with
      readers := s.readers ++ [⟨s.opens.length, s.published.length, s.removedAt, file, []⟩],
      opens := s.opens ++ [s.published.length] } := by
  obtain ⟨hlt, snap, hlast, htext⟩ := h.shown file hfile
  refine { h with
    hidden := h.hidden
    shown := h.shown
    apart := h.apart
    writing := h.writing
    reading := fun r hr => ?_
    opens_sorted := ?_
    tickets := fun r hr => ?_ }
  · rcases List.mem_append.1 hr with hr | hr
    · exact h.reading r hr
    · obtain rfl := List.mem_singleton.1 hr
      refine ⟨fun htmp => h.apart file htmp hfile, s.files.names_lt path file hfile, ?_,
        List.nil_prefix⟩
      exact ⟨hlt, snap, by rw [← List.getLast?_eq_getElem?]; exact hlast, htext⟩
  · have hsorted := h.opens_sorted
    have hall := (List.pairwise_append.1 hsorted).2.2
    rw [List.append_assoc, List.pairwise_append]
    refine ⟨(List.pairwise_append.1 hsorted).1, by simp, fun n hn m hm => ?_⟩
    obtain rfl : m = s.published.length := by simpa using hm
    exact hall n hn _ (List.mem_singleton_self _)
  · have hold : ∀ r, r ∈ s.readers ∨ r ∈ s.finished →
        (s.opens ++ [s.published.length])[r.ticket]? = some r.published := by
      intro r hr
      have hticket := h.tickets r hr
      rw [List.getElem?_append_left (List.getElem?_eq_some_iff.1 hticket).1]
      exact hticket
    rcases hr with hr | hr
    · rcases List.mem_append.1 hr with hr | hr
      · exact hold r (Or.inl hr)
      · obtain rfl := List.mem_singleton.1 hr
        simp
    · exact hold r (Or.inr hr)

/-- What a `cat` reads next continues what it has read. -/
theorem FileSound.read (h : FileSound path s) {k : Nat} {r : Read} (hr : s.readers[k]? = some r)
    (n : Nat) :
    FileSound path { s with
      readers := s.readers.set k { r with
        text := r.text ++ ((s.files.data r.file).drop r.text.length).take n } } := by
  have hmem := List.mem_of_getElem? hr
  refine { h with
    hidden := h.hidden
    shown := h.shown
    apart := h.apart
    writing := h.writing
    reading := fun r' hr' => ?_
    tickets := fun r' hr' => ?_ }
  · rcases List.mem_or_eq_of_mem_set hr' with hr' | rfl
    · exact h.reading r' hr'
    · obtain ⟨htmp, hlt, hof, hread⟩ := h.reading r hmem
      refine ⟨htmp, hlt, ⟨hof.removedAt_lt, hof.snapshot⟩, ?_⟩
      obtain ⟨rest, hrest⟩ := hread
      rw [← hrest, List.drop_left]
      exact (List.prefix_append_right_inj _).2 (List.take_prefix _ _)
  · rcases hr' with hr' | hr'
    · rcases List.mem_or_eq_of_mem_set hr' with hr' | rfl
      · exact h.tickets r' (Or.inl hr')
      · exact h.tickets r (Or.inl hmem)
    · exact h.tickets r' (Or.inr hr')

/-- At the end of the file it has read all of it. -/
theorem FileSound.endRead (h : FileSound path s) {k : Nat} {r : Read} (hr : s.readers[k]? = some r)
    (hend : (s.files.data r.file).length ≤ r.text.length) :
    FileSound path { s with
      readers := s.readers.eraseIdx k, finished := s.finished ++ [r] } := by
  have hmem := List.mem_of_getElem? hr
  refine { h with
    hidden := h.hidden
    shown := h.shown
    apart := h.apart
    writing := h.writing
    reading := fun r' hr' => h.reading r' (List.mem_of_mem_eraseIdx hr')
    finished := fun r' hr' => ?_
    tickets := fun r' hr' => ?_ }
  · rcases List.mem_append.1 hr' with hr' | hr'
    · exact h.finished r' hr'
    · obtain rfl := List.mem_singleton.1 hr'
      obtain ⟨-, -, hof, hread⟩ := h.reading r' hmem
      rw [hread.eq_of_length_le hend]
      exact hof
  · rcases hr' with hr' | hr'
    · exact h.tickets r' (Or.inl (List.mem_of_mem_eraseIdx hr'))
    · rcases List.mem_append.1 hr' with hr' | hr'
      · exact h.tickets r' (Or.inr hr')
      · obtain rfl := List.mem_singleton.1 hr'
        exact h.tickets r' (Or.inl hmem)

end Steps

theorem fileStep_sound {path : String} {s s' : StateFile} {a : FileAction} (h : FileSound path s)
    (hstep : fileStep path s a = some s') : FileSound path s' := by
  cases a with
  | create text =>
      simp only [fileStep] at hstep
      split at hstep
      · obtain rfl := Option.some.inj hstep
        exact h.create text
      · simp at hstep
  | flush n =>
      simp only [fileStep] at hstep
      split at hstep
      · simp at hstep
      · next hpc =>
          obtain rfl := Option.some.inj hstep
          exact h.flush hpc n
  | replace =>
      simp only [fileStep] at hstep
      split at hstep
      · next hpc =>
          obtain rfl := Option.some.inj hstep
          exact h.replace hpc
      · simp at hstep
  | die =>
      obtain rfl := Option.some.inj hstep
      exact h.die
  | remove =>
      obtain rfl := Option.some.inj hstep
      exact h.remove
  | openRead =>
      obtain ⟨file, hfile, rfl⟩ := Option.map_eq_some_iff.1 hstep
      exact h.openRead hfile
  | read k n =>
      obtain ⟨r, hr, rfl⟩ := Option.map_eq_some_iff.1 hstep
      exact h.read hr n
  | endRead k =>
      simp only [fileStep] at hstep
      split at hstep
      · simp at hstep
      · next r hr =>
          split at hstep
          · next hend =>
              obtain rfl := Option.some.inj hstep
              exact h.endRead hr hend
          · simp at hstep

theorem sound_of_reachable {path : String} {s : StateFile} (h : (stateFile path).Reachable s) :
    FileSound path s :=
  System.reachable_of_preserves (I := FileSound path) (sound_init path)
    (fun _ _ _ hI hstep => fileStep_sound hI hstep) h

/-! ## Reads -/

/-- What a reader of the state file can rely on. -/
structure ReadsSound (path : String) (s : StateFile) : Prop where
  /-- A `cat` fails only if nothing was published since the file was last removed. -/
  opens_iff : (fileStep path s .openRead).isSome ↔ s.removedAt < s.published.length
  /-- One that has opened the file can read it to its end, whatever has happened since. -/
  finishes : ∀ k r, s.readers[k]? = some r →
    ∃ n s', (stateFile path).run s [.read k n, .endRead k] = some s'
  /-- It gets one snapshot as it was published: the newest when the file was opened. -/
  finished : ∀ r ∈ s.finished, r.Of s.published r.text
  /-- Later reads do not get older snapshots. -/
  ordered : ∀ r ∈ s.finished, ∀ r' ∈ s.finished, r.ticket ≤ r'.ticket → r.published ≤ r'.published

/-- The file of a `cat` is still there. -/
theorem exists_endRead {path : String} {s : StateFile} {k : Nat} {r : Read}
    (hr : s.readers[k]? = some r) :
    ∃ n s', (stateFile path).run s [.read k n, .endRead k] = some s' := by
  obtain ⟨hk, rfl⟩ := List.getElem?_eq_some_iff.1 hr
  refine ⟨(s.files.data s.readers[k].file).length, ?_⟩
  simp [stateFile, System.run, fileStep, hk]
  omega

/-- **No reader sees half a snapshot**, and none sees an older one after a newer one. -/
theorem reads_sound {path : String} {s : StateFile} (h : (stateFile path).Reachable s) :
    ReadsSound path s := by
  have hsound := sound_of_reachable h
  refine ⟨?_, fun k r hr => exists_endRead hr, hsound.finished, fun r hr r' hr' hle => ?_⟩
  · cases hname : s.files.names path with
    | none => simp [fileStep, hname, hsound.hidden hname]
    | some file => simp [fileStep, hname, (hsound.shown file hname).1]
  · have hticket := hsound.tickets r (Or.inr hr)
    have hticket' := hsound.tickets r' (Or.inr hr')
    obtain ⟨hlt, heq⟩ := List.getElem?_eq_some_iff.1 hticket
    obtain ⟨hlt', heq'⟩ := List.getElem?_eq_some_iff.1 hticket'
    rcases Nat.lt_or_eq_of_le hle with hbefore | hsame
    · have hsorted := (List.pairwise_append.1 hsound.opens_sorted).1
      rw [← heq, ← heq']
      exact List.pairwise_iff_getElem.1 hsorted _ _ hlt hlt' hbefore
    · rw [hsame] at hticket
      exact Nat.le_of_eq (Option.some.inj (hticket.symm.trans hticket'))

/-- A `cat` opens the first snapshot and reads half of it; an agent dies while it writes the second,
    the next one publishes a third, and the `cat` reads on. -/
def slowRead : List FileAction :=
  [.create ['a', 'b'], .flush 2, .replace, .openRead, .read 0 1, .create ['c', 'd'], .flush 1,
    .die, .create ['e', 'f'], .flush 5, .replace, .read 0 9, .endRead 0]

/-- It gets the first one whole. -/
theorem reads_sound_slowRead : ∃ s : StateFile, (stateFile "health.json").run {} slowRead = some s ∧
    s.finished.map Read.text = [['a', 'b']] ∧ s.published.map StateText.agent = [0, 1] ∧
    ReadsSound "health.json" s := by
  have hrun : ((stateFile "health.json").run {} slowRead).any (fun s =>
      s.finished.map Read.text = [['a', 'b']] ∧ s.published.map StateText.agent = [0, 1])
      = true := by
    decide +kernel
  obtain ⟨s, hs, hP⟩ := (Option.any_eq_true _ _).1 hrun
  obtain ⟨htext, hagents⟩ := of_decide_eq_true hP
  exact ⟨s, hs, htext, hagents, reads_sound ⟨slowRead, hs⟩⟩

/-! ## The redeploy -/

/-- The agent whose snapshot a `cat` would print now. -/
def shownBy (path : String) (s : StateFile) : Option Nat :=
  (s.files.names path).bind fun _ => s.published.getLast?.map StateText.agent

/-- While the agent runs and the file is not removed, what is published is published by it. -/
theorem fileStep_published {path : String} {s s' : StateFile} {a : FileAction} (hdie : a ≠ .die)
    (hremove : a ≠ .remove) (hstep : fileStep path s a = some s') :
    s'.generation = s.generation ∧ s'.removedAt = s.removedAt ∧
      ∃ text, s'.published
        = s.published ++ if a = .replace then [⟨s.generation, text⟩] else [] := by
  cases a with
  | die => exact absurd rfl hdie
  | remove => exact absurd rfl hremove
  | replace =>
      simp only [fileStep] at hstep
      split at hstep
      · next text _ =>
          obtain rfl := Option.some.inj hstep
          exact ⟨rfl, rfl, text, rfl⟩
      · simp at hstep
  | create text | flush n =>
      simp only [fileStep] at hstep
      split at hstep
      all_goals first
        | (obtain rfl := Option.some.inj hstep; exact ⟨rfl, rfl, [], (List.append_nil _).symm⟩)
        | simp at hstep
  | openRead | read k n =>
      obtain ⟨_, -, rfl⟩ := Option.map_eq_some_iff.1 hstep
      exact ⟨rfl, rfl, [], (List.append_nil _).symm⟩
  | endRead k =>
      simp only [fileStep] at hstep
      split at hstep
      · simp at hstep
      · split at hstep
        · obtain rfl := Option.some.inj hstep
          exact ⟨rfl, rfl, [], (List.append_nil _).symm⟩
        · simp at hstep

/-- What happens between two deaths or removals: neither of them. -/
def Undisturbed (as : List FileAction) : Prop := ∀ a ∈ as, a ≠ .die ∧ a ≠ .remove

theorem run_published {path : String} {as : List FileAction} :
    ∀ {s s' : StateFile}, Undisturbed as → (stateFile path).run s as = some s' →
      s'.generation = s.generation ∧ s'.removedAt = s.removedAt ∧
        ∃ new, s'.published = s.published ++ new ∧ (∀ snap ∈ new, snap.agent = s.generation) ∧
          (new = [] ↔ FileAction.replace ∉ as) := by
  induction as with
  | nil =>
      intro s s' _ hrun
      obtain rfl : s = s' := by simpa [System.run] using hrun
      exact ⟨rfl, rfl, [], by simp, by simp, by simp⟩
  | cons a as ih =>
      intro s s'' hquiet hrun
      obtain ⟨s', hs', hrest⟩ := System.run_cons_eq_some.1 hrun
      obtain ⟨hdie, hremove⟩ := hquiet a List.mem_cons_self
      obtain ⟨hgen, hrem, text, hpub⟩ := fileStep_published hdie hremove hs'
      obtain ⟨hgen', hrem', new, hpub', hagent, hnew⟩ :=
        ih (fun b hb => hquiet b (List.mem_cons_of_mem _ hb)) hrest
      refine ⟨hgen'.trans hgen, hrem'.trans hrem,
        (if a = .replace then [⟨s.generation, text⟩] else []) ++ new, ?_, fun snap hsnap => ?_, ?_⟩
      · rw [hpub', hpub, List.append_assoc]
      · rcases List.mem_append.1 hsnap with hfirst | hsnap
        · split at hfirst
          · rw [List.mem_singleton.1 hfirst]
          · simp at hfirst
        · rw [hagent snap hsnap, hgen]
      · by_cases ha : a = .replace
        · simp [ha]
        · simp [ha, hnew, Ne.symm ha]

theorem FileSound.shownBy_eq {path : String} {s : StateFile} (h : FileSound path s) :
    shownBy path s = if s.removedAt < s.published.length
      then s.published.getLast?.map StateText.agent else none := by
  unfold shownBy
  cases hname : s.files.names path with
  | none => simp [h.hidden hname]
  | some file => simp [(h.shown file hname).1]

/-- **What the redeploy waits for.** It removes the state file, restarts the agent and takes the
first snapshot that is there. If the agent before the restart publishes one more in between, that
one is there until the new agent publishes its own: the file is the old agent's exactly then. -/
theorem redeploy_shows {path : String} {s s' : StateFile} (h : (stateFile path).Reachable s)
    {before after : List FileAction} (hbefore : Undisturbed before) (hafter : Undisturbed after)
    (hrun : (stateFile path).run s (.remove :: before ++ .die :: after) = some s') :
    (shownBy path s' = none ↔ FileAction.replace ∉ before ∧ FileAction.replace ∉ after) ∧
    (shownBy path s' = some s.generation ↔
      FileAction.replace ∈ before ∧ FileAction.replace ∉ after) ∧
    (shownBy path s' = some (s.generation + 1) ↔ FileAction.replace ∈ after) := by
  obtain ⟨as, has⟩ := h
  have hsound : FileSound path s' := sound_of_reachable ⟨_, System.run_append has hrun⟩
  obtain ⟨s₁, hremove, hrun⟩ := System.run_cons_eq_some.1 hrun
  obtain rfl := Option.some.inj hremove
  obtain ⟨s₂, hrun₁, hrun⟩ := System.run_append_eq_some.1 hrun
  obtain ⟨s₃, hdie, hrun₂⟩ := System.run_cons_eq_some.1 hrun
  obtain rfl := Option.some.inj hdie
  obtain ⟨hgen, hrem, old, hpub, hold, hnone⟩ := run_published hbefore hrun₁
  obtain ⟨hgen', hrem', new, hpub', hnew, hnone'⟩ := run_published hafter hrun₂
  -- what was published since the removal, and by whom
  have hlist : s'.published = s.published ++ (old ++ new) := by
    rw [hpub', hpub, List.append_assoc]
  have hsince : s'.removedAt = s.published.length := hrem'.trans hrem
  have hshown : shownBy path s' = (old ++ new).getLast?.map StateText.agent := by
    rw [hsound.shownBy_eq, hlist, hsince]
    by_cases hempty : old ++ new = []
    · simp [hempty]
    · have hpos : 0 < (old ++ new).length := List.length_pos_iff.2 hempty
      rw [if_pos (by rw [List.length_append]; omega), List.getLast?_append_of_ne_nil _ hempty]
  have hagentNew : ∀ snap ∈ new, snap.agent = s.generation + 1 := by
    intro snap hsnap
    rw [hnew snap hsnap]
    exact congrArg (· + 1) hgen
  have hagentOld : ∀ snap ∈ old, snap.agent = s.generation := hold
  rw [hshown]
  by_cases hnew' : new = []
  · have hafterNone := hnone'.1 hnew'
    by_cases hold' : old = []
    · have hbeforeNone := hnone.1 hold'
      simp [hnew', hold', hafterNone, hbeforeNone]
    · have hbeforeSome : FileAction.replace ∈ before := by
        by_contra hcontra
        exact hold' (hnone.2 hcontra)
      have hlast := hagentOld _ (List.getLast_mem hold')
      simp [hnew', hafterNone, hbeforeSome, List.getLast?_eq_getLast_of_ne_nil hold', hlast]
  · have hafterSome : FileAction.replace ∈ after := by
      by_contra hcontra
      exact hnew' (hnone'.2 hcontra)
    have hlast := hagentNew _ (List.getLast_mem hnew')
    rw [List.getLast?_append_of_ne_nil _ hnew', List.getLast?_eq_getLast_of_ne_nil hnew']
    simp [hafterSome, hlast]

/-- The agent publishes between the removal and the restart: the old snapshot is there. -/
theorem redeploy_shows_old : ∃ s s' : StateFile, s.generation = 0 ∧
    (stateFile "health.json").run s [.remove, .create ['a'], .flush 1, .replace, .die] = some s' ∧
    ((shownBy "health.json" s' = none ↔
        FileAction.replace ∉ [.create ['a'], .flush 1, .replace] ∧ FileAction.replace ∉ []) ∧
      (shownBy "health.json" s' = some s.generation ↔
        FileAction.replace ∈ [.create ['a'], .flush 1, .replace] ∧ FileAction.replace ∉ []) ∧
      (shownBy "health.json" s' = some (s.generation + 1) ↔ FileAction.replace ∈ [])) := by
  have hrun : ((stateFile "health.json").run {}
      [.remove, .create ['a'], .flush 1, .replace, .die]).isSome = true := by
    decide +kernel
  obtain ⟨s', hs'⟩ := Option.isSome_iff_exists.1 hrun
  refine ⟨{}, s', rfl, hs', redeploy_shows ⟨[], rfl⟩ ?_ ?_ hs'⟩
  · intro a ha
    obtain rfl | rfl | rfl := by simpa using ha
    all_goals exact ⟨by simp, by simp⟩
  · intro a ha
    simp at ha

end AnalyticsTesting.Monitoring
