import Checkup.Workspace.Progress
import Mathlib.Data.List.Basic
import Mathlib.Data.List.Perm.Basic

/-!
# What is kept during a scan

The events that can happen are four rules (`Step`): a project starts, a project is skipped, a project in
flight finishes, the scan is cancelled. At every moment of a run, whatever the order of the events, the
projects are accounted for (`Accounts`): those started come first in the list, then those skipped, then those
that wait; each project started is either in flight or has had its turn, and each skipped one has been
skipped. A step keeps the account (`Step.accounts`), and so does a run (`accounts_run`).

In the end nothing waits and nothing is in flight, so the turns are those of the projects started and skipped,
each once (`Accounts.of_isComplete`). A scan can always be brought to its end
(`exists_isComplete_run`).
-/

namespace Checkup.Workspace

open scoped List

/-- The project that is skipped in a turn, if it is. -/
def Turn.skippedProject? : Turn → Option Project
  | skipped project => some project
  | _ => none

namespace Progress

variable {workers : Nat} {scan : Project → Turn} {projects : List Project} {s t : Progress}

/-- The projects skipped so far, in the order of their turns. -/
def skipped (s : Progress) : List Project :=
  s.turns.filterMap Turn.skippedProject?

/-! ### The rules of a scan -/

/-- What can happen during a scan, and what is then the case. -/
inductive Step (workers : Nat) (scan : Project → Turn) (s : Progress) : Event → Progress → Prop where
  | start {project rest} (next : s.waiting = project :: rest) (room : s.inFlight.length < workers)
      (going : s.cancelled = false) :
      Step workers scan s .start { s with waiting := rest, inFlight := s.inFlight ++ [project] }
  | skip {project rest} (next : s.waiting = project :: rest) (room : s.inFlight.length < workers)
      (cancelled : s.cancelled = true) :
      Step workers scan s .start { s with waiting := rest, turns := s.turns ++ [.skipped project] }
  | finish {place project} (found : s.inFlight[place]? = some project) :
      Step workers scan s (.finish place)
        { s with inFlight := s.inFlight.eraseIdx place, turns := s.turns ++ [scan project] }
  | cancel : Step workers scan s .cancel { s with cancelled := true }

/-- The rules are those by which a scan is run. -/
theorem step?_eq_some_iff {event : Event} :
    s.step? workers scan event = some t ↔ Step workers scan s event t := by
  constructor
  · intro h
    cases event with
    | start =>
      cases hnext : s.waiting with
      | nil => simp [step?, hnext] at h
      | cons project rest =>
        by_cases hroom : workers ≤ s.inFlight.length
        · simp [step?, hnext, hroom] at h
        · have hlt := Nat.lt_of_not_le hroom
          by_cases hcancelled : s.cancelled = true
          · simp only [step?, hnext, if_neg hroom, if_pos hcancelled, Option.some.injEq] at h
            exact h ▸ .skip hnext hlt hcancelled
          · simp only [step?, hnext, if_neg hroom, if_neg hcancelled, Option.some.injEq] at h
            exact h ▸ .start hnext hlt (Bool.eq_false_iff.mpr hcancelled)
    | finish place =>
      obtain ⟨project, hfound, rfl⟩ := Option.map_eq_some_iff.mp h
      exact .finish hfound
    | cancel =>
      obtain rfl := Option.some.inj h
      exact .cancel
  · intro h
    cases h with
    | start next room going => simp [step?, next, Nat.not_le.mpr room, going]
    | skip next room cancelled => simp [step?, next, Nat.not_le.mpr room, cancelled]
    | finish found => simp [step?, found]
    | cancel => rfl

theorem run_cons_of_step {event : Event} (h : Step workers scan s event t) (events : List Event) :
    s.run workers scan (event :: events) = t.run workers scan events := by
  rw [run, List.foldl_cons, step?_eq_some_iff.mpr h]
  rfl

/-- What every step by one of the events keeps, the run of them keeps. -/
theorem run_induction {P : Progress → Prop} {events : List Event}
    (hstep : ∀ {s t event}, event ∈ events → Step workers scan s event t → P s → P t) (h : P s) :
    P (s.run workers scan events) := by
  induction events generalizing s with
  | nil => exact h
  | cons event events ih =>
    rw [run, List.foldl_cons]
    refine ih (fun hmem => hstep (List.mem_cons_of_mem event hmem)) ?_
    cases hevent : s.step? workers scan event with
    | none => exact h
    | some t => exact hstep List.mem_cons_self (step?_eq_some_iff.mp hevent) h

/-! ### The account -/

/-- At some moment of a scan, the projects are those started, those skipped and those that wait, in this order.
Those started have had their turn or are in flight, those skipped have been skipped, and projects are skipped
only once the scan is cancelled. -/
structure Accounts (scan : Project → Turn) (projects started : List Project) (s : Progress) : Prop where
  projects_eq : projects = started ++ s.skipped ++ s.waiting
  turns_perm : (s.turns ++ s.inFlight.map scan).Perm
    (started.map scan ++ s.skipped.map .skipped)
  cancelled_of_skipped : s.skipped ≠ [] → s.cancelled = true

theorem accounts_initial (scan : Project → Turn) (projects : List Project) (cancelled : Bool) :
    Accounts scan projects [] (initial projects cancelled) :=
  ⟨rfl, .refl _, fun h => absurd rfl h⟩

/-- A step keeps the account. -/
theorem Step.accounts {event : Event} {started : List Project}
    (hscan : ∀ p, (scan p).skippedProject? = none) (hstep : Step workers scan s event t)
    (h : Accounts scan projects started s) : ∃ started, Accounts scan projects started t := by
  obtain ⟨hprojects, hturns, hcancelled⟩ := h
  cases hstep with
  | @start project rest next room going =>
    -- nothing has been skipped yet, so the project follows those started
    have hnone : s.skipped = [] := by
      by_contra hne
      exact Bool.false_ne_true (going.symm.trans (hcancelled hne))
    rw [hnone, List.append_nil, next] at hprojects
    rw [hnone, List.map_nil, List.append_nil] at hturns
    refine ⟨started ++ [project], ?_, ?_, hcancelled⟩
    · change projects = started ++ [project] ++ s.skipped ++ rest
      rw [hnone, List.append_nil, ← List.append_cons]
      exact hprojects
    · change (s.turns ++ (s.inFlight ++ [project]).map scan).Perm
        ((started ++ [project]).map scan ++ s.skipped.map .skipped)
      rw [hnone, List.map_nil, List.append_nil, List.map_append, List.map_append,
        ← List.append_assoc]
      exact hturns.append_right _
  | @skip project rest next room cancelled =>
    have hskipped : skipped { s with waiting := rest, turns := s.turns ++ [.skipped project] } =
        s.skipped ++ [project] := by
      rw [skipped, List.filterMap_append]
      rfl
    refine ⟨started, ?_, ?_, fun _ => cancelled⟩
    · rw [hskipped, hprojects, next]
      simp only [List.append_assoc, List.singleton_append]
    · rw [hskipped, List.map_append, ← List.append_assoc]
      calc (s.turns ++ [.skipped project]) ++ s.inFlight.map scan
          = s.turns ++ ([.skipped project] ++ s.inFlight.map scan) := List.append_assoc ..
        _ ~ s.turns ++ (s.inFlight.map scan ++ [.skipped project]) :=
            List.perm_append_comm.append_left _
        _ = (s.turns ++ s.inFlight.map scan) ++ [.skipped project] := (List.append_assoc ..).symm
        _ ~ _ := hturns.append_right _
  | @finish place project found =>
    have hskipped : skipped { s with
        inFlight := s.inFlight.eraseIdx place, turns := s.turns ++ [scan project] } = s.skipped := by
      rw [skipped, List.filterMap_append, List.filterMap_cons_none (hscan project),
        List.filterMap_nil, List.append_nil]
      rfl
    refine ⟨started, by rw [hskipped]; exact hprojects, ?_, fun hne => hcancelled (hskipped ▸ hne)⟩
    have hflight : (project :: s.inFlight.eraseIdx place).Perm s.inFlight := by
      obtain ⟨hlt, rfl⟩ := List.getElem?_eq_some_iff.mp found
      exact List.getElem_cons_eraseIdx_perm hlt
    rw [hskipped]
    calc (s.turns ++ [scan project]) ++ (s.inFlight.eraseIdx place).map scan
        = s.turns ++ (project :: s.inFlight.eraseIdx place).map scan := List.append_assoc ..
      _ ~ s.turns ++ s.inFlight.map scan := (hflight.map scan).append_left _
      _ ~ _ := hturns
  | cancel => exact ⟨started, hprojects, hturns, fun _ => rfl⟩

/-- So does a run, whatever the order of its events. -/
theorem accounts_run (hscan : ∀ p, (scan p).skippedProject? = none) (events : List Event)
    (cancelled : Bool) : ∃ started,
      Accounts scan projects started ((initial projects cancelled).run workers scan events) :=
  run_induction (P := fun s => ∃ started, Accounts scan projects started s)
    (fun _ hstep ⟨_, h⟩ => hstep.accounts hscan h) ⟨[], accounts_initial scan projects cancelled⟩

/-- In the end all projects have had their turn or have been skipped, each once. -/
theorem Accounts.of_isComplete {started : List Project} (h : Accounts scan projects started s)
    (hdone : s.isComplete = true) : projects = started ++ s.skipped ∧
      s.turns.Perm (started.map scan ++ s.skipped.map .skipped) := by
  rw [isComplete, Bool.and_eq_true, List.isEmpty_iff, List.isEmpty_iff] at hdone
  obtain ⟨hwaiting, hflight⟩ := hdone
  obtain ⟨hprojects, hturns, -⟩ := h
  rw [hwaiting, List.append_nil] at hprojects
  rw [hflight, List.map_nil, List.append_nil] at hturns
  exact ⟨hprojects, hturns⟩

/-- Without a cancellation nothing is skipped. -/
theorem skipped_run_eq_nil (hscan : ∀ p, (scan p).skippedProject? = none) {events : List Event}
    (hevents : .cancel ∉ events) :
    ((initial projects false).run workers scan events).skipped = [] := by
  have hgoing : ((initial projects false).run workers scan events).cancelled = false := by
    refine run_induction (P := fun s => s.cancelled = false) (fun hmem hstep h => ?_) rfl
    cases hstep with
    | start => exact h
    | skip => exact h
    | finish => exact h
    | cancel => exact absurd hmem hevents
  obtain ⟨started, h⟩ : ∃ started, Accounts scan projects started
      ((initial projects false).run workers scan events) := accounts_run hscan events false
  by_contra hne
  exact Bool.false_ne_true (hgoing.symm.trans (h.cancelled_of_skipped hne))

/-! ### The end of a scan -/

/-- The events that it takes at most to end a scan: two for each project that waits, one for each in flight. -/
def toGo (s : Progress) : Nat :=
  2 * s.waiting.length + s.inFlight.length

/-- As long as a scan is not at its end, it can be brought closer without cancelling it. -/
theorem exists_step_of_not_isComplete (scan : Project → Turn) (hworkers : 0 < workers)
    (hgoing : s.isComplete = false) :
    ∃ event t, Step workers scan s event t ∧ event ≠ .cancel ∧ t.toGo < s.toGo := by
  cases hflight : s.inFlight with
  | cons project rest =>
    have hfound : s.inFlight[0]? = some project := by rw [hflight]; rfl
    refine ⟨.finish 0, _, .finish hfound, by simp, ?_⟩
    simp [toGo, hflight]
  | nil =>
    have hroom : s.inFlight.length < workers := by rw [hflight]; exact hworkers
    cases hnext : s.waiting with
    | nil => simp [isComplete, hflight, hnext] at hgoing
    | cons project rest =>
      cases hcancelled : s.cancelled with
      | false =>
        refine ⟨.start, _, .start hnext hroom hcancelled, by simp, ?_⟩
        simp [toGo, hflight, hnext]
        omega
      | true =>
        refine ⟨.start, _, .skip hnext hroom hcancelled, by simp, ?_⟩
        simp [toGo, hflight, hnext]

/-- With a worker at least, a scan can be brought to its end from wherever it has got to. -/
theorem exists_isComplete_run (hworkers : 0 < workers) (scan : Project → Turn) (s : Progress) :
    ∃ events, .cancel ∉ events ∧ (s.run workers scan events).isComplete = true := by
  induction hn : s.toGo using Nat.strongRecOn generalizing s with
  | ind n ih =>
    cases hdone : s.isComplete with
    | true => exact ⟨[], List.not_mem_nil, hdone⟩
    | false =>
      obtain ⟨event, t, hstep, hcancel, hlt⟩ :=
        exists_step_of_not_isComplete scan hworkers hdone
      obtain ⟨events, hnot, hend⟩ := ih t.toGo (hn ▸ hlt) t rfl
      refine ⟨event :: events, ?_, by rwa [run_cons_of_step hstep]⟩
      rw [List.mem_cons, not_or]
      exact ⟨hcancel.symm, hnot⟩

/-- The events of a scan that finishes each project before it starts the next bring it to its end. -/
theorem isComplete_run_eventsInOrder (hworkers : 0 < workers) (scan : Project → Turn)
    (interrupts : Project → Bool) {cancelled : Bool} (hwaiting : s.waiting = projects)
    (hflight : s.inFlight = []) (hcancelled : s.cancelled = cancelled) :
    (s.run workers scan (eventsInOrder interrupts cancelled projects)).isComplete = true := by
  induction projects generalizing s cancelled with
  | nil => simp [eventsInOrder, run, isComplete, hwaiting, hflight]
  | cons project rest ih =>
    have hroom : s.inFlight.length < workers := by rwa [hflight]
    have hfound : (s.inFlight ++ [project])[0]? = some project := by simp [hflight]
    have hlanded : (s.inFlight ++ [project]).eraseIdx 0 = [] := by simp [hflight]
    rw [eventsInOrder]
    split_ifs with hstop hinterrupts
    · rw [run_cons_of_step (.skip hwaiting hroom (hcancelled.trans hstop))]
      exact ih rfl hflight (hcancelled.trans hstop)
    · have hgoing := hcancelled.trans (Bool.eq_false_iff.mpr hstop)
      rw [run_cons_of_step (.start hwaiting hroom hgoing), run_cons_of_step .cancel,
        run_cons_of_step (.finish hfound)]
      exact ih rfl hlanded rfl
    · have hgoing := hcancelled.trans (Bool.eq_false_iff.mpr hstop)
      rw [run_cons_of_step (.start hwaiting hroom hgoing), run_cons_of_step (.finish hfound)]
      exact ih rfl hlanded hgoing

end Progress

end Checkup.Workspace
