import Checkup.Entries
import Checkup.Workspace.Basic

/-!
# Scans under way

A scan starts projects in order, as long as fewer are in flight than there are workers, and projects in
flight finish in any order. Once the scan is cancelled, the projects that would start are skipped, while those
in flight still finish.

* `Event`, `Progress.step?` — what can happen, and what is then the case.
* `Progress.run` — what is the case after some events.
* `Progress.outcome` — what a scan has come to.
* `eventsInOrder` — the events of a scan that finishes each project before it starts the next.
-/

namespace Checkup.Workspace

/-- What became of a project. -/
inductive Turn where
  | done (scan : ProjectScan)
  | failed (project : FailedProject)
  | skipped (project : Project)
  deriving DecidableEq, Repr

/-- A scan under way. -/
structure Progress where
  /-- The projects that have not had their turn, in order. -/
  waiting : List Project
  /-- The projects that have started and not finished. -/
  inFlight : List Project
  /-- What became of the others, the latest last. -/
  turns : List Turn
  cancelled : Bool
  deriving DecidableEq, Repr

/-- What can happen during a scan. -/
inductive Event where
  /-- The next project starts, or is skipped. -/
  | start
  /-- The project at a position among those in flight finishes. -/
  | finish (position : Nat)
  | cancel
  deriving DecidableEq, Repr

namespace Progress

/-- A scan that has not begun. -/
def initial (projects : List Project) (cancelled : Bool) : Progress :=
  ⟨projects, [], [], cancelled⟩

/-- The scan after an event, if the event can happen. `scan` tells what becomes of a project that has
started. -/
def step? (workers : Nat) (scan : Project → Turn) (event : Event) (s : Progress) : Option Progress :=
  match event with
  | .start =>
    match s.waiting with
    | [] => none
    | project :: rest =>
      if workers ≤ s.inFlight.length then none
      else if s.cancelled then some { s with waiting := rest, turns := s.turns ++ [.skipped project] }
      else some { s with waiting := rest, inFlight := s.inFlight ++ [project] }
  | .finish position =>
    (s.inFlight[position]?).map fun project =>
      { s with inFlight := s.inFlight.eraseIdx position, turns := s.turns ++ [scan project] }
  | .cancel => some { s with cancelled := true }

/-- The scan after some events; those that cannot happen are passed over. -/
def run (workers : Nat) (scan : Project → Turn) (events : List Event) (s : Progress) : Progress :=
  events.foldl (fun s event => (s.step? workers scan event).getD s) s

/-- Whether every project has had its turn. -/
def isComplete (s : Progress) : Bool :=
  s.waiting.isEmpty && s.inFlight.isEmpty

end Progress

/-- A turn as an entry under the name of the project, if that was scanned. -/
def Turn.entry : Turn → Option (String × ProjectScan)
  | done scan => some (scan.project.name, scan)
  | _ => none

/-- The project of a turn, if it failed. -/
def Turn.failure : Turn → Option FailedProject
  | failed project => some project
  | _ => none

/-- Whether a project was skipped. -/
def Turn.isSkipped : Turn → Bool
  | skipped _ => true
  | _ => false

/-- What a scan has come to. Of scanned projects with one name the last counts. -/
def Progress.outcome (s : Progress) : Outcome where
  projects := (Entries.sort (Entries.merge (s.turns.filterMap Turn.entry))).map (·.2)
  failed := (s.turns.filterMap Turn.failure).mergeSort fun a b => a.name ≤ b.name
  isPartial := s.turns.any Turn.isSkipped

/-- The events of a scan that finishes each project before it starts the next; `interrupts` tells which
projects cancel the scan. -/
def eventsInOrder (interrupts : Project → Bool) (cancelled : Bool) : List Project → List Event
  | [] => []
  | project :: rest =>
    if cancelled then .start :: eventsInOrder interrupts true rest
    else if interrupts project then .start :: .cancel :: .finish 0 :: eventsInOrder interrupts true rest
    else .start :: .finish 0 :: eventsInOrder interrupts false rest

end Checkup.Workspace
