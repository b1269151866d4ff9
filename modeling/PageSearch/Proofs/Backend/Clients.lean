import Mathlib.Data.List.Nodup
import Mathlib.Data.List.Perm.Basic
import Mathlib.Data.List.Range
import PageSearch.Proofs.Backend.Steps

/-!
# The clients of a connection

Every client that a connection has opened is at one place: it is closed, it is held, or it was lost when another
one was opened in its place (`Accounted`). An event moves clients between these places (`Turn`), so that after
any events no client is closed twice and the open clients are the one that is held and the lost ones
(`accounted_run`). A client is lost exactly if a connection that holds one is told to open another
(`lost_eq_nil_iff`); executing a request never loses one. So nothing leaks exactly as long as this does not happen
(`balanced_iff`).
-/

namespace PageSearch.Connection

variable {c c' : Connection}

/-! ### What an event does to the clients -/

/-- What can happen to the clients of a connection, and which of them are lost. -/
inductive Turn (c c' : Connection) (lost : List Nat) : Prop where
  /-- Nothing. -/
  | keeps (held : c'.held = c.held) (opened : c'.opened = c.opened) (closed : c'.closed = c.closed)
    (none_lost : lost = [])
  /-- A client is opened, and the one that was held is lost. -/
  | opens (params : Fields) (ready : c.notedParameters = .ok params) (held : c'.held = some c.opened.length)
    (opened : c'.opened = c.opened ++ [params]) (closed : c'.closed = c.closed) (held_lost : lost = c.held.toList)
  /-- The client that is held is closed. -/
  | closes (held : c'.held = none) (opened : c'.opened = c.opened) (closed : c'.closed = c.closed ++ c.held.toList)
    (none_lost : lost = [])

/-- Opening a client fails before anything has changed, or loses the client that is held. -/
theorem turn_connect (c : Connection) :
    Turn c c.connect.2 (if c.notedParameters.isOk then c.held.toList else []) := by
  cases hparams : c.notedParameters with
  | error fault =>
    rw [connect_of_error hparams]
    exact .keeps rfl rfl rfl rfl
  | ok params =>
    rw [connect_of_ok hparams]
    exact .opens params hparams rfl rfl rfl rfl

theorem turn_ensure (c : Connection) : Turn c c.ensure.2 [] := by
  by_cases hheld : c.held = none
  · have hturn := turn_connect c
    rwa [hheld, Option.toList_none, ite_self, ← ensure_of_not_held hheld] at hturn
  · rw [ensure_of_held hheld]
    exact .keeps rfl rfl rfl rfl

theorem turn_close (c : Connection) : Turn c c.close [] := by
  cases hheld : c.held with
  | none =>
    rw [close, hheld]
    exact .keeps rfl rfl rfl rfl
  | some client =>
    rw [close, hheld]
    exact .closes rfl rfl (by rw [hheld, Option.toList_some]) rfl

/-- A call changes nothing about the clients. -/
theorem Turn.called {lost : List Nat} (h : Turn c c' lost) (call : Call) (noted : List LogEntry) :
    Turn c (c'.called call noted) lost := by
  cases h with
  | keeps held opened closed none_lost => exact .keeps held opened closed none_lost
  | opens params ready held opened closed held_lost => exact .opens params ready held opened closed held_lost
  | closes held opened closed none_lost => exact .closes held opened closed none_lost

/-- The clients that an event loses: the one that is held when another is opened. -/
def lostBy (c : Connection) : Event → List Nat
  | .connect => if c.notedParameters.isOk then c.held.toList else []
  | _ => []

/-- **One event** is a turn of the clients. -/
theorem turn_step (c : Connection) (event : Event) : Turn c (c.step event).2 (c.lostBy event) := by
  cases event with
  | connect => exact turn_connect c
  | close => exact turn_close c
  | execute request context =>
    change Turn c (execute request context c).2 []
    rcases execute_snd_cases request context c with h | ⟨call, noted, h⟩
    · rw [h]
      exact turn_ensure c
    · rw [h]
      exact (turn_ensure c).called call noted
  | setEngine engine => exact .keeps rfl rfl rfl rfl

/-! ### Runs -/

/-- Every client that was opened is closed, held or lost, and at one of these places only. -/
def Accounted (c : Connection) (lost : List Nat) : Prop :=
  (List.range c.opened.length).Perm (c.closed ++ c.held.toList ++ lost)

theorem Accounted.turn {lost more : List Nat} (h : Accounted c lost) (hturn : Turn c c' more) :
    Accounted c' (lost ++ more) := by
  rw [Accounted] at h ⊢
  cases hturn with
  | keeps held opened closed none_lost => rwa [held, opened, closed, none_lost, List.append_nil]
  | opens params _ held opened closed held_lost =>
    rw [held, opened, closed, held_lost, List.length_append, List.length_singleton, List.range_succ]
    have hmove : (c.held.toList ++ lost ++ [c.opened.length]).Perm ([c.opened.length] ++ (lost ++ c.held.toList)) :=
      List.perm_append_comm.trans (List.perm_append_comm.append_left _)
    refine (h.append_right _).trans ?_
    simp only [List.append_assoc, Option.toList_some] at hmove ⊢
    exact hmove.append_left c.closed
  | closes held opened closed none_lost =>
    rwa [held, opened, closed, none_lost, Option.toList_none, List.append_nil, List.append_nil]

/-- The clients that are lost during events, one after the other. -/
def lost (c : Connection) : List Event → List Nat
  | [] => []
  | event :: events => c.lostBy event ++ lost (c.step event).2 events

theorem accounted_run_append {gone : List Nat} (h : Accounted c gone) (events : List Event) :
    Accounted (c.run events) (gone ++ c.lost events) := by
  induction events generalizing c gone with
  | nil => simpa [lost, run] using h
  | cons event events ih =>
    rw [run_cons, lost, ← List.append_assoc]
    exact ih (h.turn (turn_step c event))

/-- **After any events** each client is closed, held or lost. -/
theorem accounted_run (settings : Value) (verbose canLog : Bool) (encodes : LogEntry → Bool)
    (engine : Except EngineError Value) (events : List Event) :
    let start := fresh settings verbose canLog encodes engine
    Accounted (start.run events) (start.lost events) := by
  have hfresh : Accounted (fresh settings verbose canLog encodes engine) [] := List.Perm.refl []
  exact accounted_run_append hfresh events

/-! ### Leaks -/

/-- A client is only held if one can be opened. -/
def Ready (c : Connection) : Prop := c.held ≠ none → c.notedParameters.isOk

theorem Ready.step (h : Ready c) (event : Event) : Ready (c.step event).2 := by
  rw [Ready, (sameTerms_step c event).notedParameters_eq]
  cases turn_step c event with
  | keeps held _ _ _ => rwa [held]
  | opens params ready _ _ _ _ =>
    rw [ready]
    exact fun _ => rfl
  | closes held _ _ _ => exact fun hheld => absurd held hheld

theorem lostBy_connect_eq_nil_iff (h : Ready c) : c.lostBy .connect = [] ↔ c.held = none := by
  rw [lostBy]
  by_cases hheld : c.held = none
  · simp [hheld]
  · rw [if_pos (h hheld), Option.toList_eq_nil_iff]

/-- **A client is lost** exactly if a connection that holds one is told to open another. -/
theorem lost_eq_nil_iff (h : Ready c) (events : List Event) :
    c.lost events = [] ↔ ∀ before after, events = before ++ .connect :: after → (c.run before).held = none := by
  induction events generalizing c with
  | nil => simp [lost]
  | cons event events ih =>
    rw [lost, List.append_eq_nil_iff, ih (h.step event)]
    constructor
    · rintro ⟨hnow, hlater⟩ before after hevents
      cases before with
      | nil =>
        obtain ⟨rfl, -⟩ := List.cons.inj hevents
        exact (lostBy_connect_eq_nil_iff h).1 hnow
      | cons first before =>
        obtain ⟨rfl, hrest⟩ := List.cons.inj hevents
        exact hlater before after hrest
    · intro hnone
      refine ⟨?_, fun before after hevents => hnone (event :: before) after (congrArg (event :: ·) hevents)⟩
      cases event with
      | connect => exact (lostBy_connect_eq_nil_iff h).2 (hnone [] events rfl)
      | _ => rfl

/-- **Nothing leaks** exactly as long as a connection that holds a client is not told to open another: then the
open clients are those that are held. In any case no client is closed twice, and the one that is held is open. -/
theorem balanced_iff (settings : Value) (verbose canLog : Bool) (encodes : LogEntry → Bool)
    (engine : Except EngineError Value) (events : List Event) :
    let start := fresh settings verbose canLog encodes engine
    let c := start.run events
    c.closed.Nodup ∧ (∀ client ∈ c.closed, client < c.opened.length ∧ c.held ≠ some client) ∧
      ((c.opened.length : Int) - c.closed.length = (if c.held.isSome then 1 else 0) ↔
        ∀ before after, events = before ++ .connect :: after → (start.run before).held = none) := by
  intro start c
  have hplaces : (List.range c.opened.length).Perm (c.closed ++ c.held.toList ++ start.lost events) :=
    accounted_run settings verbose canLog encodes engine events
  have hready : Ready start := fun hheld => absurd rfl hheld
  have hnodup := hplaces.nodup_iff.1 List.nodup_range
  rw [List.append_assoc, List.nodup_append] at hnodup
  obtain ⟨hclosed, -, hapart⟩ := hnodup
  refine ⟨hclosed, fun client hclient => ⟨?_, fun hheld => ?_⟩, ?_⟩
  · rw [← List.mem_range, hplaces.mem_iff, List.append_assoc]
    exact List.mem_append_left _ hclient
  · exact hapart client hclient client (by simp [hheld]) rfl
  · rw [← lost_eq_nil_iff hready events, ← List.length_eq_zero_iff]
    have hlength := hplaces.length_eq
    rw [List.length_range, List.length_append, List.length_append] at hlength
    cases hheld : c.held with
    | none =>
      rw [hheld, Option.toList_none, List.length_nil] at hlength
      simp only [Option.isSome_none, Bool.false_eq_true, if_false]
      omega
    | some client =>
      rw [hheld, Option.toList_some, List.length_singleton] at hlength
      simp only [Option.isSome_some, if_true]
      omega

/-- **A client can leak**: of two that are opened one after the other only the second is held, and the first stays
open also when the connection is closed. -/
theorem not_balanced :
    let start := fresh (.obj [("host", .str "http://localhost:9200")]) true true (fun _ => true) (.ok (.obj []))
    let c := start.run [.connect, .connect]
    let d := start.run [.connect, .connect, .close]
    c.held = some 1 ∧ (c.opened.length : Int) - c.closed.length = 2 ∧ d.held = none ∧
      (d.opened.length : Int) - d.closed.length = 1 := by
  decide

end PageSearch.Connection
